/-! Values of JSON. -/

namespace Killfile

/-- A value of JSON. A text is absent when its bytes or escapes are no Unicode text, and an integer
is absent when the numeral has a fraction, an exponent or is minus zero. -/
inductive Json where
  | null
  | bool (b : Bool)
  | number (n : Option Int)
  | string (s : Option String)
  | array (items : List Json)
  | object (members : List (Option String × Json))
deriving Inhabited, Repr

namespace Json

/-- A text of Unicode. -/
def text? : Json → Option String
  | .string s => s
  | _ => none

def bool? : Json → Option Bool
  | .bool b => some b
  | _ => none

/-- An integer of 64 bits with sign. -/
def int64? : Json → Option Int
  | .number (some n) => if -9223372036854775808 ≤ n ∧ n < 9223372036854775808 then some n else none
  | _ => none

/-- An array whose items all have a form. -/
def list? {α : Type} (item : Json → Option α) : Json → Option (List α)
  | .array items => items.mapM item
  | _ => none

/-- Null counts as absent. -/
def nullable? {α : Type} (value : Json → Option α) : Json → Option (Option α)
  | .null => some none
  | j => (value j).map some

/-- The members of a record with given field names: an object whose keys are texts, or an array that
gives the fields in order. -/
def record? (names : List String) : Json → Option (List (String × Json))
  | .object members => members.mapM fun (k, v) => k.map (·, v)
  | .array items => if items.length ≤ names.length then some (names.zip items) else none
  | _ => none

/-- The value of a field, if it is given. A field given twice is an error. -/
def field? {α : Type} (members : List (String × Json)) (name : String)
    (value : Json → Option α) : Option (Option α) :=
  match members.filter fun m => m.1 = name with
  | [] => some none
  | [m] => (value m.2).map some
  | _ => none

/-- The value of a field that has to be given. -/
def required? {α : Type} (members : List (String × Json)) (name : String)
    (value : Json → Option α) : Option α :=
  (field? members name value).bind id

/-- The value of a field, or another if it is not given. -/
def optional? {α : Type} (members : List (String × Json)) (name : String) (default : α)
    (value : Json → Option α) : Option α :=
  (field? members name value).map fun v => v.getD default

end Json

end Killfile

import Killfile.Json
import Killfile.Text.Utf8

/-! Reading JSON. Characters come from bytes and are absent where these are malformed. -/

namespace Killfile.Json

abbrev Input := List (Option Char)

def skipBlanks (s : Input) : Input :=
  s.dropWhile fun c => c == some ' ' || c == some '\n' || c == some '\t' || c == some '\r'

/-- Value of a hexadecimal digit. -/
def hexDigit? (c : Char) : Option Nat :=
  if c.isDigit then some (c.toNat - '0'.toNat)
  else if 'a' ≤ c ∧ c ≤ 'f' then some (c.toNat - 'a'.toNat + 10)
  else if 'A' ≤ c ∧ c ≤ 'F' then some (c.toNat - 'A'.toNat + 10)
  else none

/-- The character of a one-letter escape. -/
def simpleEscape? : Char → Option Char
  | '"' => some '"'
  | '\\' => some '\\'
  | '/' => some '/'
  | 'b' => some '\x08'
  | 'f' => some '\x0c'
  | 'n' => some '\n'
  | 'r' => some '\r'
  | 't' => some '\t'
  | _ => none

/-- The code points of a string up to its closing quote. Escapes give surrogates one by one, and a
malformed part gives no code point. Control characters are refused. -/
def stringBody : Input → Option (List (Option Nat) × Input)
  | some '\\' :: some 'u' :: some a :: some b :: some c :: some d :: s => do
    let n := 4096 * (← hexDigit? a) + 256 * (← hexDigit? b) + 16 * (← hexDigit? c) + (← hexDigit? d)
    let (l, r) ← stringBody s
    some (some n :: l, r)
  | some '\\' :: some e :: s => do
    let c ← simpleEscape? e
    let (l, r) ← stringBody s
    some (some c.toNat :: l, r)
  | some '\\' :: _ => none
  | some '"' :: s => some ([], s)
  | some c :: s =>
    if c.toNat < 0x20 then none
    else (stringBody s).map fun (l, r) => (some c.toNat :: l, r)
  | none :: s => (stringBody s).map fun (l, r) => (none :: l, r)
  | [] => none

/-- Joins surrogates in pairs. A surrogate alone is no text. -/
def joinSurrogates : List (Option Nat) → Option (List Char)
  | [] => some []
  | some a :: some b :: s =>
    if 0xD800 ≤ a ∧ a ≤ 0xDBFF ∧ 0xDC00 ≤ b ∧ b ≤ 0xDFFF then do
      let c ← Text.Utf8.scalar? (0x10000 + 1024 * (a - 0xD800) + (b - 0xDC00))
      some (c :: (← joinSurrogates s))
    else do
      let c ← Text.Utf8.scalar? a
      some (c :: (← joinSurrogates (some b :: s)))
  | some a :: s => do
    let c ← Text.Utf8.scalar? a
    some (c :: (← joinSurrogates s))
  | none :: _ => none

/-- A string after its opening quote. -/
def readString (s : Input) : Option (Option String × Input) :=
  (stringBody s).map fun (l, r) => ((joinSurrogates l).map String.ofList, r)

def isDigit (c : Option Char) : Bool := c.any Char.isDigit

/-- Value of decimal digits. -/
def decimal (digits : Input) : Nat :=
  digits.foldl (fun n c => 10 * n + ((c.getD '0').toNat - '0'.toNat)) 0

/-- The integer part of a number: zero alone, or digits that do not begin with it. -/
def integerPart (s : Input) : Option (Nat × Input) :=
  match s.takeWhile isDigit, s.dropWhile isDigit with
  | [], _ => none
  | [d], r => some (decimal [d], r)
  | some '0' :: _, _ => none
  | ds, r => some (decimal ds, r)

/-- A decimal point and digits, if a point stands there. The mark tells whether it does. -/
def fractionPart : Input → Option (Bool × Input)
  | some '.' :: s => if isDigit (s.head?.getD none) then some (true, s.dropWhile isDigit) else none
  | s => some (false, s)

/-- An exponent, if its letter stands there. -/
def exponentPart : Input → Option (Bool × Input)
  | some c :: s =>
    if c = 'e' ∨ c = 'E' then
      let s := match s with
        | some '+' :: t => t
        | some '-' :: t => t
        | _ => s
      if isDigit (s.head?.getD none) then some (true, s.dropWhile isDigit) else none
    else some (false, some c :: s)
  | s => some (false, s)

/-- A number whose sign has been read. -/
def readNumber (negative : Bool) (s : Input) : Option (Json × Input) := do
  let (n, s) ← integerPart s
  let (fraction, s) ← fractionPart s
  let (exponent, s) ← exponentPart s
  let value := if fraction || exponent || (negative && n == 0) then none
    else some (if negative then -(n : Int) else n)
  some (.number value, s)

/-- A literal word. -/
def readWord (w : List Char) (j : Json) (s : Input) : Option (Json × Input) :=
  if s.take w.length = w.map some then some (j, s.drop w.length) else none

mutual
/-- One value. The number bounds the nesting and the items together. -/
def readValue : Nat → Input → Option (Json × Input)
  | 0, _ => none
  | fuel + 1, s =>
    match skipBlanks s with
    | some '"' :: s => (readString s).map fun (t, r) => (.string t, r)
    | some '[' :: s =>
      match skipBlanks s with
      | some ']' :: r => some (.array [], r)
      | s => (readItems fuel s).map fun (l, r) => (.array l, r)
    | some '\x7b' :: s =>
      match skipBlanks s with
      | some '\x7d' :: r => some (.object [], r)
      | s => (readMembers fuel s).map fun (l, r) => (.object l, r)
    | some 'n' :: s => readWord "ull".toList .null s
    | some 't' :: s => readWord "rue".toList (.bool true) s
    | some 'f' :: s => readWord "alse".toList (.bool false) s
    | some '-' :: s => readNumber true s
    | s => readNumber false s

/-- Items up to the closing bracket. -/
def readItems : Nat → Input → Option (List Json × Input)
  | 0, _ => none
  | fuel + 1, s => do
    let (j, s) ← readValue fuel s
    match skipBlanks s with
    | some ',' :: s => (readItems fuel s).map fun (l, r) => (j :: l, r)
    | some ']' :: s => some ([j], s)
    | _ => none

/-- Members up to the closing brace. -/
def readMembers : Nat → Input → Option (List (Option String × Json) × Input)
  | 0, _ => none
  | fuel + 1, s =>
    match skipBlanks s with
    | some '"' :: s => do
      let (k, s) ← readString s
      match skipBlanks s with
      | some ':' :: s => do
        let (j, s) ← readValue fuel s
        match skipBlanks s with
        | some ',' :: s => (readMembers fuel s).map fun (l, r) => ((k, j) :: l, r)
        | some '\x7d' :: s => some ([(k, j)], s)
        | _ => none
      | _ => none
    | _ => none
end

/-- Reads a whole text. -/
def parse (s : Input) : Option Json :=
  match readValue (2 * s.length + 2) s with
  | some (j, r) => if skipBlanks r = [] then some j else none
  | none => none

/-- Reads bytes. -/
def ofBytes (s : List UInt8) : Option Json := parse (Text.Utf8.decode s)

end Killfile.Json

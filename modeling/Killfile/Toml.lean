/-! Documents of TOML: nested tables, and the rules by which keys and headers build them. -/

namespace Killfile

namespace Toml

/-- How a table came to be. A closed table is written in braces. An implied one stands on the way to
the table of a header, and a dotted one on the way to a dotted key. -/
inductive Origin where
  | closed | implied | dotted | header
deriving DecidableEq, Repr

end Toml

/-- A value. Numbers, booleans and dates hold nothing, since no setting is one. -/
inductive Toml where
  | string (s : String)
  | plain
  | array (items : List Toml)
  | table (origin : Toml.Origin) (members : List (String × Toml))
  /-- Tables under one header in double brackets. -/
  | tables (items : List (List (String × Toml)))
deriving Inhabited, Repr

namespace Toml

abbrev Members := List (String × Toml)

def find? (k : String) (ms : Members) : Option Toml := (ms.find? fun m => m.1 = k).map (·.2)

/-- Gives a key a value in its place, or at the end when it is new. -/
def assign (k : String) (v : Toml) : Members → Members
  | [] => [(k, v)]
  | m :: ms => if m.1 = k then (k, v) :: ms else m :: assign k v ms

/-- Changes the table that keys lead to. Tables that are not there yet are made on the way. Of tables
under one header the last is meant. No key leads through a closed table or a value, and no dotted key
through a table that has a header. -/
def descend (dotted : Bool) (change : Origin → Members → Option (Origin × Members)) :
    List String → Origin → Members → Option (Origin × Members)
  | [], origin, ms => change origin ms
  | k :: ks, origin, ms =>
    match find? k ms with
    | none => do
      let (o, t) ← descend dotted change ks (if dotted then .dotted else .implied) []
      some (origin, assign k (.table o t) ms)
    | some (.table o t) =>
      if o = .closed ∨ (dotted ∧ o = .header) then none
      else do
        let (o, t) ← descend dotted change ks o t
        some (origin, assign k (.table o t) ms)
    | some (.tables l) =>
      match l.getLast? with
      | none => none
      | some t => do
        let (_, t) ← descend dotted change ks .header t
        some (origin, assign k (.tables (l.dropLast ++ [t])) ms)
    | some _ => none

/-- Adds a value under a key that is not there yet. -/
def add (k : String) (v : Toml) (origin : Origin) (ms : Members) : Option (Origin × Members) :=
  if (find? k ms).isNone then some (origin, ms ++ [(k, v)]) else none

/-- Adds a value under a dotted key. The last table on the way has to be one of dotted keys. -/
def addDotted (path : List String) (k : String) (v : Toml) (origin : Origin) (ms : Members) :
    Option (Origin × Members) :=
  if path = [] then add k v origin ms
  else descend true (fun o ms => if o = .dotted then add k v o ms else none) path origin ms

/-- Opens the table of a header. An implied table becomes one with a header, and any other must not
be there. -/
def openTable (k : String) (origin : Origin) (ms : Members) : Option (Origin × Members) :=
  match find? k ms with
  | none => some (origin, ms ++ [(k, .table .header [])])
  | some (.table .implied t) => some (origin, assign k (.table .header t) ms)
  | some _ => none

/-- Opens one more table under a header in double brackets. -/
def openItem (k : String) (origin : Origin) (ms : Members) : Option (Origin × Members) :=
  match find? k ms with
  | none => some (origin, ms ++ [(k, .tables [[]])])
  | some (.tables l) => some (origin, assign k (.tables (l ++ [[]])) ms)
  | some _ => none

/-- A line of a document. Keys are never empty, so the last one stands apart. -/
inductive Line where
  | entry (path : List String) (key : String) (value : Toml)
  | table (path : List String) (key : String)
  | item (path : List String) (key : String)

/-- Adds a line to a document in which a header is open. -/
def addLine (header : List String) (ms : Members) : Line → Option (List String × Members)
  | .entry path k v =>
    (descend false (addDotted path k v) header .header ms).map fun r => (header, r.2)
  | .table path k =>
    (descend false (openTable k) path .header ms).map fun r => (path ++ [k], r.2)
  | .item path k =>
    (descend false (openItem k) path .header ms).map fun r => (path ++ [k], r.2)

/-- The document that lines make. -/
def ofLines (lines : List Line) : Option Members :=
  (lines.foldlM (fun (s : List String × Members) l => addLine s.1 s.2 l) ([], [])).map (·.2)

end Toml

end Killfile

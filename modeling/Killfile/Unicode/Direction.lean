import Killfile.Unicode.DirectionTable
import Killfile.Unicode.Property

/-! Directions of writing, for labels that are read from right to left. -/

namespace Killfile.Unicode

/-- Classes of direction. -/
inductive Direction where
  | left | right | arabic | arabicNumber | number | separator | terminator | commonSeparator
  | neutral | boundary | mark | other
deriving DecidableEq, Repr

def inRow (table : List (List String × List String)) (name : String) (c : Char) : Bool :=
  (row? table name).any (·.contains c)

/-- Marks that take up no space. A few of their category are written like letters. -/
def isMark (c : Char) : Bool :=
  (inRow categoryTable "mn" c || inRow categoryTable "me" c) &&
    !([0xCBF, 0xCC6, 0x11A07, 0x11A08, 0x11C3F].contains c.toNat)

def directionNames : List (String × Direction) :=
  [("r", .right), ("al", .arabic), ("an", .arabicNumber), ("en", .number), ("es", .separator),
    ("et", .terminator), ("cs", .commonSeparator), ("on", .neutral), ("bn", .boundary)]

/-- The class of a character that may stand in a domain. -/
def direction (c : Char) : Direction :=
  match directionNames.find? fun p => inRow directionTable p.1 c with
  | some p => p.2
  | none => if isMark c then .mark else if c.toNat ≤ 0x20 then .other else .left

/-- Text with such a character is not read from left to right throughout. -/
def Direction.isRight (d : Direction) : Bool := d ∈ [.right, .arabic, .arabicNumber]

/-- Directions without the marks at their end. -/
def dropMarks (ds : List Direction) : List Direction := (ds.reverse.dropWhile (· = .mark)).reverse

/-- A label keeps to one direction, told by its first character. -/
def keepsDirection (label : List Char) : Bool :=
  let ds := label.map direction
  let weak : List Direction :=
    [.number, .separator, .commonSeparator, .terminator, .neutral, .boundary, .mark]
  let last := (dropMarks ds).getLast?
  match ds.head? with
  | none => true
  | some .left =>
    ds.all (fun d => d = .left ∨ d ∈ weak) && last.any fun d => d = .left ∨ d = .number
  | some d =>
    (d = .right || d = .arabic) &&
    ds.all (fun d => d.isRight ∨ d ∈ weak) &&
    (last.any fun d => d.isRight ∨ d = .number) &&
    !(ds.contains .number && ds.contains .arabicNumber)

/-- Marks and invisible characters, which letters join across. -/
def isTransparent (c : Char) : Bool :=
  c.toNat = 0x1E94B || ((inRow categoryTable "mn" c || inRow categoryTable "me" c ||
    inRow categoryTable "cf" c) && c.toNat ≠ 0x200C && c.toNat ≠ 0x200D)

/-- The letter that comes first joins on one of the sides. -/
def joins (sides : List String) (s : List Char) : Bool :=
  match s.dropWhile isTransparent with
  | c :: _ => sides.any fun n => inRow joiningTable n c
  | [] => false

end Killfile.Unicode

import Killfile.Rule
import Killfile.Text.Blank

/-! Reading one line of a killfile: a command, a selector and a filter clause. -/

namespace Killfile

open Text (isBlank isWordChar trimStart)

/-- Why a line is no rule. -/
inductive LineError where
  | malformed
deriving DecidableEq, Repr

def LineError.message : LineError → String
  | .malformed => "invalid filter expression"

namespace Rule

/-- A field in double quotes up to the next quote, or bare up to the next blank. It is not empty. -/
def field (s : List Char) : Option (List Char × List Char) :=
  match s with
  | '"' :: t =>
    match t.takeWhile (· != '"'), t.dropWhile (· != '"') with
    | _, [] => none
    | [], _ => none
    | f, _ :: rest => some (f, rest)
  | _ =>
    match s.takeWhile (!isBlank ·) with
    | [] => none
    | f => some (f, s.dropWhile (!isBlank ·))

/-- Skips the blanks between fields, of which there is at least one. -/
def separator : List Char → Option (List Char)
  | [] => none
  | c :: s => if isBlank c then some (trimStart s) else none

/-- What comes before the last of a character. -/
def beforeLast (d : Char) (s : List Char) : Option (List Char) :=
  match s.reverse.dropWhile (· != d) with
  | [] => none
  | _ :: t => some t.reverse

/-- The inside of the filter clause. It closes at the last delimiter of the line, and what follows
that is ignored. -/
def clauseBody : List Char → Option (List Char)
  | [] => none
  | d :: s => if d = '"' ∨ d = '\x60' then beforeLast d s else none

/-- Attribute, operator and pattern, parted by single spaces. The pattern may hold more of them. -/
def clauseParts (s : List Char) : Option (List Char × List Char × List Char) :=
  match s.takeWhile isWordChar, s.dropWhile isWordChar with
  | [], _ => none
  | a, ' ' :: t =>
    match t.takeWhile (· != ' '), t.dropWhile (· != ' ') with
    | [], _ => none
    | _, [] => none
    | _, [_] => none
    | o, _ :: p => if o.any isBlank then none else some (a, o, p)
  | _, _ => none

/-- The five texts of a line. -/
def fields (line : List Char) :
    Option (List Char × List Char × List Char × List Char × List Char) := do
  let (command, s) ← field (trimStart line)
  let (selector, s) ← field (← separator s)
  let (attr, operator, pattern) ← clauseParts (← clauseBody (← separator s))
  some (command, selector, attr, operator, pattern)

/-- Reads a line. -/
def parse (line : String) : Except LineError Rule :=
  match fields line.toList with
  | some (c, u, a, o, p) =>
    .ok (ofFields (.ofList c) (.ofList u) (.ofList a) (.ofList o) (.ofList p))
  | none => .error .malformed

end Rule

end Killfile

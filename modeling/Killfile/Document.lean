import Killfile.Rule.Line

/-! Killfiles as texts: one rule a line, blank lines skipped, lines that are no rule set aside. -/

namespace Killfile

/-- A line that is no rule, with its number counted from one. -/
structure Rejection where
  lineNumber : Nat
  line : String
  error : LineError
deriving DecidableEq, Repr

/-- The rules of a killfile and the lines that gave none. -/
structure Document where
  rules : List Rule
  rejected : List Rejection
deriving DecidableEq, Repr

namespace Document

/-- A line without the carriage return that belonged to its end. -/
def dropReturn (line : List Char) : List Char :=
  if line.getLast? = some '\r' then line.dropLast else line

/-- Lines end with a line feed, or with a carriage return and a line feed. Text after the last end
is a line of its own, left as it is. -/
def lines (text : List Char) : List (List Char) :=
  let ps := Text.pieces '\n' text
  ps.dropLast.map dropReturn ++ (ps.getLast?.filter (· ≠ [])).toList

/-- What a line gives: nothing if it is blank, else a rule or the reason why there is none. -/
def readLine (line : List Char) : Option (Except LineError Rule) :=
  if line.all Text.isBlank then none else some (Rule.parse (.ofList line))

def rule? (line : List Char × Nat) : Option Rule :=
  match readLine line.1 with
  | some (.ok r) => some r
  | _ => none

def rejection? (line : List Char × Nat) : Option Rejection :=
  match readLine line.1 with
  | some (.error e) => some ⟨line.2, .ofList line.1, e⟩
  | _ => none

/-- Reads a killfile. -/
def read (text : String) : Document :=
  let numbered := (lines text.toList).zipIdx 1
  ⟨numbered.filterMap rule?, numbered.filterMap rejection?⟩

end Document

end Killfile

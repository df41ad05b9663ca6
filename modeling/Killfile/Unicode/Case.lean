import Killfile.CharSet
import Killfile.Text.Blank
import Killfile.Unicode.CaseTable
import Killfile.Unicode.BinaryProperties
import Killfile.Unicode.Property

/-! Simple case folding, and lower case as Unicode defines it for whole texts. -/

namespace Killfile.Unicode

open Text (pieces)

def readChars (word : List Char) : List Char :=
  (pieces ',' word).map fun w => Char.ofNat (CharSet.hexValue w)

/-- Orbits of simple case folding that have more than one member. -/
def caseOrbits : List (List Char) :=
  caseOrbitText.flatMap fun line => (pieces ' ' line.toList).map readChars

/-- All characters equal to a character up to simple case folding, itself included. -/
def caseOrbit (c : Char) : List Char :=
  match caseOrbits.find? fun o => o.contains c with
  | some o => o
  | none => [c]

/-- Adds to a set all characters that differ from a member only in case. -/
def caseClosure (s : CharSet) : CharSet :=
  CharSet.ofRanges (s.ranges ++
    (caseOrbits.filter fun o => o.any s.contains).flatMap fun o => o.map fun c => (c.toNat, c.toNat))

/-- A character is one of a run. -/
def CaseRun.holds (r : CaseRun) (n : Nat) : Bool :=
  r.first ≤ n && n ≤ r.last && (n - r.first) % r.step == 0

/-- The lower case of one character. ASCII is answered without the table, and only the capital I with
a dot has a lower case of two characters. -/
def lowercaseChar (c : Char) : List Char :=
  if c.toNat < 0x80 then [c.toLower]
  else if c = 'İ' then ['i', '\u0307']
  else match lowercaseRuns.find? fun r => r.holds c.toNat with
    | some r => [Char.ofNat (r.lower + (c.toNat - r.first))]
    | none => [c]

def cased : CharSet := (row? binaryTable "cased").getD .empty

def caseIgnorable : CharSet := (row? binaryTable "caseignorable").getD .empty

/-- A cased character comes next once the characters that case ignores are skipped. -/
def casedNext (s : List Char) : Bool :=
  match s.dropWhile caseIgnorable.contains with
  | [] => false
  | c :: _ => cased.contains c

/-- Lower case of a text whose earlier part is given in reverse. A capital sigma that ends a word
becomes the final form. -/
def lowercaseAfter (before : List Char) : List Char → List Char
  | [] => []
  | c :: s =>
    (if c = 'Σ' then
      if casedNext before && !casedNext s then ['ς'] else ['σ']
    else lowercaseChar c) ++ lowercaseAfter (c :: before) s

/-- Lower case of a text. -/
def lowercase (s : List Char) : List Char := lowercaseAfter [] s

end Killfile.Unicode

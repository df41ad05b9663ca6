import Killfile.CharSet
import Killfile.Text.Utf8
import Killfile.Unicode.NormalTable

/-! The composed normal form of text: characters are taken apart, marks are put in order, and what
composes is put together again. -/

namespace Killfile.Unicode

/-- Words of a table. -/
def words (lines : List String) : List (List Char) :=
  lines.flatMap fun l => (l.splitOn " ").map String.toList

/-- Code points in hexadecimal that commas part. -/
def readPoints (s : List Char) : List Nat :=
  ((String.ofList s).splitOn ",").map fun w => CharSet.hexValue w.toList

/-- Characters with the two that compose them. -/
def compositions : List (Nat × List Nat) := compositionTable.map fun p => (p.1, [p.2.1, p.2.2])

/-- The class by which marks are ordered. It is zero for all other characters. -/
def combiningClass (c : Nat) : Nat :=
  match combiningClasses.find? fun p => p.1.1 ≤ c && c ≤ p.1.2 with
  | some p => p.2
  | none => 0

/-- Syllables of Hangul are made of leading consonants, vowels and trailing consonants. -/
def hangulBase : Nat := 0xAC00

def isSyllable (c : Nat) : Bool := hangulBase ≤ c && c < hangulBase + 11172

/-- The parts of a syllable. -/
def syllableParts (c : Nat) : List Nat :=
  let n := c - hangulBase
  [0x1100 + n / 588, 0x1161 + n / 28 % 21] ++ (if n % 28 = 0 then [] else [0x11A7 + n % 28])

/-- Takes a character apart, its parts too, for so many steps. -/
def decomposeFor : Nat → Nat → List Nat
  | 0, c => [c]
  | fuel + 1, c =>
    if isSyllable c then syllableParts c
    else match compositions.find? fun p => p.1 = c with
      | some p => p.2.flatMap (decomposeFor fuel)
      | none => [c]

/-- Takes a character apart. No character takes more steps than these. -/
def decompose (c : Nat) : List Nat := decomposeFor 5 c

/-- Puts a character before others, and after the marks of lower class among those it meets first. -/
def insertMark (c : Nat) : List Nat → List Nat
  | [] => [c]
  | d :: l =>
    if combiningClass d ≠ 0 ∧ combiningClass d < combiningClass c then d :: insertMark c l
    else c :: d :: l

/-- Puts marks that follow each other in order of their classes. -/
def orderMarks (l : List Nat) : List Nat := l.foldr insertMark []

/-- What two characters compose. -/
def pair? (a b : Nat) : Option Nat :=
  if 0x1100 ≤ a ∧ a < 0x1113 ∧ 0x1161 ≤ b ∧ b < 0x1176 then
    some (hangulBase + ((a - 0x1100) * 21 + (b - 0x1161)) * 28)
  else if isSyllable a ∧ (a - hangulBase) % 28 = 0 ∧ 0x11A8 ≤ b ∧ b < 0x11C3 then some (a + (b - 0x11A7))
  else (compositions.find? fun p => p.2 = [a, b]).map (·.1)

/-- Composes a starter with what follows it. Marks that stay come between, last one first, with the
class of the last one; a mark of the same class or a lower one cannot pass them. -/
def composeAfter (starter : Nat) (between : List Nat) (lastClass : Nat) : List Nat → List Nat
  | [] => starter :: between.reverse
  | c :: s =>
    let k := combiningClass c
    match if between ≠ [] ∧ k ≤ lastClass then none else pair? starter c with
    | some p => composeAfter p between lastClass s
    | none =>
      if k = 0 then starter :: between.reverse ++ composeAfter c [] 0 s
      else composeAfter starter (c :: between) k s

/-- Puts together what composes. Marks at the beginning have nothing to compose with. -/
def compose : List Nat → List Nat
  | [] => []
  | c :: s => if combiningClass c = 0 then composeAfter c [] 0 s else c :: compose s

/-- The composed normal form. -/
def normalForm (s : List Char) : List Char :=
  (compose (orderMarks (s.flatMap fun c => decompose c.toNat))).filterMap Text.Utf8.scalar?

end Killfile.Unicode

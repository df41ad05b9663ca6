import Killfile.Regex.Meaning

/-! Searching a text. The positions of a text are numbered from its start, a set of positions is the
number whose binary digits tell its members, and an expression moves a set of positions to the set
of all positions where its matches from there end. -/

namespace Killfile.Regex

/-- Word characters of Unicode or of ASCII. -/
def isWord (unicode : Bool) (c : Char) : Bool :=
  if unicode then Unicode.word.contains c else c.isAlphanum || c == '_'

/-- A condition between the character before a position and the character after it. -/
def Condition.holds (before after : Option Char) : Condition → Bool
  | .textStart => before.isNone
  | .textEnd => after.isNone
  | .lineStart .feed => before.isNone || before == some '\n'
  | .lineEnd .feed => after.isNone || after == some '\n'
  | .lineStart .returnFeed =>
    before.isNone || before == some '\n' || (before == some '\r' && after != some '\n')
  | .lineEnd .returnFeed =>
    after.isNone || after == some '\r' || (after == some '\n' && before != some '\r')
  | .boundary u => before.any (isWord u) != after.any (isWord u)
  | .notBoundary u => before.any (isWord u) == after.any (isWord u)
  | .wordStart u => !before.any (isWord u) && after.any (isWord u)
  | .wordEnd u => before.any (isWord u) && !after.any (isWord u)
  | .wordStartHalf u => !before.any (isWord u)
  | .wordEndHalf u => !after.any (isWord u)

/-- Positions before a character with a property. -/
def positionsOf (p : Char → Bool) : List Char → Nat
  | [] => 0
  | c :: s => 2 * positionsOf p s + (p c).toNat

/-- Positions where a condition on the neighbours holds. The end of the text is one of them. -/
def positionsWhere (p : Option Char → Option Char → Bool) (before : Option Char) : List Char → Nat
  | [] => (p before none).toNat
  | c :: s => 2 * positionsWhere p (some c) s + (p before (some c)).toNat

/-- An expression made ready for one text: sets and conditions have become the positions where they
hold. -/
inductive Walk where
  | stay (here : Nat)
  | move (here : Nat)
  | seq (a b : Walk)
  | alt (a b : Walk)
  | loop (min : Nat) (extra : Nat) (a : Walk)

/-- Applies a step so many times. Once the set no longer changes, it never will. -/
def repeated (f : Nat → Nat) : Nat → Nat → Nat
  | 0, s => s
  | n + 1, s => if f s = s then s else repeated f n (f s)

/-- All positions reached in at most so many steps. -/
def reached (f : Nat → Nat) : Nat → Nat → Nat
  | 0, s => s
  | n + 1, s => if s ||| f s = s then s else reached f n (s ||| f s)

/-- Positions where matches that begin in a set of positions end. -/
def Walk.run : Walk → Nat → Nat
  | .stay here, s => s &&& here
  | .move here, s => (s &&& here) <<< 1
  | .seq a b, s => b.run (a.run s)
  | .alt a b, s => a.run s ||| b.run s
  | .loop min extra a, s => if s = 0 then 0 else reached a.run extra (repeated a.run min s)

/-- A loop. Inside a loop without end another that takes at most one turn by need adds nothing. -/
def Walk.star (length : Nat) (min : Nat) : Walk → Walk
  | .loop inner extra a =>
    if length ≤ extra ∧ inner ≤ 1 then .loop (if inner = 0 then 0 else min) (length + 1) a
    else .loop min (length + 1) (.loop inner extra a)
  | a => .loop min (length + 1) a

/-- Prepares an expression for a text. No match takes more turns with progress than the text has
characters. -/
def onText (text : List Char) : Regex → Walk
  | .nothing => .stay (positionsWhere (fun _ _ => true) none text)
  | .set s => .move (positionsOf s.contains text)
  | .condition c => .stay (positionsWhere (fun b a => c.holds b a) none text)
  | .seq a b => .seq (onText text a) (onText text b)
  | .alt a b => .alt (onText text a) (onText text b)
  | .repetition min max a =>
    match max with
    | none => .star text.length min (onText text a)
    | some max => .loop min (max - min) (onText text a)
  | .capture a => onText text a

/-- Some part of a text matches. -/
def search (a : Regex) (text : List Char) : Bool :=
  (onText text a).run (Nat.pow 2 (text.length + 1) - 1) != 0

end Killfile.Regex

import Killfile.Text.Utf8

/-! Punycode: labels of any characters written in ASCII. The characters beyond ASCII come in order of
their code points, each as its distance from the one before it, in numbers of variable length. -/

namespace Killfile.Url.Punycode

/-- The digit of position zero stands for this many values. -/
def base : Nat := 36

def digitChar (n : Nat) : Char :=
  if n < 26 then Char.ofNat ('a'.toNat + n) else Char.ofNat ('0'.toNat + (n - 26))

def digitValue? (c : Char) : Option Nat :=
  if 'a' ≤ c ∧ c ≤ 'z' then some (c.toNat - 'a'.toNat)
  else if 'A' ≤ c ∧ c ≤ 'Z' then some (c.toNat - 'A'.toNat)
  else if c.isDigit then some (c.toNat - '0'.toNat + 26)
  else none

/-- A digit below this value is the last of its number. -/
def threshold (position bias : Nat) : Nat := max 1 (min 26 (position - bias))

theorem threshold_pos (position bias : Nat) : 0 < threshold position bias := by
  unfold threshold
  omega

/-- Brings a distance down, counting the steps in positions. -/
def settle (positions distance : Nat) : Nat :=
  if 455 < distance then settle (positions + base) (distance / 35)
  else positions + base * distance / (distance + 38)
termination_by distance

/-- The bias after a distance. The first one counts much less than those after it. -/
def adapt (distance count : Nat) (first : Bool) : Nat :=
  let d := if first then distance / 700 else distance / 2
  settle 0 (d + d / count)

/-- The digits of a number from a position on. -/
def encodeNumber (bias position n : Nat) : List Char :=
  let t := threshold position bias
  if n < t then [digitChar n]
  else digitChar (t + (n - t) % (base - t)) :: encodeNumber bias (position + base) ((n - t) / (base - t))
termination_by n
decreasing_by
  have := threshold_pos position bias
  exact Nat.lt_of_le_of_lt (Nat.div_le_self _ _) (by omega)

/-- A label that is being written. -/
structure Encoder where
  written : List Char
  handled : Nat
  distance : Nat := 0
  bias : Nat := 72
  first : Bool := true

/-- Goes past a character on the way to those with a code point, and writes it if it is one. -/
def Encoder.step (point : Nat) (e : Encoder) (c : Char) : Encoder :=
  if c.toNat < point then { e with distance := e.distance + 1 }
  else if c.toNat = point then
    { written := e.written ++ encodeNumber e.bias base e.distance
      handled := e.handled + 1
      bias := adapt e.distance (e.handled + 1) e.first
      first := false }
  else e

/-- Writes the characters with code points in ascending order, the last one handled given. -/
def encodePoints (s : List Char) : Nat → List Nat → Encoder → Encoder
  | _, [], e => e
  | last, p :: ps, e =>
    let e := { e with distance := e.distance + (p - last) * (e.handled + 1) }
    let e := s.foldl (Encoder.step p) e
    encodePoints s (p + 1) ps { e with distance := e.distance + 1 }

/-- A label in ASCII. Characters of ASCII come first, before a hyphen. -/
def encode (s : List Char) : List Char :=
  let plain := s.filter fun c => c.toNat < 0x80
  let points := ((s.filter fun c => 0x80 ≤ c.toNat).map Char.toNat).mergeSort.eraseDups
  (encodePoints s 0x80 points
    { written := plain ++ (if plain = [] then [] else ['-']), handled := plain.length }).written

/-- Reads a number from a position on. -/
def decodeNumber (bias : Nat) : Nat → Nat → Nat → List Char → Option (Nat × List Char)
  | _, _, _, [] => none
  | position, weight, n, c :: s => do
    let d ← digitValue? c
    let t := threshold position bias
    let n := n + d * weight
    if d < t then some (n, s) else decodeNumber bias (position + base) (weight * (base - t)) n s

/-- Puts characters into a text, each at its distance from the place and the code point of the one
before it. -/
def decodePoints : Nat → List Char → Nat → Nat → Nat → List Char → Option (List Char)
  | 0, _, _, _, _, _ => none
  | _, text, _, _, _, [] => some text
  | fuel + 1, text, point, place, bias, s => do
    let (n, r) ← decodeNumber bias base 1 0 s
    let count := text.length + 1
    let point' := point + (place + n) / count
    let place' := (place + n) % count
    let c ← Text.Utf8.scalar? point'
    decodePoints fuel (text.take place' ++ c :: text.drop place') point' (place' + 1)
      (adapt n count (point = 0x80 ∧ place = 0)) r

/-- The label that a text in ASCII stands for. -/
def decode (s : List Char) : Option (List Char) :=
  match s.reverse.dropWhile (· != '-') with
  | [] => decodePoints (s.length + 1) [] 0x80 0 72 s
  | _ :: plain =>
    let r := (s.reverse.takeWhile (· != '-')).reverse
    decodePoints (r.length + 1) plain.reverse 0x80 0 72 r

end Killfile.Url.Punycode

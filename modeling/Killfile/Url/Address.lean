import Killfile.Text.Blank
import Killfile.Url.Percent

/-! Numeric addresses as hosts. -/

namespace Killfile.Url

open Text (pieces)

/-- Value of digits in a base. -/
def baseValue (base : Nat) (digits : List Char) : Nat :=
  digits.foldl (fun n c => base * n + (hexValue? c).getD 0) 0

/-- One number of an address: decimal, octal after a zero, hexadecimal after a zero and an x. The
numeral may lack digits after such a beginning, but may not be empty. -/
def addressNumber? (s : List Char) : Option Nat :=
  let read := fun base digits =>
    if digits.all fun c => (hexValue? c).any (· < base) then some (baseValue base digits) else none
  match s with
  | [] => none
  | '0' :: 'x' :: ds => read 16 ds
  | '0' :: 'X' :: ds => read 16 ds
  | ['0'] => some 0
  | '0' :: ds => read 8 ds
  | ds => read 10 ds

/-- A host whose last label, save an empty one at the end, is a number has to be an address. -/
def endsInNumber (s : List Char) : Bool :=
  match (pieces '.' s).reverse with
  | [] => false
  | [] :: [] => false
  | [] :: l :: _ => isNumber l
  | l :: _ => isNumber l
where
  isNumber (l : List Char) : Bool :=
    (!l.isEmpty && l.all Char.isDigit) || (addressNumber? l).isSome

/-- What the four bytes of an address count for. -/
def byteWeights : List Nat := [16777216, 65536, 256, 1]

/-- Up to four numbers, of which the last fills the bytes that the others leave. -/
def ipv4? (s : List Char) : Option Nat := do
  let parts := pieces '.' s
  let parts := if parts.getLast? = some [] then parts.dropLast else parts
  let numbers ← parts.mapM addressNumber?
  match numbers.reverse with
  | [] => none
  | last :: others =>
    let others := others.reverse
    if numbers.length ≤ 4 ∧ others.all (· < 256) ∧ last < Nat.pow 256 (4 - others.length) then
      some ((others.zip byteWeights).foldl (fun sum (n, w) => sum + n * w) last)
    else none

def renderIpv4 (n : Nat) : String :=
  ".".intercalate (byteWeights.map fun w => toString (n / w % 256))

/-- A decimal byte without leading zeros. -/
def decimalByte? (s : List Char) : Option Nat :=
  if s ≠ [] ∧ s.all Char.isDigit ∧ (s.head? ≠ some '0' ∨ s.length = 1) ∧ baseValue 10 s < 256 then
    some (baseValue 10 s)
  else none

/-- Four bytes in decimal at the end of an IPv6 address, as two pieces. -/
def dottedPieces? (s : List Char) : Option (List Nat) := do
  match ← (pieces '.' s).mapM decimalByte? with
  | [a, b, c, d] => some [256 * a + b, 256 * c + d]
  | _ => none

/-- Reads the pieces of an IPv6 address after those read so far. Two colons in a row leave a piece of
zero and the place where more of them belong. -/
def ipv6Pieces : Nat → List Nat → Option Nat → List Char → Option (List Nat × Option Nat)
  | _, done, gap, [] => some (done, gap)
  | 0, _, _, _ => none
  | fuel + 1, done, gap, c :: s =>
    if done.length = 8 then none
    else if c = ':' then
      if gap.isSome then none else ipv6Pieces fuel (done ++ [0]) (some (done.length + 1)) s
    else
      let ds := ((c :: s).take 4).takeWhile fun d => (hexValue? d).isSome
      match ds, (c :: s).drop ds.length with
      | [], _ => none
      | _, [] => some (done ++ [baseValue 16 ds], gap)
      | _, [':'] => none
      | _, ':' :: r => ipv6Pieces fuel (done ++ [baseValue 16 ds]) gap r
      | _, '.' :: _ =>
        if done.length > 6 then none
        else (dottedPieces? (c :: s)).map fun l => (done ++ l, gap)
      | _, _ => none

/-- The eight pieces of an IPv6 address. -/
def ipv6? (s : List Char) : Option (List Nat) := do
  let (done, gap) ← match s with
    | ':' :: ':' :: r => ipv6Pieces s.length [0] (some 1) r
    | ':' :: _ => none
    | _ :: _ :: _ => ipv6Pieces s.length [] none s
    | _ => none
  match gap with
  | some n => some (done.take n ++ List.replicate (8 - done.length) 0 ++ done.drop n)
  | none => if done.length = 8 then some done else none

/-- Start and length of the first of the longest runs of zeros. -/
def longestZeros (l : List Nat) : Nat × Nat :=
  (List.range l.length).foldl (fun best i =>
    let n := ((l.drop i).takeWhile (· = 0)).length
    if n > best.2 then (i, n) else best) (0, 0)

def renderHex (n : Nat) : String := String.ofList (Nat.toDigits 16 n)

/-- The pieces in hexadecimal, with two colons for the first of the longest runs of two zeros or
more. -/
def renderIpv6 (l : List Nat) : String :=
  let (start, length) := longestZeros l
  let join := fun l : List Nat => ":".intercalate (l.map renderHex)
  if length < 2 then join l else join (l.take start) ++ "::" ++ join (l.drop (start + length))

end Killfile.Url

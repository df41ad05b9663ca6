import Killfile.Url.Percent

/-! Values of TOML that are no text and have no brackets: booleans, numbers, dates and times. -/

namespace Killfile.Toml

open Url (hexValue?)

def digitsValue (base : Nat) (digits : List Char) : Nat :=
  digits.foldl (fun n c => base * n + (hexValue? c).getD 0) 0

def isDigitOf (base : Nat) (c : Char) : Bool := (hexValue? c).any (· < base)

/-- Digits with single underscores between them. -/
def digits? (base : Nat) : List Char → Option (List Char)
  | [] => none
  | [c] => if isDigitOf base c then some [c] else none
  | c :: '_' :: s => if isDigitOf base c then (digits? base s).map (c :: ·) else none
  | c :: s => if isDigitOf base c then (digits? base s).map (c :: ·) else none

/-- Splits off a sign. The mark tells whether it is minus. -/
def splitSign : List Char → Bool × List Char
  | '-' :: s => (true, s)
  | '+' :: s => (false, s)
  | s => (false, s)

/-- Decimal digits that do not begin with zero, or zero alone. -/
def decimal? (s : List Char) : Option (List Char) := do
  let ds ← digits? 10 s
  if ds.length > 1 ∧ ds.head? = some '0' then none else some ds

/-- An integer of at most 128 bits. Only decimal ones have signs. -/
def isInteger (s : List Char) : Bool :=
  match s with
  | '0' :: 'x' :: ds => below (Nat.pow 2 128) 16 (digits? 16 ds)
  | '0' :: 'o' :: ds => below (Nat.pow 2 128) 8 (digits? 8 ds)
  | '0' :: 'b' :: ds => below (Nat.pow 2 128) 2 (digits? 2 ds)
  | _ =>
    let (negative, ds) := splitSign s
    below (if negative then Nat.pow 2 127 + 1 else Nat.pow 2 128) 10 (decimal? ds)
where
  below (bound base : Nat) (ds : Option (List Char)) : Bool :=
    ds.any fun ds => digitsValue base ds < bound

/-- A decimal number with a power of ten is finite as a number of double precision. -/
def isFinite (ds : List Char) (exponent : Int) : Bool :=
  let ds := ds.dropWhile (· == '0')
  let magnitude : Int := ds.length + exponent
  if ds = [] ∨ magnitude < 300 then true
  else if magnitude > 400 then false
  else
    -- half a step above the greatest number rounds up to infinity
    let bound := Nat.pow 2 1024 - Nat.pow 2 970
    digitsValue 10 ds * Nat.pow 10 exponent.toNat < bound * Nat.pow 10 (-exponent).toNat

/-- The value of an exponent after its letter. -/
def exponent? (s : List Char) : Option Int := do
  let (negative, ds) := splitSign s
  let n := digitsValue 10 (← digits? 10 ds)
  some (if negative then -(n : Int) else n)

def isExponentLetter (c : Char) : Bool := c == 'e' || c == 'E'

/-- A number with a fraction, an exponent or both, or one of the words for infinity and for no
number. -/
def isFloat (s : List Char) : Bool :=
  let (_, s) := splitSign s
  let mantissa := s.takeWhile (!isExponentLetter ·)
  let whole := mantissa.takeWhile (· != '.')
  s = "inf".toList || s = "nan".toList ||
    ((decimal? whole).any fun w =>
      match mantissa.dropWhile (· != '.'), s.dropWhile (!isExponentLetter ·) with
      | [], [] => false
      | [], _ :: e => (exponent? e).any (isFinite w ·)
      | _ :: f, [] => (digits? 10 f).any fun f => isFinite (w ++ f) (-f.length)
      | _ :: f, _ :: e => (digits? 10 f).any fun f =>
          (exponent? e).any fun e => isFinite (w ++ f) (e - f.length))

/-- A number of so many digits, within bounds. -/
def field? (width low high : Nat) (s : List Char) : Option (Nat × List Char) :=
  let ds := s.take width
  if ds.length = width ∧ ds.all Char.isDigit ∧ low ≤ digitsValue 10 ds ∧ digitsValue 10 ds ≤ high then
    some (digitsValue 10 ds, s.drop width)
  else none

def mark? (c : Char) : List Char → Option (List Char)
  | d :: s => if d = c then some s else none
  | [] => none

def daysInMonth (year month : Nat) : Nat :=
  if month = 2 then if (year % 4 = 0 ∧ year % 100 ≠ 0) ∨ year % 400 = 0 then 29 else 28
  else if month ∈ [4, 6, 9, 11] then 30 else 31

/-- A date as in 2024-02-29. -/
def date? (s : List Char) : Option (List Char) := do
  let (year, s) ← field? 4 0 9999 s
  let (month, s) ← field? 2 1 12 (← mark? '-' s)
  let (_, s) ← field? 2 1 (daysInMonth year month) (← mark? '-' s)
  some s

/-- A time of day. Seconds may be left out and may have a fraction. -/
def time? (s : List Char) : Option (List Char) := do
  let (_, s) ← field? 2 0 23 s
  let (_, s) ← field? 2 0 59 (← mark? ':' s)
  match s with
  | ':' :: s =>
    let (_, s) ← field? 2 0 60 s
    match s with
    | '.' :: f => if f.takeWhile Char.isDigit = [] then none else some (f.dropWhile Char.isDigit)
    | _ => some s
  | _ => some s

/-- Nothing, or the offset of a time from UTC. -/
def isOffset (s : List Char) : Bool :=
  match s with
  | [] => true
  | ['Z'] => true
  | ['z'] => true
  | c :: s =>
    (c = '+' ∨ c = '-') && ((do
      let (_, s) ← field? 2 0 23 s
      let (_, s) ← field? 2 0 59 (← mark? ':' s)
      some s) == some [])

/-- A date, a time of day, or both with an offset or without one. -/
def isDateTime (s : List Char) : Bool :=
  match date? s with
  | some [] => true
  | some (c :: t) => (c = 'T' ∨ c = 't' ∨ c = ' ') && (time? t).any isOffset
  | none => time? s == some []

/-- A value of one of these kinds. -/
def isScalar (s : List Char) : Bool :=
  s = "true".toList || s = "false".toList || isInteger s || isFloat s || isDateTime s

/-- Characters that such values consist of. -/
def isScalarChar (c : Char) : Bool :=
  c.isAlphanum || c == '_' || c == '+' || c == '-' || c == '.' || c == ':'

/-- The longest part of a text that could be such a value. A date and a time may have one space
between them. -/
def splitScalar (s : List Char) : List Char × List Char :=
  let first := s.takeWhile isScalarChar
  match s.dropWhile isScalarChar with
  | ' ' :: d :: r =>
    if d.isDigit ∧ date? first = some [] then
      (first ++ ' ' :: (d :: r).takeWhile isScalarChar, (d :: r).dropWhile isScalarChar)
    else (first, ' ' :: d :: r)
  | rest => (first, rest)

end Killfile.Toml

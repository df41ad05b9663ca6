import Killfile.Text.Blank

/-! Points in time: reading dates with times and offsets, and printing them in UTC. -/

namespace Killfile

/-- Seconds since 1970 in UTC and nanoseconds. A leap second is a second with more nanoseconds than
it has otherwise. -/
structure Timestamp where
  seconds : Int
  nanos : Nat
deriving DecidableEq, Repr

namespace Timestamp

open Text (isBlank trimStart)

def isLeap (year : Int) : Bool := (year % 4 == 0 && year % 100 != 0) || year % 400 == 0

def daysInMonth (year : Int) (month : Nat) : Nat :=
  if month = 2 then if isLeap year then 29 else 28
  else if month ∈ [4, 6, 9, 11] then 30 else 31

/-- Days from the first of January 1970 to a date. Years begin in March here, so that leap days come
last. -/
def daysFromDate (year : Int) (month day : Nat) : Int :=
  let y := if month ≤ 2 then year - 1 else year
  let era := Int.fdiv y 400
  let yearOfEra := y - era * 400
  let monthFromMarch := (month + 9) % 12
  let dayOfYear := (153 * monthFromMarch + 2) / 5 + day - 1
  let dayOfEra := yearOfEra * 365 + yearOfEra / 4 - yearOfEra / 100 + dayOfYear
  era * 146097 + dayOfEra - 719468

/-- Year, month and day of a number of days from the first of January 1970. -/
def dateFromDays (days : Int) : Int × Nat × Nat :=
  let z := days + 719468
  let era := Int.fdiv z 146097
  let dayOfEra := (z - era * 146097).toNat
  let yearOfEra := (dayOfEra - dayOfEra / 1460 + dayOfEra / 36524 - dayOfEra / 146096) / 365
  let dayOfYear := dayOfEra - (365 * yearOfEra + yearOfEra / 4 - yearOfEra / 100)
  let monthFromMarch := (5 * dayOfYear + 2) / 153
  let day := dayOfYear - (153 * monthFromMarch + 2) / 5 + 1
  let month := if monthFromMarch < 10 then monthFromMarch + 3 else monthFromMarch - 9
  let year := (yearOfEra : Int) + era * 400
  (if month ≤ 2 then year + 1 else year, month, day)

/-- The years a date can have. -/
def inYears (year : Int) : Bool := -262143 ≤ year && year ≤ 262142

def digitsValue (digits : List Char) : Nat :=
  digits.foldl (fun n c => 10 * n + (c.toNat - '0'.toNat)) 0

/-- Digits, at most so many, at least one. -/
def number (width : Nat) (s : List Char) : Option (Nat × List Char) :=
  let ds := (s.take width).takeWhile Char.isDigit
  if ds.isEmpty then none else some (digitsValue ds, s.drop ds.length)

/-- A number of at most two digits within bounds, after blanks. -/
def twoDigits (low high : Nat) (s : List Char) : Option (Nat × List Char) := do
  let (n, r) ← number 2 (trimStart s)
  if low ≤ n ∧ n ≤ high then some (n, r) else none

/-- A year of four digits at most, or of any number after a sign. -/
def year (s : List Char) : Option (Int × List Char) :=
  match trimStart s with
  | '-' :: r => (number r.length r).map fun (n, r) => (-(n : Int), r)
  | '+' :: r => (number r.length r).map fun (n, r) => ((n : Int), r)
  | r => (number 4 r).map fun (n, r) => ((n : Int), r)

/-- A mark between numbers, after blanks. -/
def mark (c : Char) (s : List Char) : Option (List Char) :=
  match trimStart s with
  | d :: r => if d = c then some r else none
  | [] => none

/-- A fraction of a second in nanoseconds. Digits after the ninth are dropped. -/
def fraction : List Char → Option (Nat × List Char)
  | '.' :: s =>
    let ds := s.takeWhile Char.isDigit
    if ds.isEmpty then none
    else some (digitsValue ((ds ++ List.replicate 9 '0').take 9), s.drop ds.length)
  | s => some (0, s)

/-- Hours and minutes of an offset after its sign, in seconds. Colons and blanks may stand between
them. -/
def offsetTime : List Char → Option (Nat × List Char)
  | h1 :: h2 :: s =>
    match s.dropWhile fun c => c == ':' || isBlank c with
    | m1 :: m2 :: r =>
      if [h1, h2, m1, m2].all Char.isDigit ∧ m1 ≤ '5' then
        some (3600 * digitsValue [h1, h2] + 60 * digitsValue [m1, m2], r)
      else none
    | _ => none
  | _ => none

/-- An offset from UTC in seconds: the letter Z, the word UTC, or a sign with hours and minutes. -/
def offset : List Char → Option (Int × List Char)
  | c :: s =>
    if (c :: s.take 2).map Char.toLower = "utc".toList then some (0, s.drop 2)
    else if c = 'Z' ∨ c = 'z' then some (0, s)
    else if c = '+' then (offsetTime s).map fun (n, r) => ((n : Int), r)
    else if c = '-' ∨ c = '−' then (offsetTime s).map fun (n, r) => (-(n : Int), r)
    else none
  | [] => none

/-- The time of a date and clock at an offset, if the offset is shorter than a day and the date in
UTC has a year that dates can have. -/
def atOffset (year : Int) (month day hour minute second nanos : Nat) (offset : Int) :
    Option Timestamp :=
  if inYears year ∧ day ≤ daysInMonth year month ∧ -86400 < offset ∧ offset < 86400 then
    let (second, nanos) := if second = 60 then (59, nanos + 1000000000) else (second, nanos)
    let clock := 3600 * hour + 60 * minute + second
    let seconds := daysFromDate year month day * 86400 + clock - offset
    if inYears (dateFromDays (Int.fdiv seconds 86400)).1 then some ⟨seconds, nanos⟩ else none
  else none

/-- Reads a date, a time of day and an offset. Blanks may stand around numbers and before the
offset. -/
def parse (s : List Char) : Option Timestamp := do
  let (year, s) ← year s
  let (month, s) ← twoDigits 1 12 (← mark '-' s)
  let (day, s) ← twoDigits 1 31 (← mark '-' s)
  let (hour, s) ← match s with
    | c :: s => if c = 'T' ∨ c = 't' ∨ c = ' ' then twoDigits 0 23 s else none
    | [] => none
  let (minute, s) ← twoDigits 0 59 (← mark ':' s)
  let (second, s) ← twoDigits 0 60 (← mark ':' s)
  let (nanos, s) ← fraction s
  let (offset, s) ← offset (trimStart s)
  if (trimStart s).isEmpty then atOffset year month day hour minute second nanos offset else none

/-- A number with zeros before it up to a width. -/
def padded (width n : Nat) : List Char :=
  let ds := Nat.toDigits 10 n
  List.replicate (width - ds.length) '0' ++ ds

/-- Four digits, with a sign where a year has more of them or comes before the year zero. -/
def renderYear (year : Int) : List Char :=
  if 0 ≤ year ∧ year ≤ 9999 then padded 4 year.toNat
  else (if year < 0 then '-' else '+') :: padded 4 year.natAbs

/-- A fraction of a second with three, six or nine digits, or none at all. -/
def renderFraction (nanos : Nat) : List Char :=
  if nanos = 0 then []
  else if nanos % 1000000 = 0 then '.' :: padded 3 (nanos / 1000000)
  else if nanos % 1000 = 0 then '.' :: padded 6 (nanos / 1000)
  else '.' :: padded 9 nanos

/-- The time in UTC, as in 2024-01-01T10:00:00Z. -/
def render (t : Timestamp) : String :=
  let (year, month, day) := dateFromDays (Int.fdiv t.seconds 86400)
  let clock := (Int.fmod t.seconds 86400).toNat
  let second := clock % 60 + t.nanos / 1000000000
  String.ofList (renderYear year ++ '-' :: padded 2 month ++ '-' :: padded 2 day ++
    'T' :: padded 2 (clock / 3600) ++ ':' :: padded 2 (clock / 60 % 60) ++ ':' :: padded 2 second ++
    renderFraction (t.nanos % 1000000000) ++ ['Z'])

end Timestamp

end Killfile

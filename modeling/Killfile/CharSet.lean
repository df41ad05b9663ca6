/-! Sets of code points, held as ranges. -/

namespace Killfile

/-- Code points in ranges with both ends included. -/
structure CharSet where
  ranges : List (Nat × Nat)
deriving Repr, DecidableEq

namespace CharSet

def contains (s : CharSet) (c : Char) : Bool :=
  s.ranges.any fun r => r.1 ≤ c.toNat && c.toNat ≤ r.2

/-- Joins ranges that overlap or touch; the ranges come in order of their lower ends. -/
def join : List (Nat × Nat) → List (Nat × Nat)
  | [] => []
  | [r] => [r]
  | r :: q :: rest =>
    if q.1 ≤ r.2 + 1 then join ((r.1, max r.2 q.2) :: rest) else r :: join (q :: rest)
termination_by l => l.length

/-- Any ranges, brought into order and joined. Ranges that hold nothing are dropped. -/
def ofRanges (l : List (Nat × Nat)) : CharSet :=
  ⟨join ((l.filter fun r => r.1 ≤ r.2).mergeSort fun r q => r.1 ≤ q.1)⟩

def empty : CharSet := ⟨[]⟩

def singleton (c : Char) : CharSet := ⟨[(c.toNat, c.toNat)]⟩

def ofChars (l : List Char) : CharSet := ofRanges (l.map fun c => (c.toNat, c.toNat))

def isEmpty (s : CharSet) : Bool := s.ranges.isEmpty

/-- The last code point. -/
def top : Nat := 0x10FFFF

def full : CharSet := ⟨[(0, top)]⟩

/-- What lies between ranges in order, from a given point on. -/
def gaps (start : Nat) : List (Nat × Nat) → List (Nat × Nat)
  | [] => if start ≤ top then [(start, top)] else []
  | r :: rest =>
    if start < r.1 then (start, r.1 - 1) :: gaps (r.2 + 1) rest else gaps (r.2 + 1) rest

def compl (s : CharSet) : CharSet := ⟨gaps 0 s.ranges⟩

def union (s t : CharSet) : CharSet := ofRanges (s.ranges ++ t.ranges)

def inter (s t : CharSet) : CharSet := (s.compl.union t.compl).compl

def diff (s t : CharSet) : CharSet := s.inter t.compl

def symmDiff (s t : CharSet) : CharSet := (s.union t).diff (s.inter t)

def unions (l : List CharSet) : CharSet := ofRanges (l.flatMap ranges)

/-- All members are ASCII. -/
def isAscii (s : CharSet) : Bool := s.ranges.all fun r => r.2 < 0x80

/-- Value of a hexadecimal numeral; other characters count nothing. -/
def hexValue (digits : List Char) : Nat :=
  digits.foldl (fun n c =>
    if '0' ≤ c ∧ c ≤ '9' then 16 * n + (c.toNat - '0'.toNat)
    else if 'A' ≤ c ∧ c ≤ 'F' then 16 * n + (c.toNat - 'A'.toNat + 10)
    else n) 0

/-- A range in hexadecimal, such as 41-5A, or one code point, such as AA. -/
def readRange (word : List Char) : Nat × Nat :=
  let low := word.takeWhile (· != '-')
  match word.dropWhile (· != '-') with
  | [] => (hexValue low, hexValue low)
  | _ :: high => (hexValue low, hexValue high)

/-- Reads lines of ranges in hexadecimal that spaces part. The ranges come in order and do not
touch. -/
def read (lines : List String) : CharSet :=
  ⟨lines.flatMap fun l => (l.splitOn " ").map fun w => readRange w.toList⟩

end CharSet

end Killfile

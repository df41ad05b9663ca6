import Killfile.Regex.Meaning

/-! How much room the matching program of an expression takes. Programs over the limit are refused,
so repetition counts are bounded by what they multiply. -/

namespace Killfile.Regex

/-- Room of one state, of one transition in a set, and of one branch of a choice. -/
def stateRoom : Nat := 32
def transitionRoom : Nat := 8
def branchRoom : Nat := 4

/-- Bytes of a code point in UTF-8. -/
def utf8Length (n : Nat) : Nat :=
  if n < 0x80 then 1 else if n < 0x800 then 2 else if n < 0x10000 then 3 else 4

/-- The bytes of a code point in UTF-8. -/
def utf8Bytes (n : Nat) : List Nat :=
  match utf8Length n with
  | 1 => [n]
  | 2 => [0xC0 + n / 64, 0x80 + n % 64]
  | 3 => [0xE0 + n / 4096, 0x80 + n / 64 % 64, 0x80 + n % 64]
  | _ => [0xF0 + n / 262144, 0x80 + n / 4096 % 64, 0x80 + n / 64 % 64, 0x80 + n % 64]

/-- Cuts a range of code points where the number of bytes changes, at the surrogates, and where
the trailing bytes do not run through all their values, until each piece is a product of ranges of
bytes. -/
def byteRanges : Nat → Nat → Nat → List (List (Nat × Nat))
  | 0, _, _ => []
  | fuel + 1, a, b =>
    if b < a then []
    else if a < 0xE000 ∧ b > 0xD7FF then
      byteRanges fuel a 0xD7FF ++ byteRanges fuel (max a 0xE000) b
    else match [0x7F, 0x7FF, 0xFFFF].find? fun m => a ≤ m ∧ m < b with
      | some m => byteRanges fuel a m ++ byteRanges fuel (m + 1) b
      | none =>
        if b < 0x80 then [[(a, b)]]
        else match [64, 4096, 262144].find? fun m =>
            a / m ≠ b / m ∧ (a % m ≠ 0 ∨ b % m ≠ m - 1) with
          | some m =>
            if a % m ≠ 0 then
              byteRanges fuel a (a / m * m + (m - 1)) ++ byteRanges fuel (a / m * m + m) b
            else byteRanges fuel a (b / m * m - 1) ++ byteRanges fuel (b / m * m) b
          | none => [(utf8Bytes a).zip (utf8Bytes b)]

/-- Pieces of all ranges of a set, in order. -/
def bytePieces (s : CharSet) : List (List (Nat × Nat)) :=
  s.ranges.flatMap fun r => byteRanges 64 r.1 r.2

/-- Groups neighbours with the same first range, keeping what follows it. -/
def groupHeads : List (List (Nat × Nat)) → List ((Nat × Nat) × List (List (Nat × Nat)))
  | [] => []
  | [] :: rest => groupHeads rest
  | (h :: t) :: rest =>
    match groupHeads rest with
    | (k, ts) :: groups => if h = k then (k, t :: ts) :: groups else (h, [t]) :: (k, ts) :: groups
    | [] => [(h, [t])]

/-- The sets of endings met when the pieces are read byte by byte, each kept once. -/
def endings : Nat → List (List (List (Nat × Nat))) → List (List (Nat × Nat)) →
    List (List (List (Nat × Nat)))
  | 0, seen, _ => seen
  | fuel + 1, seen, pieces =>
    if pieces.all List.isEmpty || seen.contains pieces then seen
    else (groupHeads pieces).foldl (fun seen g => endings fuel seen g.2) (pieces :: seen)

/-- Room of a set read forwards: equal endings share their states. -/
def setRoom (s : CharSet) : Nat :=
  match s.ranges with
  | [] => stateRoom
  | [(a, b)] =>
    if a = b then stateRoom * utf8Length a
    else rangesRoom s
  | _ => rangesRoom s
where
  rangesRoom (s : CharSet) : Nat :=
    if s.isAscii then 2 * stateRoom + transitionRoom * s.ranges.length
    else (endings 5 [] (bytePieces s)).foldl (fun room e =>
      room + stateRoom + transitionRoom * (groupHeads e).length) stateRoom

/-- Distinct beginnings of the pieces, counted. -/
def beginnings (pieces : List (List (Nat × Nat))) : Nat :=
  (List.range 4).foldl (fun count n =>
    count + ((pieces.filter fun p => n < p.length).map fun p => p.take (n + 1)).eraseDups.length) 0

/-- Room of a set read backwards: equal beginnings share their states. -/
def reverseSetRoom (s : CharSet) : Nat :=
  if s.isAscii || s.ranges.length ≤ 1 then setRoom s
  else 2 * stateRoom + (bytePieces s).length * branchRoom + stateRoom * beginnings (bytePieces s)

/-- Whether an expression can match the empty text when all conditions hold. -/
def nullable : Regex → Bool
  | .nothing => true
  | .set _ => false
  | .condition _ => true
  | .seq a b => a.nullable && b.nullable
  | .alt a b => a.nullable || b.nullable
  | .repetition min _ a => min == 0 || a.nullable
  | .capture a => a.nullable

/-- Room of a choice between two: a branch each, and the two ends of the choice if it begins here. -/
def isChoice : Regex → Bool
  | .alt _ _ => true
  | _ => false

/-- Room of a program in which sets take the room given and captures count or not. -/
def roomWith (sets : CharSet → Nat) (captures : Bool) : Regex → Nat
  | .nothing => stateRoom
  | .set s => sets s
  | .condition _ => stateRoom
  | .seq a b => a.roomWith sets captures + b.roomWith sets captures
  | .alt a b =>
    a.roomWith sets captures + b.roomWith sets captures + branchRoom +
      if b.isChoice then 0 else branchRoom + 2 * stateRoom
  | .capture a => a.roomWith sets captures + if captures then 2 * stateRoom else 0
  | .repetition min max a =>
    let r := a.roomWith sets captures
    let branch := stateRoom + branchRoom
    match max with
    | some max =>
      if min = 0 ∧ max = 1 then r + branch + branchRoom + stateRoom
      else (if min = 0 then stateRoom else min * r) +
        if min = max then 0 else stateRoom + (max - min) * (r + branch + branchRoom)
    | none =>
      if min = 0 then
        if a.nullable then r + 2 * (branch + branchRoom) + stateRoom else r + branch
      else min * r + branch

/-- Room of the program that reads forwards with captures. -/
def forwardRoom (a : Regex) : Nat := a.roomWith setRoom true + 7 * stateRoom

/-- Room of the program that reads backwards without captures. -/
def backwardRoom (a : Regex) : Nat := a.roomWith reverseSetRoom false + 5 * stateRoom

/-- Ten mebibytes. -/
def roomLimit : Nat := 10485760

def fits (a : Regex) : Bool := a.forwardRoom ≤ roomLimit && a.backwardRoom ≤ roomLimit

end Killfile.Regex

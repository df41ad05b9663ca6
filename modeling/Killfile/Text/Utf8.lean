/-! Bytes as UTF-8 text. -/

namespace Killfile.Text.Utf8

/-- The character of a scalar value. -/
def scalar? (n : Nat) : Option Char :=
  if h : n.isValidChar then some (Char.ofNatAux n h) else none

theorem toNat_of_scalar? {n : Nat} {c : Char} (h : scalar? n = some c) : c.toNat = n := by
  by_cases hvalid : n.isValidChar
  · have hsome : scalar? n = some (Char.ofNatAux n hvalid) := dif_pos hvalid
    obtain rfl := Option.some.inj (hsome.symm.trans h)
    show (UInt32.ofNatLT n _).toNat = n
    exact UInt32.toNat_ofNatLT
  · have hnone : scalar? n = none := dif_neg hvalid
    rw [hnone] at h
    cases h

theorem scalar?_toNat (c : Char) : scalar? c.toNat = some c := by
  have hvalid : c.toNat.isValidChar := c.valid
  rw [scalar?, dif_pos hvalid]
  rfl

/-- What a first byte announces: the number of bytes that follow it, its share of the value, and the
least and greatest second byte. The bounds keep out overlong forms, surrogates and values beyond the
last code point. -/
def lead? (b : Nat) : Option (Nat × Nat × Nat × Nat) :=
  if 0xC2 ≤ b ∧ b ≤ 0xDF then some (1, b - 0xC0, 0x80, 0xBF)
  else if b = 0xE0 then some (2, 0, 0xA0, 0xBF)
  else if b = 0xED then some (2, 0xD, 0x80, 0x9F)
  else if 0xE1 ≤ b ∧ b ≤ 0xEF then some (2, b - 0xE0, 0x80, 0xBF)
  else if b = 0xF0 then some (3, 0, 0x90, 0xBF)
  else if 0xF1 ≤ b ∧ b ≤ 0xF3 then some (3, b - 0xF0, 0x80, 0xBF)
  else if b = 0xF4 then some (3, 4, 0x80, 0x8F)
  else none

/-- A character that is not complete: how many bytes it lacks, its value so far, and the bounds of
the next byte. -/
structure Partial where
  missing : Nat
  value : Nat
  low : Nat
  high : Nat

/-- Begins a character. A byte that cannot begin one is malformed. -/
def start (b : Nat) : List (Option Char) × Option Partial :=
  if b < 0x80 then ([scalar? b], none)
  else match lead? b with
    | some (n, v, low, high) => ([], some ⟨n, v, low, high⟩)
    | none => ([none], none)

/-- Reads bytes. Each longest part that could have begun a character but did not become one is
malformed and gives no character. -/
def decodeFrom : Option Partial → List UInt8 → List (Option Char)
  | none, [] => []
  | some _, [] => [none]
  | none, b :: s => (start b.toNat).1 ++ decodeFrom (start b.toNat).2 s
  | some p, b :: s =>
    if p.low ≤ b.toNat ∧ b.toNat ≤ p.high then
      let value := 64 * p.value + (b.toNat - 0x80)
      if p.missing ≤ 1 then scalar? value :: decodeFrom none s
      else decodeFrom (some ⟨p.missing - 1, value, 0x80, 0xBF⟩) s
    else none :: ((start b.toNat).1 ++ decodeFrom (start b.toNat).2 s)

def decode (s : List UInt8) : List (Option Char) := decodeFrom none s

/-- The text of bytes that are well formed throughout. -/
def text? (s : List UInt8) : Option String := ((decode s).mapM id).map String.ofList

/-- The text of any bytes, with the replacement character for each malformed part. -/
def textLossy (s : List UInt8) : String :=
  String.ofList ((decode s).map fun c => c.getD (Char.ofNat 0xFFFD))

/-- The bytes of a text. -/
def encode (s : String) : List UInt8 := s.toUTF8.toList

end Killfile.Text.Utf8

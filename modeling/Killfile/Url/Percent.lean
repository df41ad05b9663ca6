/-! Percent encoding: bytes written as a percent sign and two hexadecimal digits. -/

namespace Killfile.Url

def hexChar (n : Nat) : Char :=
  if n < 10 then Char.ofNat ('0'.toNat + n) else Char.ofNat ('A'.toNat + (n - 10))

def percentByte (b : UInt8) : List Char := ['%', hexChar (b.toNat / 16), hexChar (b.toNat % 16)]

/-- Encodes a character that is not ASCII or belongs to a set. -/
def encodeChar (set : Char → Bool) (c : Char) : List Char :=
  if c.toNat < 0x80 && !set c then [c] else (String.utf8EncodeChar c).flatMap percentByte

def encode (set : Char → Bool) (s : List Char) : List Char := s.flatMap (encodeChar set)

/-- A character that no set encodes stays as it is. -/
theorem encodeChar_of_not {set : Char → Bool} {c : Char} (h : c.toNat < 0x80) (hs : set c = false) :
    encodeChar set c = [c] := by
  simp [encodeChar, h, hs]

def isControl (c : Char) : Bool := c.toNat < 0x20 || c.toNat == 0x7F

def inFragment (c : Char) : Bool := isControl c || " \"<>`".toList.contains c

def inPath (c : Char) : Bool := inFragment c || "#?\x7b\x7d".toList.contains c

def inUserinfo (c : Char) : Bool := inPath c || "/:;=@[\\]^|".toList.contains c

def inQuery (c : Char) : Bool := isControl c || " \"#<>".toList.contains c

/-- Queries of web schemes encode the apostrophe as well. -/
def inSpecialQuery (c : Char) : Bool := inQuery c || c == '\''

def hexValue? (c : Char) : Option Nat :=
  if c.isDigit then some (c.toNat - '0'.toNat)
  else if 'a' ≤ c ∧ c ≤ 'f' then some (c.toNat - 'a'.toNat + 10)
  else if 'A' ≤ c ∧ c ≤ 'F' then some (c.toNat - 'A'.toNat + 10)
  else none

/-- The bytes of a text in which percent signs with two hexadecimal digits stand for bytes. -/
def percentDecode : List Char → List UInt8
  | '%' :: a :: b :: s =>
    match hexValue? a, hexValue? b with
    | some m, some n => UInt8.ofNat (16 * m + n) :: percentDecode s
    | _, _ => String.utf8EncodeChar '%' ++ percentDecode (a :: b :: s)
  | c :: s => String.utf8EncodeChar c ++ percentDecode s
  | [] => []

end Killfile.Url

import Killfile.Text.Utf8

/-! Text of Unicode in bytes and back. What is encoded is decoded to the same characters, one by one. -/

namespace Killfile.Text.Utf8

section Lists

/-- An array is listed from a place on, behind what has been listed. -/
theorem loop_eq_append_drop (bs : ByteArray) (i : Nat) (listed : List UInt8) :
    ByteArray.toList.loop bs i listed = listed.reverse ++ bs.data.toList.drop i := by
  fun_induction ByteArray.toList.loop bs i listed with
  | case1 i listed h ih =>
    have hdrop : bs.data.toList.drop i = bs.get! i :: bs.data.toList.drop (i + 1) := by
      rw [List.drop_eq_getElem_cons (by simpa using h)]
      simp [ByteArray.get!, h]
    rw [ih, hdrop, List.reverse_cons, List.append_assoc, List.singleton_append]
  | case2 i listed h =>
    have hdrop : bs.data.toList.drop i = [] := List.drop_eq_nil_of_le (by simpa using h)
    rw [hdrop, List.append_nil]

theorem encode_ofList (l : List Char) : encode (String.ofList l) = l.flatMap String.utf8EncodeChar := by
  rw [encode, String.toUTF8_eq_toByteArray, String.toByteArray_ofList, ByteArray.toList,
    loop_eq_append_drop, List.utf8Encode, List.toList_data_toByteArray]
  rfl

end Lists

section Bytes

variable {n d missing value low high : Nat} {s : List UInt8}

theorem decodeFrom_lead (hn : 0x80 ≤ n ∧ n < 0x100) (h : lead? n = some (missing, value, low, high)) :
    decodeFrom none (.ofNat n :: s) = decodeFrom (some ⟨missing, value, low, high⟩) s := by
  have hbyte : (UInt8.ofNat n).toNat = n := UInt8.toNat_ofNat_of_lt hn.2
  rw [decodeFrom, hbyte, start, if_neg (Nat.not_lt.mpr hn.1), h]
  rfl

/-- A byte that follows and is not the last. -/
theorem decodeFrom_next (hlow : low ≤ d + 0x80) (hhigh : d + 0x80 ≤ high) (hd : d < 64) :
    decodeFrom (some ⟨missing + 2, value, low, high⟩) (.ofNat (d + 0x80) :: s) =
      decodeFrom (some ⟨missing + 1, 64 * value + d, 0x80, 0xBF⟩) s := by
  have hbyte : (UInt8.ofNat (d + 0x80)).toNat = d + 0x80 :=
    UInt8.toNat_ofNat_of_lt (Nat.lt_trans (Nat.add_lt_add_right hd 0x80) (by decide))
  simp only [decodeFrom, hbyte, Nat.add_sub_cancel]
  rw [if_pos ⟨hlow, hhigh⟩, if_neg (by omega)]
  rfl

/-- The last byte of a character. -/
theorem decodeFrom_last (hlow : low ≤ d + 0x80) (hhigh : d + 0x80 ≤ high) (hd : d < 64) :
    decodeFrom (some ⟨1, value, low, high⟩) (.ofNat (d + 0x80) :: s) =
      scalar? (64 * value + d) :: decodeFrom none s := by
  have hbyte : (UInt8.ofNat (d + 0x80)).toNat = d + 0x80 :=
    UInt8.toNat_ofNat_of_lt (Nat.lt_trans (Nat.add_lt_add_right hd 0x80) (by decide))
  simp only [decodeFrom, hbyte, Nat.add_sub_cancel]
  rw [if_pos ⟨hlow, hhigh⟩, if_pos (Nat.le_refl 1)]

end Bytes

section Values

variable {v : Nat}

/-- The first of three bytes. The bounds for the second allow for what is encoded. -/
theorem exists_lead?_three (h : 0x800 ≤ v) (hmax : v < 0x10000) (hvalid : v < 0xD800 ∨ 0xDFFF < v) :
    ∃ low high, lead? (v / 4096 + 0xE0) = some (2, v / 4096, low, high) ∧
      low ≤ v / 64 % 64 + 0x80 ∧ v / 64 % 64 + 0x80 ≤ high := by
  by_cases hfirst : v / 4096 = 0
  · exact ⟨0xA0, 0xBF, by rw [hfirst]; rfl, by omega, by omega⟩
  by_cases hsurrogates : v / 4096 = 0xD
  · exact ⟨0x80, 0x9F, by rw [hsurrogates]; rfl, by omega, by omega⟩
  refine ⟨0x80, 0xBF, ?_, by omega, by omega⟩
  rw [lead?, if_neg (by omega), if_neg (by omega), if_neg (by omega), if_pos (by omega), Nat.add_sub_cancel]

/-- The first of four bytes. The bounds for the second allow for what is encoded. -/
theorem exists_lead?_four (h : 0x10000 ≤ v) (hmax : v < 0x110000) :
    ∃ low high, lead? (v / 262144 + 0xF0) = some (3, v / 262144, low, high) ∧
      low ≤ v / 4096 % 64 + 0x80 ∧ v / 4096 % 64 + 0x80 ≤ high := by
  by_cases hfirst : v / 262144 = 0
  · exact ⟨0x90, 0xBF, by rw [hfirst]; rfl, by omega, by omega⟩
  by_cases hlast : v / 262144 = 4
  · exact ⟨0x80, 0x8F, by rw [hlast]; rfl, by omega, by omega⟩
  refine ⟨0x80, 0xBF, ?_, by omega, by omega⟩
  rw [lead?, if_neg (by omega), if_neg (by omega), if_neg (by omega), if_neg (by omega), if_neg (by omega),
    if_pos (by omega), Nat.add_sub_cancel]

theorem decodeFrom_one (h : v < 0x80) (s : List UInt8) :
    decodeFrom none (.ofNat v :: s) = scalar? v :: decodeFrom none s := by
  have hbyte : (UInt8.ofNat v).toNat = v := UInt8.toNat_ofNat_of_lt (Nat.lt_trans h (by decide))
  rw [decodeFrom, hbyte, start, if_pos h]
  rfl

theorem decodeFrom_two (h : 0x80 ≤ v) (hmax : v < 0x800) (s : List UInt8) :
    decodeFrom none (.ofNat (v / 64 + 0xC0) :: .ofNat (v % 64 + 0x80) :: s) =
      scalar? v :: decodeFrom none s := by
  have hlead : lead? (v / 64 + 0xC0) = some (1, v / 64, 0x80, 0xBF) := by
    rw [lead?, if_pos (by omega), Nat.add_sub_cancel]
  have hvalue : 64 * (v / 64) + v % 64 = v := by omega
  rw [decodeFrom_lead (by omega) hlead, decodeFrom_last (by omega) (by omega) (by omega), hvalue]

theorem decodeFrom_three (h : 0x800 ≤ v) (hmax : v < 0x10000) (hvalid : v < 0xD800 ∨ 0xDFFF < v)
    (s : List UInt8) :
    decodeFrom none (.ofNat (v / 4096 + 0xE0) :: .ofNat (v / 64 % 64 + 0x80) ::
      .ofNat (v % 64 + 0x80) :: s) = scalar? v :: decodeFrom none s := by
  obtain ⟨low, high, hlead, hlow, hhigh⟩ := exists_lead?_three h hmax hvalid
  have hvalue : 64 * (64 * (v / 4096) + v / 64 % 64) + v % 64 = v := by omega
  rw [decodeFrom_lead (by omega) hlead, decodeFrom_next hlow hhigh (by omega),
    decodeFrom_last (by omega) (by omega) (by omega), hvalue]

theorem decodeFrom_four (h : 0x10000 ≤ v) (hmax : v < 0x110000) (s : List UInt8) :
    decodeFrom none (.ofNat (v / 262144 + 0xF0) :: .ofNat (v / 4096 % 64 + 0x80) ::
      .ofNat (v / 64 % 64 + 0x80) :: .ofNat (v % 64 + 0x80) :: s) = scalar? v :: decodeFrom none s := by
  obtain ⟨low, high, hlead, hlow, hhigh⟩ := exists_lead?_four h hmax
  have hvalue : 64 * (64 * (64 * (v / 262144) + v / 4096 % 64) + v / 64 % 64) + v % 64 = v := by omega
  rw [decodeFrom_lead (by omega) hlead, decodeFrom_next hlow hhigh (by omega),
    decodeFrom_next (by omega) (by omega) (by omega), decodeFrom_last (by omega) (by omega) (by omega),
    hvalue]

end Values

theorem decodeFrom_utf8EncodeChar (c : Char) (s : List UInt8) :
    decodeFrom none (String.utf8EncodeChar c ++ s) = some c :: decodeFrom none s := by
  have hvalid : c.val.toNat < 0xD800 ∨ 0xDFFF < c.val.toNat ∧ c.val.toNat < 0x110000 := c.valid
  have hchar : scalar? c.val.toNat = some c := scalar?_toNat c
  rw [← hchar]
  simp only [String.utf8EncodeChar]
  -- The shares of the value in the first byte need no bound, for the value has one.
  split
  next h => exact decodeFrom_one (by omega) s
  split
  next h =>
    rw [Nat.mod_eq_of_lt (a := c.val.toNat / 64) (by omega)]
    exact decodeFrom_two (by omega) (by omega) s
  split
  next h =>
    rw [Nat.mod_eq_of_lt (a := c.val.toNat / 4096) (by omega)]
    exact decodeFrom_three (by omega) (by omega) (by omega) s
  next h =>
    rw [Nat.mod_eq_of_lt (a := c.val.toNat / 262144) (by omega)]
    exact decodeFrom_four (by omega) (by omega) s

theorem decode_flatMap (l : List Char) : decode (l.flatMap String.utf8EncodeChar) = l.map some := by
  induction l with
  | nil => rfl
  | cons c l ih =>
    rw [List.flatMap_cons, decode, decodeFrom_utf8EncodeChar, ← decode, ih, List.map_cons]

/-- What is encoded is decoded to the same characters. -/
theorem decode_encode (s : String) : decode (encode s) = s.toList.map some := by
  obtain ⟨l, rfl⟩ : ∃ l, s = String.ofList l := ⟨s.toList, String.ofList_toList.symm⟩
  rw [encode_ofList, decode_flatMap, String.toList_ofList]

end Killfile.Text.Utf8

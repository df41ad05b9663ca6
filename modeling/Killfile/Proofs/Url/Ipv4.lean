import Killfile.Proofs.Unicode.Case
import Killfile.Proofs.Url.Authority
import Killfile.Proofs.Url.Domain

/-! Addresses of four bytes as they are written, and how they are read back. -/

namespace Killfile.Url

open Text (pieces)

section Ipv4

variable {n : Nat} {s : List Char}

/-- The bytes of an address in decimal. -/
def byteLabels (n : Nat) : List (List Char) := byteWeights.map fun w => Nat.toDigits 10 (n / w % 256)

theorem toList_renderIpv4 (n : Nat) : (renderIpv4 n).toList = ".".toList.intercalate (byteLabels n) := by
  rw [renderIpv4, String.toList_intercalate, List.map_map, byteLabels]
  congr 1
  exact List.map_congr_left fun w _ => by simp

theorem addressNumber?_toDigits (h : n < 256) : addressNumber? (Nat.toDigits 10 n) = some n := by
  revert n
  decide +kernel

theorem isDomainChar_of_isDigit {c : Char} (h : c.isDigit = true) : IsDomainChar c :=
  Unicode.of_isDigit (by decide +kernel) h

/-- A label of ASCII characters needs no checks beyond those of its characters. -/
theorem isLabel_of_isDomainChar (h : ∀ c ∈ s, IsDomainChar c) : isLabel s = true := by
  have hjoin : ∀ before, joinersFit before s = true := by
    induction s with
    | nil => exact fun _ => rfl
    | cons c s ih =>
      obtain ⟨hc, hs⟩ := List.forall_mem_cons.mp h
      have hlt := hc.ascii
      intro before
      rw [joinersFit, ih hs, Bool.and_true]
      split
      · omega
      · omega
      · rfl
  have hhead : s.head?.any isCombining = false := by
    cases s with
    | nil => rfl
    | cons c s =>
      have := (h c List.mem_cons_self).ascii
      simp [isCombining, Nat.not_le.mpr this]
  have hall : s.all (fun c => mapChar c = some [c] && !deniedInDomain c) = true := by
    refine List.all_eq_true.mpr fun c hc => ?_
    simp [mapChar_ascii (h c hc).ascii, (h c hc).lower, (h c hc).allowed]
  rw [isLabel, hall, hhead, hjoin]
  rfl

theorem isDigit_byteLabels (n : Nat) : ∀ l ∈ byteLabels n, ∀ c ∈ l, c.isDigit = true := by
  intro l hl c hc
  obtain ⟨w, -, rfl⟩ := List.mem_map.mp hl
  exact isDigit_toDigits _ c hc

theorem isAsciiText_byteLabels (n : Nat) : ∀ l ∈ byteLabels n, isAsciiText l = true := by
  intro l hl
  refine List.all_eq_true.mpr fun c hc => ?_
  simpa using (isDomainChar_of_isDigit (isDigit_byteLabels n l hl c hc)).ascii

theorem isDomain_byteLabels (n : Nat) : IsDomain (byteLabels n) := by
  have hdigit := isDigit_byteLabels n
  refine ⟨by simp [byteLabels, byteWeights], fun l hl => ?_, fun l hl hstop => ?_,
    fun l hl _ hmark => ?_, fun l hl hnot => ?_, fun h => ?_⟩
  · exact isLabel_of_isDomainChar fun c hc => isDomainChar_of_isDigit (hdigit l hl c hc)
  · exact absurd (hdigit l hl '.' hstop) (by decide)
  · have hx : 'x' ∈ l := List.mem_of_mem_take (hmark ▸ (by decide : 'x' ∈ punycodeMark))
    exact absurd (hdigit l hl 'x' hx) (by decide)
  · simp [isAsciiText_byteLabels n l hl] at hnot
  · obtain ⟨l, hl, hnot⟩ := List.any_eq_true.mp h
    simp [isAsciiText_byteLabels n l hl] at hnot

theorem renderIpv4_eq_domainText (n : Nat) : (renderIpv4 n).toList = domainText (byteLabels n) := by
  rw [toList_renderIpv4, domainText]
  congr 1
  refine (List.map_id _).symm.trans (List.map_congr_left fun l hl => ?_)
  rw [renderLabel, if_pos (isAsciiText_byteLabels n l hl)]
  rfl

theorem pieces_renderIpv4 (n : Nat) : pieces '.' (renderIpv4 n).toList = byteLabels n := by
  rw [toList_renderIpv4]
  exact pieces_intercalate (isDomain_byteLabels n).nonempty (isDomain_byteLabels n).stops

theorem endsInNumber_renderIpv4 (n : Nat) : endsInNumber (renderIpv4 n).toList = true := by
  obtain ⟨c, r, hlast⟩ := List.exists_cons_of_ne_nil (Nat.toDigits_ne_nil (b := 10) (n := n / 1 % 256))
  have hdigits : (c :: r).all Char.isDigit = true := by
    rw [← hlast]
    exact List.all_eq_true.mpr (isDigit_toDigits _)
  have hreverse : (byteLabels n).reverse = [c :: r, Nat.toDigits 10 (n / 256 % 256),
      Nat.toDigits 10 (n / 65536 % 256), Nat.toDigits 10 (n / 16777216 % 256)] := by
    rw [← hlast]
    rfl
  rw [endsInNumber, pieces_renderIpv4, hreverse]
  simp only [endsInNumber.isNumber, hdigits]
  rfl

/-- The value of bytes with their weights, and of what fills the others. -/
def weighted (last : Nat) (bytes weights : List Nat) : Nat :=
  (bytes.zip weights).foldl (fun sum (n, w) => sum + n * w) last

theorem weighted_nil (last : Nat) (weights : List Nat) : weighted last [] weights = last := rfl

theorem weighted_cons (last a w : Nat) (bytes weights : List Nat) :
    weighted last (a :: bytes) (w :: weights) = weighted (last + a * w) bytes weights := rfl

/-- Up to four numbers stand for four bytes. -/
theorem weighted_lt {bytes : List Nat} {last : Nat} (hcount : bytes.length ≤ 3)
    (hbytes : ∀ a ∈ bytes, a < 256) (hlast : last < 256 ^ (4 - bytes.length)) :
    weighted last bytes byteWeights < 4294967296 := by
  match bytes, hcount with
  | [], _ =>
    norm_num at hlast
    rwa [weighted_nil]
  | [a], _ =>
    norm_num at hlast
    have ha : a < 256 := hbytes a (by simp)
    rw [byteWeights, weighted_cons, weighted_nil]
    omega
  | [a, b], _ =>
    norm_num at hlast
    have ha : a < 256 := hbytes a (by simp)
    have hb : b < 256 := hbytes b (by simp)
    rw [byteWeights, weighted_cons, weighted_cons, weighted_nil]
    omega
  | [a, b, c], _ =>
    norm_num at hlast
    have ha : a < 256 := hbytes a (by simp)
    have hb : b < 256 := hbytes b (by simp)
    have hc : c < 256 := hbytes c (by simp)
    rw [byteWeights, weighted_cons, weighted_cons, weighted_cons, weighted_nil]
    omega

theorem lt_of_ipv4? (h : ipv4? s = some n) : n < 4294967296 := by
  simp only [ipv4?, Option.bind_eq_bind, Option.bind_eq_some_iff] at h
  obtain ⟨numbers, -, h⟩ := h
  split at h
  · cases h
  next last others hreverse =>
    split at h
    next hfits =>
      obtain rfl := Option.some.inj h
      obtain ⟨hlength, hbytes, hlt⟩ := hfits
      have hcount : others.reverse.length ≤ 3 := by
        have := congrArg List.length hreverse
        simp only [List.length_reverse, List.length_cons] at this ⊢
        omega
      exact weighted_lt hcount (fun a ha => by simpa using List.all_eq_true.mp hbytes a ha) hlt
    · cases h

/-- An address of four bytes is read back. -/
theorem ipv4?_renderIpv4 (h : n < 4294967296) : ipv4? (renderIpv4 n).toList = some n := by
  have hbyte (m : Nat) : addressNumber? (Nat.toDigits 10 (m % 256)) = some (m % 256) :=
    addressNumber?_toDigits (Nat.mod_lt m (by decide))
  have hnumbers : (byteLabels n).mapM addressNumber? =
      some [n / 16777216 % 256, n / 65536 % 256, n / 256 % 256, n / 1 % 256] := by
    simp only [mapM_eq_some_iff, byteLabels, byteWeights, List.map_cons, List.map_nil,
      List.forall₂_cons, hbyte, List.forall₂_nil_left_iff, and_self]
  have hlast : (byteLabels n).getLast? ≠ some [] := by
    simp [byteLabels, byteWeights]
  rw [ipv4?, pieces_renderIpv4]
  simp only [hlast, if_false, Option.bind_eq_bind, hnumbers, Option.bind_some]
  have hreverse : [n / 16777216 % 256, n / 65536 % 256, n / 256 % 256, n / 1 % 256].reverse =
      [n / 1 % 256, n / 256 % 256, n / 65536 % 256, n / 16777216 % 256] := rfl
  simp only [hreverse]
  rw [if_pos]
  · have hvalue : weighted (n / 1 % 256) [n / 16777216 % 256, n / 65536 % 256, n / 256 % 256] byteWeights =
        n := by
      rw [byteWeights, weighted_cons, weighted_cons, weighted_cons, weighted_nil]
      omega
    exact congrArg some hvalue
  · refine ⟨by simp, ?_, Nat.mod_lt _ (by decide)⟩
    simp [Nat.mod_lt]

end Ipv4

end Killfile.Url

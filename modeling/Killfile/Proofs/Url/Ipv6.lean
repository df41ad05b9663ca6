import Killfile.Proofs.Url.Authority
import Killfile.Proofs.Url.Domain
import Killfile.Url.Address
import Mathlib.Data.List.TakeWhile

/-! Addresses of eight pieces as they are written, with two colons for zeros, and how they are read
back. -/

namespace Killfile.Url

section Hexadecimal

variable {n : Nat} {r : List Char} {c : Char}

/-- The digits of numbers in hexadecimal. -/
def hexChars : List Char := "0123456789abcdef".toList

theorem digitChar_mem (h : n < 16) : n.digitChar ∈ hexChars := by
  revert n
  decide +kernel

theorem mem_toDigits (h : c ∈ Nat.toDigits 16 n) : c ∈ hexChars := by
  induction n using Nat.strongRecOn with
  | ind n ih =>
    rw [Nat.toDigits_eq_if (by decide)] at h
    split at h
    next hlt => exact List.mem_singleton.mp h ▸ digitChar_mem hlt
    next hge =>
      rcases List.mem_append.mp h with h | h
      · exact ih _ (Nat.div_lt_self (by omega) (by decide)) h
      · exact List.mem_singleton.mp h ▸ digitChar_mem (Nat.mod_lt n (by decide))

/-- The digits of a piece of an address are split from what stands behind them. -/
theorem takeWhile_toDigits (hn : n < 65536) (hr : ∀ c ∈ r.head?, (hexValue? c).isSome = false) :
    ((Nat.toDigits 16 n ++ r).take 4).takeWhile (fun d => (hexValue? d).isSome) = Nat.toDigits 16 n := by
  have hlength : (Nat.toDigits 16 n).length ≤ 4 := (Nat.length_toDigits_le_iff (by decide) (by decide)).mpr hn
  have hhex : ∀ c ∈ Nat.toDigits 16 n, (hexValue? c).isSome = true := by
    intro c hc
    have hall : ∀ c ∈ hexChars, (hexValue? c).isSome = true := by decide
    exact hall c (mem_toDigits hc)
  have hhead : ∀ c ∈ (r.take (4 - (Nat.toDigits 16 n).length)).head?, (hexValue? c).isSome = false := by
    intro c hc
    cases r with
    | nil => simp at hc
    | cons d r =>
      rw [List.head?_take] at hc
      split at hc
      · cases hc
      · exact hr c hc
  rw [List.take_append, List.take_of_length_le hlength]
  exact (span_iff.mpr ⟨rfl, hhex, hhead⟩).1

end Hexadecimal

section Ipv6

variable {n fuel : Nat} {m m' done l : List Nat} {gap : Option Nat} {r s : List Char}

/-- Digits begin with a character that is no colon. -/
theorem toDigits_cons (n : Nat) : ∃ c ds, Nat.toDigits 16 n = c :: ds ∧ c ≠ ':' := by
  obtain ⟨c, ds, h⟩ := List.exists_cons_of_ne_nil (Nat.toDigits_ne_nil (b := 16) (n := n))
  have hc : c ∈ hexChars := mem_toDigits (h ▸ List.mem_cons_self)
  refine ⟨c, ds, h, ?_⟩
  rintro rfl
  exact absurd hc (by decide)

theorem ipv6Pieces_last (hn : n < 65536) (hdone : done.length < 8) :
    ipv6Pieces (fuel + 1) done gap (Nat.toDigits 16 n) = some (done ++ [n], gap) := by
  have htake := takeWhile_toDigits (r := []) hn (by simp)
  rw [List.append_nil] at htake
  obtain ⟨c, ds, hds, hcolon⟩ := toDigits_cons n
  have hvalue : baseValue 16 (Nat.toDigits 16 n) = n := baseValue_toDigits (by decide) (by decide) n
  rw [hds] at htake hvalue ⊢
  rw [ipv6Pieces, if_neg (by omega), if_neg hcolon]
  simp only [htake, List.drop_length, hvalue]

theorem ipv6Pieces_next (hn : n < 65536) (hdone : done.length < 8) (hr : r ≠ []) :
    ipv6Pieces (fuel + 1) done gap (Nat.toDigits 16 n ++ ':' :: r) = ipv6Pieces fuel (done ++ [n]) gap r := by
  have htake := takeWhile_toDigits (r := ':' :: r) hn (by simp; decide)
  have hvalue : baseValue 16 (Nat.toDigits 16 n) = n := baseValue_toDigits (by decide) (by decide) n
  obtain ⟨c, ds, hds, hcolon⟩ := toDigits_cons n
  obtain ⟨d, r, rfl⟩ := List.exists_cons_of_ne_nil hr
  have hdrop : (c :: (ds ++ ':' :: d :: r)).drop (c :: ds).length = ':' :: d :: r :=
    @List.drop_left _ (c :: ds) _
  rw [hds] at htake hvalue ⊢
  rw [List.cons_append] at htake ⊢
  rw [ipv6Pieces, if_neg (by omega), if_neg hcolon]
  simp only [htake, hdrop, hvalue]

theorem ipv6Pieces_gap (hdone : done.length < 8) : ipv6Pieces (fuel + 1) done none (':' :: r) =
    ipv6Pieces fuel (done ++ [0]) (some (done.length + 1)) r := by
  rw [ipv6Pieces, if_neg (by omega), if_pos rfl]
  rfl

/-- Pieces of an address between colons. -/
def hexText (m : List Nat) : List Char := ":".toList.intercalate (m.map (Nat.toDigits 16))

theorem hexText_singleton (a : Nat) : hexText [a] = Nat.toDigits 16 a := by
  simp [hexText]

theorem hexText_cons_cons (a b : Nat) (m : List Nat) :
    hexText (a :: b :: m) = Nat.toDigits 16 a ++ ':' :: hexText (b :: m) := by
  rw [hexText, List.map_cons, List.map_cons, List.intercalate_cons_cons]
  simp [hexText]

theorem hexText_ne_nil (b : Nat) (m : List Nat) : hexText (b :: m) ≠ [] := by
  obtain ⟨c, ds, hds, -⟩ := toDigits_cons b
  cases m with
  | nil => simp [hexText_singleton, hds]
  | cons a m => simp [hexText_cons_cons, hds]

/-- Pieces between colons are read one by one. -/
theorem ipv6Pieces_hexText (hm : ∀ a ∈ m, a < 65536) (hdone : done.length + m.length ≤ 8)
    (hfuel : m.length ≤ fuel) : ipv6Pieces fuel done gap (hexText m) = some (done ++ m, gap) := by
  induction m generalizing done fuel with
  | nil => simp [hexText, ipv6Pieces]
  | cons a m ih =>
    obtain ⟨ha, hm⟩ := List.forall_mem_cons.mp hm
    simp only [List.length_cons] at hdone hfuel
    obtain ⟨k, rfl⟩ : ∃ k, fuel = k + 1 := ⟨fuel - 1, by omega⟩
    cases m with
    | nil => simpa [hexText_singleton] using ipv6Pieces_last ha (by omega)
    | cons b m =>
      rw [hexText_cons_cons, ipv6Pieces_next ha (by omega) (hexText_ne_nil b m),
        ih hm (by simp only [List.length_append, List.length_cons, List.length_nil] at hdone ⊢; omega)
          (by omega)]
      simp

/-- Pieces before two colons are read one by one. -/
theorem ipv6Pieces_before (hm : ∀ a ∈ m, a < 65536) (hne : m ≠ []) (hdone : done.length + m.length < 8)
    (hfuel : m.length ≤ fuel) : ipv6Pieces fuel done gap (hexText m ++ ':' :: ':' :: r) =
      ipv6Pieces (fuel - m.length) (done ++ m) gap (':' :: r) := by
  induction m generalizing done fuel with
  | nil => exact absurd rfl hne
  | cons a m ih =>
    obtain ⟨ha, hm⟩ := List.forall_mem_cons.mp hm
    simp only [List.length_cons] at hdone hfuel
    obtain ⟨k, rfl⟩ : ∃ k, fuel = k + 1 := ⟨fuel - 1, by omega⟩
    cases m with
    | nil =>
      rw [hexText_singleton, ipv6Pieces_next ha (by omega) (List.cons_ne_nil _ _)]
      rfl
    | cons b m =>
      rw [hexText_cons_cons, List.append_assoc, List.cons_append,
        ipv6Pieces_next ha (by omega) (by simp),
        ih hm (List.cons_ne_nil b m)
          (by simp only [List.length_append, List.length_cons, List.length_nil] at hdone ⊢; omega)
          (by omega)]
      simp [Nat.add_sub_add_right]

theorem length_le_hexText (m : List Nat) : m.length ≤ (hexText m).length := by
  induction m with
  | nil => simp
  | cons a m ih =>
    have hpos : 0 < (Nat.toDigits 16 a).length := Nat.length_toDigits_pos
    cases m with
    | nil =>
      rw [hexText_singleton]
      exact hpos
    | cons b m =>
      simp only [hexText_cons_cons, List.length_append, List.length_cons] at ih ⊢
      omega

/-- The eight pieces from those that are read, with zeros where two colons stand. -/
def fillGap (p : List Nat × Option Nat) : Option (List Nat) :=
  match p.2 with
  | some n => some (p.1.take n ++ List.replicate (8 - p.1.length) 0 ++ p.1.drop n)
  | none => if p.1.length = 8 then some p.1 else none

theorem ipv6?_gap : ipv6? (':' :: ':' :: r) = (ipv6Pieces (r.length + 2) [0] (some 1) r).bind fillGap := rfl

theorem ipv6?_of_ne {c d : Char} (hc : c ≠ ':') :
    ipv6? (c :: d :: r) = (ipv6Pieces (r.length + 2) [] none (c :: d :: r)).bind fillGap := by
  unfold ipv6?
  split
  next h => exact absurd (List.cons.inj h).1 hc
  next h => exact absurd (List.cons.inj h).1 hc
  next => rfl
  next h => exact absurd rfl (h c d r)

/-- A text with pieces and more behind them begins with a digit and goes on. -/
theorem exists_hexText_append (hne : m ≠ []) (hr : r ≠ [] ∨ 1 < m.length) :
    ∃ c d t, hexText m ++ r = c :: d :: t ∧ c ≠ ':' := by
  cases m with
  | nil => exact absurd rfl hne
  | cons a m =>
    obtain ⟨c, ds, hds, hcolon⟩ := toDigits_cons a
    obtain ⟨t, ht, hlong⟩ : ∃ t, hexText (a :: m) ++ r = c :: (ds ++ t) ∧ t ≠ [] := by
      cases m with
      | nil => exact ⟨r, by simp [hexText_singleton, hds], by simpa using hr⟩
      | cons b m => exact ⟨':' :: hexText (b :: m) ++ r, by simp [hexText_cons_cons, hds], by simp⟩
    obtain ⟨d, u, hu⟩ := List.exists_cons_of_ne_nil (List.append_ne_nil_of_right_ne_nil ds hlong)
    exact ⟨c, d, u, by rw [ht, hu], hcolon⟩

/-- Eight pieces between colons are read back. -/
theorem ipv6?_hexText (hl : ∀ a ∈ l, a < 65536) (hlength : l.length = 8) :
    ipv6? (hexText l) = some l := by
  have hne : l ≠ [] := List.ne_nil_of_length_pos (by omega)
  obtain ⟨c, d, t, ht, hc⟩ := exists_hexText_append (r := []) hne (.inr (by omega))
  rw [List.append_nil] at ht
  have hfuel : l.length ≤ t.length + 2 := by
    have := length_le_hexText l
    rwa [ht] at this
  rw [ht, ipv6?_of_ne hc, ← ht, ipv6Pieces_hexText hl (by simpa using hlength.le) hfuel]
  simp [fillGap, hlength]

/-- One of the zeros is read with the two colons, the others fill what is left. -/
theorem fillGap_eq (h : m.length + m'.length < 8) : fillGap (m ++ [0] ++ m', some (m.length + 1)) =
    some (m ++ List.replicate (8 - (m.length + m'.length)) 0 ++ m') := by
  have hlength : (m ++ [0]).length = m.length + 1 := by simp
  have hzeros : List.replicate (8 - (m.length + m'.length)) 0 =
      [0] ++ List.replicate (8 - (m ++ [0] ++ m').length) 0 := by
    rw [List.singleton_append, ← List.replicate_succ]
    congr 1
    simp only [List.length_append, List.length_singleton]
    omega
  have htake : (m ++ [0] ++ m').take (m.length + 1) = m ++ [0] := List.take_left' hlength
  have hdrop : (m ++ [0] ++ m').drop (m.length + 1) = m' := List.drop_left' hlength
  simp only [fillGap, htake, hdrop]
  rw [hzeros]
  simp only [List.append_assoc]

/-- Two colons are read back as the zeros that they stand for. -/
theorem ipv6?_compressed (hm : ∀ a ∈ m, a < 65536) (hm' : ∀ a ∈ m', a < 65536)
    (hlength : m.length + m'.length < 8) : ipv6? (hexText m ++ ':' :: ':' :: hexText m') =
      some (m ++ List.replicate (8 - (m.length + m'.length)) 0 ++ m') := by
  have hfuel := length_le_hexText m
  have hfuel' := length_le_hexText m'
  cases m with
  | nil =>
    have hread : ipv6Pieces ((hexText m').length + 2) [0] (some 1) (hexText m') = some ([0] ++ m', some 1) := by
      refine ipv6Pieces_hexText hm' ?_ (by omega)
      simp only [List.length_nil, List.length_singleton] at hlength ⊢
      omega
    have hnil : hexText [] = [] := rfl
    rw [hnil, List.nil_append, ipv6?_gap, hread]
    exact @fillGap_eq [] m' hlength
  | cons a m =>
    obtain ⟨c, d, t, ht, hc⟩ := exists_hexText_append (r := ':' :: ':' :: hexText m')
      (List.cons_ne_nil a m) (.inl (List.cons_ne_nil _ _))
    have hlong : t.length + 2 = (hexText (a :: m)).length + (hexText m').length + 2 := by
      have := congrArg List.length ht
      simp only [List.length_append, List.length_cons] at this
      omega
    obtain ⟨k, hk⟩ : ∃ k, t.length + 2 - (a :: m).length = k + 1 :=
      ⟨t.length + 1 - (a :: m).length, by omega⟩
    have hshort : ([] : List Nat).length + (a :: m).length < 8 := by
      simp only [List.length_nil]
      omega
    rw [ht, ipv6?_of_ne hc, ← ht, ipv6Pieces_before hm (List.cons_ne_nil a m) hshort (by omega), hk,
      List.nil_append, ipv6Pieces_gap (by omega), ipv6Pieces_hexText hm' ?_ (by omega)]
    · exact fillGap_eq hlength
    · simp only [List.length_append, List.length_singleton]
      omega

/-- A run of zeros within a list. -/
def IsZeros (l : List Nat) (run : Nat × Nat) : Prop :=
  run.1 + run.2 ≤ l.length ∧ (l.drop run.1).take run.2 = List.replicate run.2 0

theorem isZeros_takeWhile (l : List Nat) (i : Nat) (hi : i ≤ l.length) :
    IsZeros l (i, ((l.drop i).takeWhile (· = 0)).length) := by
  have hprefix := List.takeWhile_prefix (l := l.drop i) (fun n => decide (n = 0))
  refine ⟨?_, ?_⟩
  · have := hprefix.length_le
    rw [List.length_drop] at this
    simp only
    omega
  · rw [← List.prefix_iff_eq_take.mp hprefix, List.eq_replicate_iff]
    exact ⟨rfl, fun n hn => by simpa using List.mem_takeWhile_imp hn⟩

theorem isZeros_longestZeros (l : List Nat) : IsZeros l (longestZeros l) := by
  unfold longestZeros
  have hall : ∀ is : List Nat, (∀ i ∈ is, i < l.length) → ∀ best, IsZeros l best →
      IsZeros l (is.foldl (fun best i =>
        let n := ((l.drop i).takeWhile (· = 0)).length
        if n > best.2 then (i, n) else best) best) := by
    intro is
    induction is with
    | nil => exact fun _ _ h => h
    | cons i is ih =>
      intro his best hbest
      obtain ⟨hi, his⟩ := List.forall_mem_cons.mp his
      refine ih his _ ?_
      simp only
      split
      · exact isZeros_takeWhile l i hi.le
      · exact hbest
  exact hall _ (fun i hi => List.mem_range.mp hi) _ ⟨by simp, rfl⟩

theorem toList_join (l : List Nat) : (":".intercalate (l.map renderHex)).toList = hexText l := by
  rw [String.toList_intercalate, List.map_map, hexText]
  congr 1
  exact List.map_congr_left fun n _ => by simp [renderHex]

/-- An address is written with all its pieces, or with two colons for some of its zeros. -/
theorem renderIpv6_cases (l : List Nat) : (renderIpv6 l).toList = hexText l ∨
    ∃ m k m', l = m ++ List.replicate k 0 ++ m' ∧ 0 < k ∧
      (renderIpv6 l).toList = hexText m ++ ':' :: ':' :: hexText m' := by
  obtain ⟨hle, hzeros⟩ := isZeros_longestZeros l
  simp only [renderIpv6]
  split
  next hshort => exact .inl (toList_join l)
  next hlong =>
    refine .inr ⟨l.take (longestZeros l).1, (longestZeros l).2,
      l.drop ((longestZeros l).1 + (longestZeros l).2), ?_, by omega, ?_⟩
    · rw [← hzeros, List.append_assoc, ← List.drop_drop, List.take_append_drop, List.take_append_drop]
    · rw [String.toList_append, String.toList_append, toList_join, toList_join, List.append_assoc]
      rfl

theorem mem_of_decimalByte? {a : Nat} (h : decimalByte? s = some a) : a < 256 := by
  unfold decimalByte? at h
  split at h
  next hbyte => exact Option.some.inj h ▸ hbyte.2.2.2
  · cases h

theorem dottedPieces?_fits (h : dottedPieces? s = some l) : l.length = 2 ∧ ∀ a ∈ l, a < 65536 := by
  simp only [dottedPieces?, Option.bind_eq_bind, Option.bind_eq_some_iff] at h
  obtain ⟨bytes, hbytes, h⟩ := h
  split at h
  next a b c d =>
    obtain rfl := Option.some.inj h
    have hlt {n : Nat} (hn : n ∈ [a, b, c, d]) : n < 256 := by
      obtain ⟨x, -, hx⟩ := exists_of_mem_mapM hbytes hn
      exact mem_of_decimalByte? hx
    have ha := @hlt a (by simp)
    have hb := @hlt b (by simp)
    have hc := @hlt c (by simp)
    have hd := @hlt d (by simp)
    simp
    omega
  · cases h

theorem hexValue?_lt {c : Char} {v : Nat} (h : hexValue? c = some v) : v < 16 := by
  unfold hexValue? at h
  split at h
  next hdigit =>
    obtain ⟨-, hle⟩ := Char.isDigit_iff_toNat.mp hdigit
    have : '0'.toNat = 48 := rfl
    have := Option.some.inj h
    have h9 : '9'.toNat = 57 := rfl
    omega
  next =>
    split at h
    next hlower =>
      have hle : c.toNat ≤ 'f'.toNat := hlower.2
      have hf : 'f'.toNat = 102 := rfl
      have ha : 'a'.toNat = 97 := rfl
      have := Option.some.inj h
      omega
    next =>
      split at h
      next hupper =>
        have hle : c.toNat ≤ 'F'.toNat := hupper.2
        have hf : 'F'.toNat = 70 := rfl
        have ha : 'A'.toNat = 65 := rfl
        have := Option.some.inj h
        omega
      · cases h

theorem baseValue_hex_lt (s : List Char) : baseValue 16 s < 16 ^ s.length := by
  induction s using List.reverseRecOn with
  | nil => decide
  | append_singleton s c ih =>
    have hdigit : (hexValue? c).getD 0 < 16 := by
      cases h : hexValue? c with
      | none => decide
      | some v => exact hexValue?_lt h
    rw [baseValue_append, List.length_append, List.length_singleton, Nat.pow_succ]
    omega

/-- The pieces read so far of an address, and the place of two colons among them. -/
def ReadsPieces (p : List Nat × Option Nat) : Prop :=
  p.1.length ≤ 8 ∧ (∀ a ∈ p.1, a < 65536) ∧ ∀ n ∈ p.2, n ≤ p.1.length

theorem readsPieces_append (h : ReadsPieces (done, gap)) (hm : ∀ a ∈ m, a < 65536)
    (hlength : done.length + m.length ≤ 8) : ReadsPieces (done ++ m, gap) := by
  refine ⟨by simpa using hlength, ?_, fun n hn => ?_⟩
  · exact List.forall_mem_append.mpr ⟨h.2.1, hm⟩
  · have := h.2.2 n hn
    simp only [List.length_append] at this ⊢
    omega

theorem readsPieces_ipv6Pieces {p : List Nat × Option Nat} (h : ReadsPieces (done, gap))
    (hread : ipv6Pieces fuel done gap s = some p) : ReadsPieces p := by
  have hpiece (c : Char) (s : List Char) :
      baseValue 16 (((c :: s).take 4).takeWhile fun d => (hexValue? d).isSome) < 65536 := by
    have hlength : (((c :: s).take 4).takeWhile fun d => (hexValue? d).isSome).length ≤ 4 :=
      Nat.le_trans (List.takeWhile_prefix _).length_le (List.length_take_le 4 _)
    exact Nat.lt_of_lt_of_le (baseValue_hex_lt _) (Nat.pow_le_pow_right (by decide) hlength)
  have hone {done : List Nat} {gap : Option Nat} {a : Nat} (h : ReadsPieces (done, gap))
      (hfull : done.length ≠ 8) (ha : a < 65536) : ReadsPieces (done ++ [a], gap) := by
    have hle : done.length ≤ 8 := h.1
    exact readsPieces_append h (by simpa using ha) (by simp only [List.length_singleton]; omega)
  fun_induction ipv6Pieces fuel done gap s with
  | case1 => exact Option.some.inj hread ▸ h
  | case5 fuel done gap s hfull _ ih =>
    refine ih ⟨(hone h hfull (by decide)).1, (hone h hfull (by decide)).2.1, fun n hn => ?_⟩ hread
    simp [← Option.some.inj hn]
  | case7 fuel done gap c s hfull => exact Option.some.inj hread ▸ hone h hfull (hpiece c s)
  | case9 fuel done gap c s hfull _ _ r _ _ _ ih => exact ih (hone h hfull (hpiece c s)) hread
  | case11 fuel done gap c s _ _ _ _ _ hroom =>
    obtain ⟨l, hl, rfl⟩ := Option.map_eq_some_iff.mp hread
    obtain ⟨hlength, hfits⟩ := dottedPieces?_fits hl
    exact readsPieces_append h hfits (by omega)
  | _ => cases hread

theorem ipv6?_eq_some (h : ipv6? s = some l) : ∃ p, ReadsPieces p ∧ fillGap p = some l := by
  have hnone : ReadsPieces ([], none) := ⟨by decide, by simp, by simp⟩
  have hzero : ReadsPieces ([0], some 1) := ⟨by decide, by simp, by simp⟩
  unfold ipv6? at h
  split at h
  · obtain ⟨p, hp, hfill⟩ := Option.bind_eq_some_iff.mp h
    exact ⟨p, readsPieces_ipv6Pieces hzero hp, hfill⟩
  · cases h
  · obtain ⟨p, hp, hfill⟩ := Option.bind_eq_some_iff.mp h
    exact ⟨p, readsPieces_ipv6Pieces hnone hp, hfill⟩
  · cases h

/-- An address has eight pieces of 16 bits. -/
theorem ipv6?_fits (h : ipv6? s = some l) : l.length = 8 ∧ ∀ a ∈ l, a < 65536 := by
  obtain ⟨⟨done, gap⟩, ⟨hle, hfits, hgap⟩, hfill⟩ := ipv6?_eq_some h
  simp only at hle hfits hgap
  cases gap with
  | none =>
    simp only [fillGap] at hfill
    split at hfill
    next hlength => exact Option.some.inj hfill ▸ ⟨hlength, hfits⟩
    · cases hfill
  | some n =>
    have hn := hgap n rfl
    obtain rfl := Option.some.inj hfill
    constructor
    · simp
      omega
    · intro a ha
      simp only [List.mem_append, List.mem_replicate] at ha
      obtain (ha | ⟨-, rfl⟩) | ha := ha
      · exact hfits a (List.mem_of_mem_take ha)
      · decide
      · exact hfits a (List.mem_of_mem_drop ha)

/-- An address of eight pieces is read back. -/
theorem ipv6?_renderIpv6 (hlength : l.length = 8) (hl : ∀ a ∈ l, a < 65536) :
    ipv6? (renderIpv6 l).toList = some l := by
  obtain htext | ⟨m, k, m', hsplit, hk, htext⟩ := renderIpv6_cases l
  · rw [htext, ipv6?_hexText hl hlength]
  · have hcount : m.length + k + m'.length = 8 := by
      simpa [hsplit, Nat.add_assoc] using hlength
    have hm : ∀ a ∈ m, a < 65536 := fun a ha => hl a (by simp [hsplit, ha])
    have hm' : ∀ a ∈ m', a < 65536 := fun a ha => hl a (by simp [hsplit, ha])
    rw [htext, ipv6?_compressed hm hm' (by omega), hsplit]
    congr 3
    congr 1
    omega

theorem mem_hexText {c : Char} (h : c ∈ hexText m) : c = ':' ∨ c ∈ hexChars := by
  induction m with
  | nil => simp [hexText] at h
  | cons a m ih =>
    cases m with
    | nil => exact .inr (mem_toDigits (hexText_singleton a ▸ h))
    | cons b m =>
      rw [hexText_cons_cons] at h
      rcases List.mem_append.mp h with h | h
      · exact .inr (mem_toDigits h)
      · exact (List.mem_cons.mp h).elim .inl ih

theorem mem_renderIpv6 {c : Char} (h : c ∈ (renderIpv6 l).toList) : c = ':' ∨ c ∈ hexChars := by
  obtain htext | ⟨m, k, m', -, -, htext⟩ := renderIpv6_cases l
  · exact mem_hexText (htext ▸ h)
  · rw [htext] at h
    simp only [List.mem_append, List.mem_cons] at h
    obtain h | h | h | h := h
    · exact mem_hexText h
    · exact .inl h
    · exact .inl h
    · exact mem_hexText h

end Ipv6

end Killfile.Url

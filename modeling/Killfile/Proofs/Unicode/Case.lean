import Mathlib.Data.List.Basic
import Killfile.Text.Blank
import Killfile.Unicode.Case

/-! What lower case leaves alone. Blanks and commas are their own lower case, and they are the lower
case of no other character. So a text holds a comma, begins with a blank or ends with one exactly when
its lower case does. Of the ASCII characters, all but the letters i and k are the lower case of ASCII
characters only, so a text whose lower case is made of them can be put in lower case letter by letter. -/

namespace Killfile.Unicode

open Text (isBlank)

/-- Characters that part and surround the titles in a list. -/
def isSeparator (c : Char) : Bool := isBlank c || c == ','

variable {c d e : Char} {s before : List Char}

section Characters

/-- The code points of separators, in ranges with both ends included. -/
def separatorRanges : List (Nat × Nat) :=
  [(9, 13), (0x20, 0x20), (0x2C, 0x2C), (0x85, 0x85), (0xA0, 0xA0), (0x1680, 0x1680),
   (0x2000, 0x200A), (0x2028, 0x2029), (0x202F, 0x202F), (0x205F, 0x205F), (0x3000, 0x3000)]

theorem exists_range_of_isSeparator (h : isSeparator c = true) :
    ∃ p ∈ separatorRanges, p.1 ≤ c.toNat ∧ c.toNat ≤ p.2 := by
  simp only [isSeparator, isBlank, Bool.or_eq_true, Bool.and_eq_true, decide_eq_true_eq,
    beq_iff_eq] at h
  simp only [separatorRanges, List.mem_cons, List.not_mem_nil, or_false, exists_eq_or_imp,
    exists_eq_left]
  rcases h with h | rfl
  · omega
  · decide

/-- What holds of all digits is told by their numbers. -/
theorem of_isDigit {P : Char → Prop} (h : ∀ n < 0x3A, (Char.ofNat n).isDigit = true → P (Char.ofNat n))
    (hc : c.isDigit = true) : P c := by
  have hsame := h c.toNat (Nat.lt_succ_of_le (Char.isDigit_iff_toNat.mp hc).2)
  rw [Char.ofNat_toNat] at hsame
  exact hsame hc

theorem isUpper_iff_toNat : c.isUpper = true ↔ 'A'.toNat ≤ c.toNat ∧ c.toNat ≤ 'Z'.toNat :=
  decide_eq_true_iff

theorem isLower_iff_toNat : c.isLower = true ↔ 'a'.toNat ≤ c.toNat ∧ c.toNat ≤ 'z'.toNat :=
  Bool.and_eq_true_iff.trans (and_congr decide_eq_true_iff decide_eq_true_iff)

theorem toNat_ofNat {n : Nat} (h : n.isValidChar) : (Char.ofNat n).toNat = n := by
  rw [Char.ofNat, dif_pos h]
  exact UInt32.toNat_ofNatLT

/-- Neither the capitals of a run nor their lower case are separators, and the latter are characters. -/
def CaseRun.isApart (r : CaseRun) : Bool :=
  let lowerLast := r.lower + (r.last - r.first)
  (Nat.blt lowerLast 0xD800 || Nat.blt 0xDFFF r.lower && Nat.blt lowerLast 0x110000) &&
    separatorRanges.all fun p => (Nat.blt r.last p.1 || Nat.blt p.2 r.first) &&
      (Nat.blt lowerLast p.1 || Nat.blt p.2 r.lower)

theorem runs_isApart : lowercaseRuns.all CaseRun.isApart = true := by decide +kernel

theorem isSeparator_of_holds {r : CaseRun} (hr : r ∈ lowercaseRuns) (hc : r.holds c.toNat = true) :
    isSeparator c = false ∧ isSeparator (Char.ofNat (r.lower + (c.toNat - r.first))) = false := by
  have hapart := List.all_eq_true.mp runs_isApart r hr
  simp only [CaseRun.isApart, CaseRun.holds, Bool.and_eq_true, Bool.or_eq_true, List.all_eq_true,
    Nat.blt_eq, decide_eq_true_eq] at hapart hc
  obtain ⟨hvalid, hapart⟩ := hapart
  constructor
  · refine eq_false_of_ne_true fun h => ?_
    obtain ⟨p, hp, hlow, hhigh⟩ := exists_range_of_isSeparator h
    have := (hapart p hp).1
    omega
  · refine eq_false_of_ne_true fun h => ?_
    obtain ⟨p, hp, hlow, hhigh⟩ := exists_range_of_isSeparator h
    rw [toNat_ofNat (by unfold Nat.isValidChar; omega)] at hlow hhigh
    have := (hapart p hp).2
    omega

theorem ascii_toLower : (List.range 0x80).all (fun n => (Char.ofNat n).toLower == Char.ofNat n ||
    !isSeparator (Char.ofNat n) && !isSeparator (Char.ofNat n).toLower) = true := by
  decide +kernel

theorem lowercaseChar_ne_nil (c : Char) : lowercaseChar c ≠ [] := by
  unfold lowercaseChar
  split_ifs
  · simp
  · simp
  · split <;> simp

theorem eq_of_mem_lowercaseChar (hd : d ∈ lowercaseChar c)
    (h : isSeparator c = true ∨ isSeparator d = true) : d = c := by
  unfold lowercaseChar at hd
  split_ifs at hd with hascii hdotted
  · have hc := List.all_eq_true.mp ascii_toLower c.toNat (List.mem_range.mpr hascii)
    obtain rfl := List.mem_singleton.mp hd
    rw [Char.ofNat_toNat] at hc
    simp only [Bool.or_eq_true, Bool.and_eq_true, Bool.not_eq_true', beq_iff_eq] at hc
    rcases hc with hc | ⟨hc, hd⟩
    · exact hc
    · rw [hc, hd] at h
      simp at h
  · subst hdotted
    rcases List.mem_cons.mp hd with rfl | hd
    · exact absurd h (by decide)
    · obtain rfl := List.mem_singleton.mp hd
      exact absurd h (by decide)
  · split at hd
    · next r hr =>
      obtain ⟨hc, hlower⟩ := isSeparator_of_holds (List.mem_of_find?_eq_some hr)
        (List.find?_some (p := fun r : CaseRun => r.holds c.toNat) hr)
      rw [← List.mem_singleton.mp hd] at hlower
      rw [hc, hlower] at h
      simp at h
    · exact List.mem_singleton.mp hd

/-- No run leads from beyond ASCII into it, but for the one of the Kelvin sign. -/
theorem runs_beyond_ascii :
    lowercaseRuns.all (fun r => Nat.ble 0x80 r.lower || r.first == r.last && r.lower == 'k'.toNat) =
      true := by
  decide +kernel

theorem ascii_of_holds {r : CaseRun} (hr : r ∈ lowercaseRuns) (hc : r.holds c.toNat = true)
    (h : (Char.ofNat (r.lower + (c.toNat - r.first))).toNat < 0x80) :
    Char.ofNat (r.lower + (c.toNat - r.first)) = 'k' := by
  have hbeyond := List.all_eq_true.mp runs_beyond_ascii r hr
  have hapart := List.all_eq_true.mp runs_isApart r hr
  simp only [CaseRun.isApart, CaseRun.holds, Bool.and_eq_true, Bool.or_eq_true, Nat.blt_eq,
    Nat.ble_eq, beq_iff_eq, decide_eq_true_eq] at hbeyond hapart hc
  obtain ⟨hvalid, -⟩ := hapart
  rw [toNat_ofNat (by unfold Nat.isValidChar; omega)] at h
  rcases hbeyond with hbeyond | ⟨hsingle, hlower⟩
  · omega
  · have hfirst : c.toNat - r.first = 0 := by omega
    rw [hfirst, hlower]
    rfl

/-- An ASCII character that is the lower case of ASCII characters only. The letter i is also part of the
lower case of the capital with a dot, and the letter k is also the lower case of the Kelvin sign. -/
def IsPlain (d : Char) : Prop := d.toNat < 0x80 ∧ d ≠ 'i' ∧ d ≠ 'k'

instance (d : Char) : Decidable (IsPlain d) := inferInstanceAs (Decidable (_ ∧ _))

theorem ascii_of_isPlain_toLower (h : IsPlain c.toLower) : c.toNat < 0x80 := by
  cases hc : c.isUpper with
  | true => exact Nat.lt_of_le_of_lt (isUpper_iff_toNat.mp hc).2 (by decide)
  | false =>
    have hsame : c.toLower = c := dif_neg (of_decide_eq_false hc)
    rw [hsame] at h
    exact h.1

theorem lowercaseChar_of_ascii (h : c.toNat < 0x80) : lowercaseChar c = [c.toLower] := if_pos h

theorem ascii_of_mem_lowercaseChar (hd : IsPlain d) (h : d ∈ lowercaseChar c) : c.toNat < 0x80 := by
  obtain ⟨hascii, hi, hk⟩ := hd
  by_contra hbeyond
  rw [lowercaseChar, if_neg hbeyond] at h
  split_ifs at h with hdotted
  · rcases List.mem_cons.mp h with rfl | h
    · exact hi rfl
    · obtain rfl := List.mem_singleton.mp h
      exact absurd hascii (by decide)
  · split at h
    · next r hr =>
      obtain rfl := List.mem_singleton.mp h
      exact hk (ascii_of_holds (List.mem_of_find?_eq_some hr)
        (List.find?_some (p := fun r : CaseRun => r.holds c.toNat) hr) hascii)
    · obtain rfl := List.mem_singleton.mp h
      exact hbeyond hascii

end Characters

section Texts

/-- The lower case of a character with what stands before it, in reverse, and after it. -/
def lowercaseIn (before : List Char) (c : Char) (after : List Char) : List Char :=
  if c = 'Σ' then if casedNext before && !casedNext after then ['ς'] else ['σ']
  else lowercaseChar c

theorem lowercaseAfter_cons (before : List Char) (c : Char) (s : List Char) :
    lowercaseAfter before (c :: s) = lowercaseIn before c s ++ lowercaseAfter (c :: before) s := rfl

theorem lowercaseIn_ne_nil (before : List Char) (c : Char) (s : List Char) :
    lowercaseIn before c s ≠ [] := by
  unfold lowercaseIn
  split_ifs
  · simp
  · simp
  · exact lowercaseChar_ne_nil c

theorem eq_of_mem_lowercaseIn (hd : d ∈ lowercaseIn before c s)
    (h : isSeparator c = true ∨ isSeparator d = true) : d = c := by
  unfold lowercaseIn at hd
  split_ifs at hd with hc
  · subst hc
    obtain rfl := List.mem_singleton.mp hd
    exact absurd h (by decide)
  · subst hc
    obtain rfl := List.mem_singleton.mp hd
    exact absurd h (by decide)
  · exact eq_of_mem_lowercaseChar hd h

/-- A character with a separator in its lower case is that separator. -/
theorem eq_iff_of_mem_lowercaseIn (hd : isSeparator d = true) (he : e ∈ lowercaseIn before c s) :
    e = d ↔ c = d := by
  constructor
  · rintro rfl
    exact (eq_of_mem_lowercaseIn he (.inr hd)).symm
  · rintro rfl
    exact eq_of_mem_lowercaseIn he (.inl hd)

theorem mem_lowercaseIn (hd : isSeparator d = true) : d ∈ lowercaseIn before c s ↔ d = c := by
  constructor
  · exact fun h => eq_of_mem_lowercaseIn h (.inr hd)
  · rintro rfl
    obtain ⟨e, he⟩ := List.exists_mem_of_ne_nil _ (lowercaseIn_ne_nil before d s)
    obtain rfl : e = d := (eq_iff_of_mem_lowercaseIn hd he).mpr rfl
    exact he

theorem mem_lowercaseAfter (hd : isSeparator d = true) : d ∈ lowercaseAfter before s ↔ d ∈ s := by
  induction s generalizing before with
  | nil => rfl
  | cons c s ih => rw [lowercaseAfter_cons, List.mem_append, mem_lowercaseIn hd, ih, List.mem_cons]

theorem getLast?_lowercaseAfter (hd : isSeparator d = true) :
    (lowercaseAfter before s).getLast? = some d ↔ s.getLast? = some d := by
  induction s generalizing before with
  | nil => rfl
  | cons c s ih =>
    rw [lowercaseAfter_cons]
    cases s with
    | nil =>
      have hne := lowercaseIn_ne_nil before c []
      rw [lowercaseAfter, List.append_nil, List.getLast?_eq_some_getLast hne, Option.some.injEq,
        List.getLast?_singleton, Option.some.injEq]
      exact eq_iff_of_mem_lowercaseIn hd (List.getLast_mem hne)
    | cons c' s =>
      have hne : lowercaseAfter (c :: before) (c' :: s) ≠ [] := by
        rw [lowercaseAfter_cons]
        exact List.append_ne_nil_of_left_ne_nil (lowercaseIn_ne_nil _ c' s) _
      rw [List.getLast?_append_of_ne_nil _ hne, ih, List.getLast?_cons_cons]

theorem lowercaseIn_of_ascii (h : c.toNat < 0x80) : lowercaseIn before c s = [c.toLower] := by
  have hsigma : c ≠ 'Σ' := by
    rintro rfl
    exact absurd h (by decide)
  rw [lowercaseIn, if_neg hsigma, lowercaseChar_of_ascii h]

theorem ascii_of_mem_lowercaseIn (hd : IsPlain d) (h : d ∈ lowercaseIn before c s) :
    c.toNat < 0x80 := by
  unfold lowercaseIn at h
  split_ifs at h
  · obtain rfl := List.mem_singleton.mp h
    exact absurd hd (by decide)
  · obtain rfl := List.mem_singleton.mp h
    exact absurd hd (by decide)
  · exact ascii_of_mem_lowercaseChar hd h

theorem lowercaseAfter_eq_iff {t : List Char} (ht : ∀ d ∈ t, IsPlain d) :
    lowercaseAfter before s = t ↔ s.map Char.toLower = t := by
  induction s generalizing before t with
  | nil => rfl
  | cons c s ih =>
    rw [lowercaseAfter_cons, List.map_cons]
    constructor
    · rintro rfl
      obtain ⟨d, hd⟩ := List.exists_mem_of_ne_nil _ (lowercaseIn_ne_nil before c s)
      have hascii := ascii_of_mem_lowercaseIn (ht d (List.mem_append_left _ hd)) hd
      rw [lowercaseIn_of_ascii hascii, List.singleton_append] at ht ⊢
      rw [(ih fun d hd => ht d (List.mem_cons_of_mem _ hd)).mp rfl]
    · rintro rfl
      obtain ⟨hc, hs⟩ := List.forall_mem_cons.mp ht
      rw [lowercaseIn_of_ascii (ascii_of_isPlain_toLower hc), List.singleton_append, (ih hs).mpr rfl]

/-- A text of plain characters is the lower case of those texts that have it letter by letter. -/
theorem lowercase_eq_iff {t : List Char} (ht : ∀ d ∈ t, IsPlain d) :
    lowercase s = t ↔ s.map Char.toLower = t := lowercaseAfter_eq_iff ht

/-- A text holds a separator exactly when its lower case does. -/
theorem mem_lowercase (hd : isSeparator d = true) : d ∈ lowercase s ↔ d ∈ s := mem_lowercaseAfter hd

theorem head?_lowercase (hd : isSeparator d = true) :
    (lowercase s).head? = some d ↔ s.head? = some d := by
  cases s with
  | nil => rfl
  | cons c s =>
    have hne := lowercaseIn_ne_nil [] c s
    rw [lowercase, lowercaseAfter_cons, List.head?_append, List.head?_eq_some_head hne,
      Option.some_or, Option.some.injEq, List.head?_cons, Option.some.injEq]
    exact eq_iff_of_mem_lowercaseIn hd (List.head_mem hne)

theorem getLast?_lowercase (hd : isSeparator d = true) :
    (lowercase s).getLast? = some d ↔ s.getLast? = some d := getLast?_lowercaseAfter hd

end Texts

end Killfile.Unicode

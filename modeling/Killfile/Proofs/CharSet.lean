import Killfile.CharSet

/-! Members of sets of code points. Bringing ranges into order and joining them changes none. -/

namespace Killfile.CharSet

/-- A code point lies in one of the ranges. -/
def Covers (l : List (Nat × Nat)) (n : Nat) : Prop := ∃ r ∈ l, r.1 ≤ n ∧ n ≤ r.2

theorem covers_cons {r : Nat × Nat} {l : List (Nat × Nat)} {n : Nat} :
    Covers (r :: l) n ↔ (r.1 ≤ n ∧ n ≤ r.2) ∨ Covers l n := by
  simp [Covers]

theorem contains_iff {s : CharSet} {c : Char} :
    s.contains c = true ↔ Covers s.ranges c.toNat := by
  simp [contains, Covers]

/-- Ranges that overlap or touch cover together what the range from the first start to the last end
covers. -/
theorem covers_join {l : List (Nat × Nat)} (h : l.Pairwise fun r q => r.1 ≤ q.1) (n : Nat) :
    Covers (join l) n ↔ Covers l n := by
  fun_induction join l with
  | case1 => rfl
  | case2 r => rfl
  | case3 r q rest touch ih =>
    obtain ⟨hr, hq⟩ := List.pairwise_cons.mp h
    have hrq : r.1 ≤ q.1 := hr q List.mem_cons_self
    have hrest : ((r.1, max r.2 q.2) :: rest).Pairwise fun r q => r.1 ≤ q.1 :=
      List.pairwise_cons.mpr ⟨fun p hp => hr p (List.mem_cons_of_mem q hp),
        (List.pairwise_cons.mp hq).2⟩
    rw [ih hrest, covers_cons, covers_cons, covers_cons, ← or_assoc]
    refine or_congr_left ?_
    simp only
    omega
  | case4 r q rest apart ih =>
    rw [covers_cons, covers_cons, ih (List.pairwise_cons.mp h).2]

theorem contains_ofRanges {l : List (Nat × Nat)} {c : Char} :
    (ofRanges l).contains c = true ↔ Covers l c.toNat := by
  have hsorted : ((l.filter fun r => r.1 ≤ r.2).mergeSort fun r q => r.1 ≤ q.1).Pairwise
      fun r q => r.1 ≤ q.1 := by
    simpa using @List.pairwise_mergeSort _ (fun r q : Nat × Nat => decide (r.1 ≤ q.1))
      (by simp; omega) (by simp; omega) (l.filter fun r => r.1 ≤ r.2)
  rw [contains_iff, ofRanges, covers_join hsorted]
  simp only [Covers, List.mem_mergeSort, List.mem_filter, decide_eq_true_eq]
  constructor
  · rintro ⟨r, ⟨hr, -⟩, hc⟩
    exact ⟨r, hr, hc⟩
  · rintro ⟨r, hr, hc⟩
    exact ⟨r, ⟨hr, Nat.le_trans hc.1 hc.2⟩, hc⟩

/-- Ranges that are in order already are only joined. -/
theorem ofRanges_of_pairwise {l : List (Nat × Nat)} (hl : ∀ r ∈ l, r.1 ≤ r.2)
    (h : l.Pairwise fun r q => r.1 ≤ q.1) : ofRanges l = ⟨join l⟩ := by
  have hfilter : (l.filter fun r => r.1 ≤ r.2) = l :=
    List.filter_eq_self.mpr fun r hr => decide_eq_true (hl r hr)
  rw [ofRanges, hfilter, List.mergeSort_of_pairwise]
  exact h.imp fun hrq => decide_eq_true hrq

theorem contains_unions {l : List CharSet} {c : Char} :
    (unions l).contains c = true ↔ ∃ s ∈ l, s.contains c = true := by
  rw [unions, contains_ofRanges]
  simp only [contains_iff, Covers, List.mem_flatMap]
  constructor
  · rintro ⟨r, ⟨s, hs, hr⟩, hc⟩
    exact ⟨s, hs, r, hr, hc⟩
  · rintro ⟨s, hs, r, hr, hc⟩
    exact ⟨r, ⟨s, hs, hr⟩, hc⟩

theorem contains_ofChars {l : List Char} {c : Char} :
    (ofChars l).contains c = true ↔ c ∈ l := by
  rw [ofChars, contains_ofRanges]
  constructor
  · rintro ⟨r, hr, hc⟩
    obtain ⟨d, hd, rfl⟩ := List.mem_map.mp hr
    have hcd : c = d := Char.ext (UInt32.toNat_inj.mp (Nat.le_antisymm hc.2 hc.1))
    exact hcd ▸ hd
  · intro hc
    exact ⟨_, List.mem_map.mpr ⟨c, hc, rfl⟩, Nat.le_refl _, Nat.le_refl _⟩

theorem contains_singleton {c d : Char} : (singleton d).contains c = true ↔ c = d := by
  rw [contains_iff, singleton]
  constructor
  · intro h
    have hn : d.toNat ≤ c.toNat ∧ c.toNat ≤ d.toNat := by simpa [Covers] using h
    exact Char.ext (UInt32.toNat_inj.mp (Nat.le_antisymm hn.2 hn.1))
  · rintro rfl
    simp [Covers]

end Killfile.CharSet

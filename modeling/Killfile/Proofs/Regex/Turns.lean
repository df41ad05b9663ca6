/-! Steps between positions of a text, taken so many times. When no step leads back, few turns lead
wherever many do. -/

namespace Killfile.Regex

/-- So many steps of a relation, one after the other. -/
def Turns (R : Nat → Nat → Prop) : Nat → Nat → Nat → Prop
  | 0, i, j => i = j
  | n + 1, i, k => ∃ j, R i j ∧ Turns R n j k

theorem turns_add {R : Nat → Nat → Prop} (m n i k : Nat) :
    Turns R (m + n) i k ↔ ∃ j, Turns R m i j ∧ Turns R n j k := by
  induction m generalizing i with
  | zero => simp [Turns]
  | succ m ih =>
    rw [Nat.succ_add]
    simp only [Turns, ih]
    constructor
    · rintro ⟨j, hj, l, hm, hn⟩
      exact ⟨l, ⟨j, hj, hm⟩, hn⟩
    · rintro ⟨l, ⟨j, hj, hm⟩, hn⟩
      exact ⟨j, hj, l, hm, hn⟩

/-- Steps that may also be left out make up all smaller numbers of steps. -/
theorem turns_or_eq {R : Nat → Nat → Prop} (n i k : Nat) :
    Turns (fun i j => i = j ∨ R i j) n i k ↔ ∃ m ≤ n, Turns R m i k := by
  induction n generalizing i with
  | zero => simp [Turns]
  | succ n ih =>
    simp only [Turns, ih]
    constructor
    · rintro ⟨j, rfl | hj, m, hm, ht⟩
      · exact ⟨m, by omega, ht⟩
      · exact ⟨m + 1, by omega, j, hj, ht⟩
    · rintro ⟨m, hm, ht⟩
      cases m with
      | zero => exact ⟨i, .inl rfl, 0, by omega, ht⟩
      | succ m =>
        obtain ⟨j, hj, ht⟩ := ht
        exact ⟨j, .inr hj, m, by omega, ht⟩

/-- No step leads back, and one that leads on ends within a bound. -/
def Forward (bound : Nat) (R : Nat → Nat → Prop) : Prop :=
  ∀ i j, R i j → i ≤ j ∧ (i < j → j ≤ bound)

namespace Forward

variable {bound : Nat} {R : Nat → Nat → Prop}

theorem turns (h : Forward bound R) (n : Nat) : Forward bound (Turns R n) := by
  induction n with
  | zero =>
    rintro i j rfl
    simp
  | succ n ih =>
    rintro i k ⟨j, hj, ht⟩
    have h₁ := h i j hj
    have h₂ := ih j k ht
    omega

/-- Turns that stay where they are can be left out. -/
theorem exists_turns_le (h : Forward bound R) {n i k : Nat} (ht : Turns R n i k) :
    ∃ m ≤ k - i, Turns R m i k := by
  induction n generalizing i with
  | zero => exact ⟨0, by omega, ht⟩
  | succ n ih =>
    obtain ⟨j, hj, ht⟩ := ht
    have hij := h i j hj
    have hjk := h.turns n j k ht
    obtain ⟨m, hm, hmt⟩ := ih ht
    by_cases hstay : i = j
    · subst hstay
      exact ⟨m, hm, hmt⟩
    · exact ⟨m + 1, by omega, j, hj, hmt⟩

/-- More turns than the bound lead nowhere else. -/
theorem turns_within (h : Forward bound R) {extra : Nat} (hextra : bound ≤ extra)
    (min i k : Nat) :
    (∃ n, min ≤ n ∧ n ≤ min + extra ∧ Turns R n i k) ↔ ∃ n, min ≤ n ∧ Turns R n i k := by
  constructor
  · rintro ⟨n, hn, -, ht⟩
    exact ⟨n, hn, ht⟩
  · rintro ⟨n, hn, ht⟩
    obtain ⟨l, rfl⟩ := Nat.exists_eq_add_of_le hn
    obtain ⟨j, hmin, hl⟩ := (turns_add min l i k).mp ht
    obtain ⟨m, hm, hmt⟩ := h.exists_turns_le hl
    have hjk := h.turns l j k hl
    exact ⟨min + m, by omega, by omega, (turns_add min m i k).mpr ⟨j, hmin, hmt⟩⟩

end Forward

/-- Rounds of at least so many turns, taken together, are turns themselves. -/
theorem turns_of_rounds {R : Nat → Nat → Prop} {inner n i k : Nat}
    (h : Turns (fun i j => ∃ m, inner ≤ m ∧ Turns R m i j) n i k) :
    ∃ m, inner * n ≤ m ∧ Turns R m i k := by
  induction n generalizing i with
  | zero => exact ⟨0, by simp, h⟩
  | succ n ih =>
    obtain ⟨j, ⟨m, hm, hmt⟩, ht⟩ := h
    obtain ⟨l, hl, hlt⟩ := ih ht
    exact ⟨m + l, by rw [Nat.mul_succ]; omega, (turns_add m l i k).mpr ⟨j, hmt, hlt⟩⟩

/-- Rounds of any turns, or of at least one, add nothing to the turns. -/
theorem rounds_iff {R : Nat → Nat → Prop} {inner : Nat} (hinner : inner ≤ 1) (min i k : Nat) :
    (∃ n, min ≤ n ∧ Turns (fun i j => ∃ m, inner ≤ m ∧ Turns R m i j) n i k) ↔
      ∃ n, (if inner = 0 then 0 else min) ≤ n ∧ Turns R n i k := by
  constructor
  · rintro ⟨n, hn, ht⟩
    obtain ⟨m, hm, hmt⟩ := turns_of_rounds ht
    refine ⟨m, ?_, hmt⟩
    split
    · omega
    · have h1 : inner = 1 := by omega
      rw [h1] at hm
      omega
  · rintro ⟨n, hn, ht⟩
    by_cases h0 : inner = 0
    · -- The first rounds stay where they are, and a last one takes all turns.
      have hidle : ∀ l, Turns (fun i j => ∃ m, inner ≤ m ∧ Turns R m i j) l i i := by
        intro l
        induction l with
        | zero => rfl
        | succ l ih => exact ⟨i, ⟨0, by omega, rfl⟩, ih⟩
      exact ⟨min + 1, by omega, (turns_add min 1 i k).mpr
        ⟨i, hidle min, k, ⟨n, by omega, ht⟩, rfl⟩⟩
    · refine ⟨n, by simpa [h0] using hn, ?_⟩
      clear hn
      induction n generalizing i with
      | zero => exact ht
      | succ n ih =>
        obtain ⟨j, hj, ht⟩ := ht
        exact ⟨j, ⟨1, hinner, j, hj, rfl⟩, ih j ht⟩

end Killfile.Regex

import Killfile.Regex.Walk
import Killfile.Proofs.Regex.Turns

/-! What an expression matches, and that the search finds it. Sets of positions are moved as their
members are, and the bound on the turns of a loop leaves out no match. -/

namespace Killfile.Regex

/-- An expression matches the part of a text between two positions. -/
def Matches (text : List Char) : Regex → Nat → Nat → Prop
  | .nothing, i, j => i = j ∧ i ≤ text.length
  | .set s, i, j => j = i + 1 ∧ ∃ c, text[i]? = some c ∧ s.contains c = true
  | .condition c, i, j =>
    i = j ∧ i ≤ text.length ∧ c.holds (text.take i).getLast? text[i]? = true
  | .seq a b, i, k => ∃ j, Matches text a i j ∧ Matches text b j k
  | .alt a b, i, j => Matches text a i j ∨ Matches text b i j
  | .repetition min max a, i, j =>
    ∃ n, min ≤ n ∧ (∀ m, max = some m → n ≤ m) ∧ Turns (Matches text a) n i j
  | .capture a, i, j => Matches text a i j

theorem testBit_two_mul_add_toNat (n : Nat) (b : Bool) (i : Nat) :
    (2 * n + b.toNat).testBit i = match i with
      | 0 => b
      | i + 1 => n.testBit i := by
  cases i with
  | zero => cases b <;> simp [Nat.testBit_zero]
  | succ i =>
    have hhalf : (2 * n + b.toNat) / 2 = n := by
      cases b <;> simp
      omega
    rw [Nat.testBit_succ, hhalf]

theorem testBit_positionsOf (p : Char → Bool) (s : List Char) (i : Nat) :
    (positionsOf p s).testBit i = true ↔ ∃ c, s[i]? = some c ∧ p c = true := by
  induction s generalizing i with
  | nil => simp [positionsOf]
  | cons c s ih =>
    rw [positionsOf, testBit_two_mul_add_toNat]
    cases i with
    | zero => simp
    | succ i => simpa using ih i

theorem testBit_positionsWhere (p : Option Char → Option Char → Bool) (before : Option Char)
    (s : List Char) (i : Nat) :
    (positionsWhere p before s).testBit i = true ↔
      i ≤ s.length ∧ p ((s.take i).getLast?.or before) s[i]? = true := by
  induction s generalizing before i with
  | nil =>
    have hbit := testBit_two_mul_add_toNat 0 (p before none) i
    rw [Nat.mul_zero, Nat.zero_add] at hbit
    rw [positionsWhere, hbit]
    cases i <;> simp
  | cons c s ih =>
    rw [positionsWhere, testBit_two_mul_add_toNat]
    cases i with
    | zero => simp
    | succ i =>
      have hlast : ((c :: s).take (i + 1)).getLast?.or before =
          (s.take i).getLast?.or (some c) := by
        rw [List.take_succ_cons, List.getLast?_cons]
        cases (s.take i).getLast? <;> rfl
      rw [hlast, List.length_cons, List.getElem?_cons_succ, Nat.add_le_add_iff_right]
      exact ih (some c) i

/-- A function moves sets of positions as a relation moves their members. -/
def Sends (f : Nat → Nat) (R : Nat → Nat → Prop) : Prop :=
  ∀ s j, (f s).testBit j = true ↔ ∃ i, s.testBit i = true ∧ R i j

namespace Sends

variable {f : Nat → Nat} {R : Nat → Nat → Prop}

theorem repeated (h : Sends f R) (n : Nat) : Sends (Regex.repeated f n) (Turns R n) := by
  have fixed : ∀ n s, f s = s → Regex.repeated f n s = s := by
    intro n s hs
    cases n with
    | zero => rfl
    | succ n => simp [Regex.repeated, hs]
  induction n with
  | zero =>
    intro s j
    simp [Regex.repeated, Turns]
  | succ n ih =>
    intro s k
    have hstep : Regex.repeated f (n + 1) s = Regex.repeated f n (f s) := by
      by_cases hs : f s = s
      · simp [Regex.repeated, hs, fixed n s hs]
      · simp [Regex.repeated, hs]
    rw [hstep, ih]
    constructor
    · rintro ⟨j, hj, ht⟩
      obtain ⟨i, hi, hij⟩ := (h s j).mp hj
      exact ⟨i, hi, j, hij, ht⟩
    · rintro ⟨i, hi, j, hij, ht⟩
      exact ⟨j, (h s j).mpr ⟨i, hi, hij⟩, ht⟩

theorem reached (h : Sends f R) (n : Nat) :
    Sends (Regex.reached f n) fun i k => ∃ m ≤ n, Turns R m i k := by
  have hf : Regex.reached f n = Regex.repeated (fun s => s ||| f s) n := by
    induction n with
    | zero => rfl
    | succ n ih =>
      funext s
      rw [Regex.reached, Regex.repeated, ih]
  have hor : Sends (fun s => s ||| f s) fun i j => i = j ∨ R i j := by
    intro s j
    rw [Nat.testBit_or, Bool.or_eq_true, h]
    constructor
    · rintro (hj | ⟨i, hi, hij⟩)
      · exact ⟨j, hj, .inl rfl⟩
      · exact ⟨i, hi, .inr hij⟩
    · rintro ⟨i, hi, rfl | hij⟩
      · exact .inl hi
      · exact .inr ⟨i, hi, hij⟩
  intro s k
  simp only [hf, hor.repeated n s k, turns_or_eq]

end Sends

namespace Walk

/-- Where a walk leads from one position. -/
def Leads : Walk → Nat → Nat → Prop
  | .stay here, i, j => i = j ∧ here.testBit i = true
  | .move here, i, j => j = i + 1 ∧ here.testBit i = true
  | .seq a b, i, k => ∃ j, a.Leads i j ∧ b.Leads j k
  | .alt a b, i, j => a.Leads i j ∨ b.Leads i j
  | .loop min extra a, i, j => ∃ n, min ≤ n ∧ n ≤ min + extra ∧ Turns a.Leads n i j

theorem sends_run (w : Walk) : Sends w.run w.Leads := by
  induction w with
  | stay here =>
    intro s j
    simp only [run, Leads, Nat.testBit_and, Bool.and_eq_true]
    constructor
    · rintro ⟨hs, hh⟩
      exact ⟨j, hs, rfl, hh⟩
    · rintro ⟨i, hs, rfl, hh⟩
      exact ⟨hs, hh⟩
  | move here =>
    intro s j
    simp only [run, Leads, Nat.testBit_shiftLeft, Nat.testBit_and, Bool.and_eq_true,
      decide_eq_true_eq]
    constructor
    · rintro ⟨hj, hs, hh⟩
      exact ⟨j - 1, hs, by omega, hh⟩
    · rintro ⟨i, hs, rfl, hh⟩
      exact ⟨by omega, hs, hh⟩
  | seq a b iha ihb =>
    intro s k
    simp only [run, Leads, ihb (a.run s) k, iha s]
    constructor
    · rintro ⟨j, ⟨i, hi, hij⟩, hjk⟩
      exact ⟨i, hi, j, hij, hjk⟩
    · rintro ⟨i, hi, j, hij, hjk⟩
      exact ⟨j, ⟨i, hi, hij⟩, hjk⟩
  | alt a b iha ihb =>
    intro s j
    simp only [run, Leads, Nat.testBit_or, Bool.or_eq_true, iha s j, ihb s j]
    constructor
    · rintro (⟨i, hi, hij⟩ | ⟨i, hi, hij⟩)
      · exact ⟨i, hi, .inl hij⟩
      · exact ⟨i, hi, .inr hij⟩
    · rintro ⟨i, hi, hij | hij⟩
      · exact .inl ⟨i, hi, hij⟩
      · exact .inr ⟨i, hi, hij⟩
  | loop min extra a ih =>
    intro s k
    rw [run]
    split
    · next h0 => simp [h0]
    · rw [ih.reached extra]
      constructor
      · rintro ⟨j, hj, l, hl, hjk⟩
        obtain ⟨i, hi, hij⟩ := (ih.repeated min s j).mp hj
        exact ⟨i, hi, min + l, by omega, by omega, (turns_add min l i k).mpr ⟨j, hij, hjk⟩⟩
      · rintro ⟨i, hi, n, hn, hn', ht⟩
        obtain ⟨l, rfl⟩ := Nat.exists_eq_add_of_le hn
        obtain ⟨j, hij, hjk⟩ := (turns_add min l i k).mp ht
        exact ⟨j, (ih.repeated min s j).mpr ⟨i, hi, hij⟩, l, by omega, hjk⟩

/-- All moves of a walk begin before a bound. -/
def Within (bound : Nat) : Walk → Prop
  | .stay _ => True
  | .move here => ∀ i, here.testBit i = true → i < bound
  | .seq a b => a.Within bound ∧ b.Within bound
  | .alt a b => a.Within bound ∧ b.Within bound
  | .loop _ _ a => a.Within bound

theorem forward_leads {bound : Nat} {w : Walk} (h : w.Within bound) : Forward bound w.Leads := by
  induction w with
  | stay here =>
    rintro i j ⟨rfl, -⟩
    simp
  | move here =>
    rintro i j ⟨rfl, hi⟩
    have := h i hi
    omega
  | seq a b iha ihb =>
    rintro i k ⟨j, hij, hjk⟩
    have h₁ := iha h.1 i j hij
    have h₂ := ihb h.2 j k hjk
    omega
  | alt a b iha ihb =>
    rintro i j (hij | hij)
    · exact iha h.1 i j hij
    · exact ihb h.2 i j hij
  | loop min extra a ih =>
    rintro i j ⟨n, -, -, ht⟩
    exact (ih h).turns n i j ht

theorem within_star {bound : Nat} (length min : Nat) {w : Walk} (h : w.Within bound) :
    (star length min w).Within bound := by
  unfold star
  split
  · split
    · exact h
    · exact h
  · exact h

/-- A loop without end takes all turns, whether it was joined with an inner loop or not. -/
theorem leads_star {length : Nat} (min : Nat) {w : Walk} (h : w.Within length) (i k : Nat) :
    (star length min w).Leads i k ↔ ∃ n, min ≤ n ∧ Turns w.Leads n i k := by
  have single : (loop min (length + 1) w).Leads i k ↔ ∃ n, min ≤ n ∧ Turns w.Leads n i k :=
    (forward_leads h).turns_within (Nat.le_succ length) min i k
  unfold star
  split
  · next inner extra a =>
    split
    · next joined =>
      have ha : Forward length a.Leads := forward_leads (w := a) h
      have rounds : (loop inner extra a).Leads =
          fun i j => ∃ n, inner ≤ n ∧ Turns a.Leads n i j := by
        funext i j
        exact propext (ha.turns_within joined.1 inner i j)
      rw [rounds, rounds_iff joined.2]
      exact ha.turns_within (Nat.le_succ length) _ i k
    · exact single
  · exact single

end Walk

theorem within_onText (text : List Char) (a : Regex) : (onText text a).Within text.length := by
  induction a with
  | nothing => trivial
  | set s =>
    intro i hi
    obtain ⟨c, hc, -⟩ := (testBit_positionsOf _ text i).mp hi
    exact (List.getElem?_eq_some_iff.mp hc).1
  | condition c => trivial
  | seq a b iha ihb => exact ⟨iha, ihb⟩
  | alt a b iha ihb => exact ⟨iha, ihb⟩
  | repetition min max a ih =>
    cases max with
    | none => exact Walk.within_star text.length min ih
    | some max => exact ih
  | capture a ih => exact ih

/-- The bounds of all repetitions are in order. -/
def Ordered : Regex → Prop
  | .nothing | .set _ | .condition _ => True
  | .seq a b => a.Ordered ∧ b.Ordered
  | .alt a b => a.Ordered ∧ b.Ordered
  | .repetition min max a => (∀ m, max = some m → min ≤ m) ∧ a.Ordered
  | .capture a => a.Ordered

/-- Made ready for a text, an expression leads along its matches. -/
theorem leads_onText (text : List Char) {a : Regex} (h : a.Ordered) (i j : Nat) :
    (onText text a).Leads i j ↔ Matches text a i j := by
  induction a generalizing i j with
  | nothing => simp [onText, Walk.Leads, Matches, testBit_positionsWhere]
  | set s => simp [onText, Walk.Leads, Matches, testBit_positionsOf]
  | condition c => simp [onText, Walk.Leads, Matches, testBit_positionsWhere]
  | seq a b iha ihb => simp only [onText, Walk.Leads, Matches, iha h.1, ihb h.2]
  | alt a b iha ihb => simp only [onText, Walk.Leads, Matches, iha h.1, ihb h.2]
  | repetition min max a ih =>
    have ha : (onText text a).Leads = Matches text a := by
      funext i j
      exact propext (ih h.2 i j)
    cases max with
    | none =>
      simp only [onText, Walk.leads_star min (within_onText text a), ha, Matches]
      simp
    | some max =>
      have hmax : min + (max - min) = max := by
        have := h.1 max rfl
        omega
      simp only [onText, Walk.Leads, ha, Matches, hmax]
      simp
  | capture a ih => exact ih h i j

/-- The search finds a match wherever it begins. -/
theorem search_iff {a : Regex} (h : a.Ordered) (text : List Char) :
    a.search text = true ↔ ∃ i j, i ≤ text.length ∧ Matches text a i j := by
  have hall : ∀ i, (Nat.pow 2 (text.length + 1) - 1).testBit i = true ↔ i ≤ text.length := by
    intro i
    rw [Nat.pow_eq, Nat.testBit_two_pow_sub_one, decide_eq_true_eq, Nat.lt_succ_iff]
  have hrun := Walk.sends_run (onText text a) (Nat.pow 2 (text.length + 1) - 1)
  simp only [hall, leads_onText text h] at hrun
  rw [search, bne_iff_ne]
  constructor
  · intro hne
    obtain ⟨j, hj⟩ := Nat.exists_testBit_of_ne_zero hne
    obtain ⟨i, hi, hij⟩ := (hrun j).mp hj
    exact ⟨i, j, hi, hij⟩
  · rintro ⟨i, j, hi, hij⟩ h0
    have hj := (hrun j).mpr ⟨i, hi, hij⟩
    rw [h0, Nat.zero_testBit] at hj
    exact Bool.false_ne_true hj

end Killfile.Regex

import Killfile.Text.Blank

/-! Pieces of a text: the parts without separators that reach from one separator, or the start, to
the next, or the end. -/

namespace Killfile.Text

/-- A part of a text that holds no separator and is bordered by separators or the ends. -/
def IsPiece (sep : Char) (s p : List Char) : Prop :=
  sep ∉ p ∧ ∃ x y, s = x ++ p ++ y ∧ (x = [] ∨ x.getLast? = some sep) ∧
    (y = [] ∨ y.head? = some sep)

theorem pieces_of_not_mem {sep : Char} {s : List Char} (h : sep ∉ s) : pieces sep s = [s] := by
  induction s with
  | nil => rfl
  | cons c s ih =>
    rw [List.mem_cons, not_or] at h
    rw [pieces, if_neg (Ne.symm h.1), ih h.2]

/-- A separator parts the pieces on its two sides. -/
theorem pieces_append_cons (sep : Char) (x r : List Char) :
    pieces sep (x ++ sep :: r) = pieces sep x ++ pieces sep r := by
  induction x with
  | nil => simp [pieces]
  | cons c x ih =>
    rw [List.cons_append, pieces, pieces]
    split
    · rw [ih, List.cons_append]
    · rw [ih]
      cases hx : pieces sep x with
      | nil => exact absurd hx (pieces_ne_nil sep x)
      | cons p ps => rfl

theorem mem_pieces_iff {sep : Char} {s p : List Char} : p ∈ pieces sep s ↔ IsPiece sep s p := by
  constructor
  · intro hp
    induction hn : s.length using Nat.strongRecOn generalizing s with
    | ind n ih =>
      by_cases hsep : sep ∈ s
      · obtain ⟨q, r, rfl, hq⟩ := List.eq_append_cons_of_mem hsep
        rw [pieces_append_cons, pieces_of_not_mem hq, List.singleton_append, List.mem_cons] at hp
        rcases hp with rfl | hp
        · exact ⟨hq, [], sep :: r, by simp, .inl rfl, .inr rfl⟩
        · have hlt : r.length < n := by
            rw [← hn, List.length_append, List.length_cons]
            omega
          obtain ⟨hps, x, y, rfl, hx, hy⟩ := ih r.length hlt hp rfl
          refine ⟨hps, q ++ sep :: x, y, by simp, .inr ?_, hy⟩
          rcases hx with rfl | hx
          · simp
          · simp [List.getLast?_cons, hx]
      · rw [pieces_of_not_mem hsep, List.mem_singleton] at hp
        subst hp
        exact ⟨hsep, [], [], by simp, .inl rfl, .inl rfl⟩
  · rintro ⟨hp, x, y, rfl, hx, hy⟩
    -- The part up to the border on the right begins with the piece.
    have hpy : p ∈ pieces sep (p ++ y) := by
      rcases hy with rfl | hy
      · simp [pieces_of_not_mem hp]
      · obtain ⟨r, rfl⟩ := List.head?_eq_some_iff.mp hy
        simp [pieces_append_cons, pieces_of_not_mem hp]
    rw [List.append_assoc]
    rcases hx with rfl | hx
    · exact hpy
    · obtain ⟨q, rfl⟩ := List.getLast?_eq_some_iff.mp hx
      rw [List.append_assoc, List.singleton_append, pieces_append_cons]
      exact List.mem_append_right _ hpy

end Killfile.Text

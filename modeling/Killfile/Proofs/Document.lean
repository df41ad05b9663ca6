import Mathlib.Data.List.Forall2
import Killfile.Document
import Killfile.Proofs.Pieces

/-! Killfiles line by line. A line feed cuts a text in two that are read apart from each other, a
killfile without rejected lines is one rule for each line that is not blank, and in any killfile
rules and rejected lines are listed in the order of the lines. -/

namespace Killfile.Document

open Text (isBlank pieces)

theorem dropReturn_of_getLast?_ne {l : List Char} (h : l.getLast? ≠ some '\r') :
    dropReturn l = l := if_neg h

theorem mem_of_mem_dropReturn {l : List Char} {c : Char} (h : c ∈ dropReturn l) : c ∈ l := by
  unfold dropReturn at h
  split at h
  · exact List.dropLast_subset l h
  · exact h

@[simp] theorem lines_nil : lines [] = [] := by simp [lines, pieces]

/-- A line feed ends the line before it. -/
theorem lines_append_cons {l : List Char} (h : '\n' ∉ l) (text : List Char) :
    lines (l ++ '\n' :: text) = dropReturn l :: lines text := by
  obtain ⟨p, ps, hps⟩ := List.exists_cons_of_ne_nil (Text.pieces_ne_nil '\n' text)
  have hpieces : pieces '\n' (l ++ '\n' :: text) = l :: p :: ps := by
    rw [Text.pieces_append_cons, Text.pieces_of_not_mem h, hps, List.singleton_append]
  simp [lines, hpieces, hps]

theorem not_mem_of_mem_lines {text l : List Char} (h : l ∈ lines text) : '\n' ∉ l := by
  have piece : ∀ p ∈ pieces '\n' text, '\n' ∉ p := fun p hp => (Text.mem_pieces_iff.mp hp).1
  rw [lines, List.mem_append, List.mem_map] at h
  rcases h with ⟨p, hp, rfl⟩ | h
  · exact fun hn => piece p (List.dropLast_subset _ hp) (mem_of_mem_dropReturn hn)
  · rw [Option.mem_toList, Option.filter_eq_some_iff] at h
    exact piece l (List.mem_of_getLast? h.1)

/-- Lines that are written with a line feed behind each are read back. -/
theorem lines_flatMap {ls : List (List Char)} (hfeed : ∀ l ∈ ls, '\n' ∉ l)
    (hreturn : ∀ l ∈ ls, l.getLast? ≠ some '\r') : lines (ls.flatMap (· ++ ['\n'])) = ls := by
  induction ls with
  | nil => exact lines_nil
  | cons l ls ih =>
    rw [List.forall_mem_cons] at hfeed hreturn
    rw [List.flatMap_cons, List.append_assoc, List.singleton_append, lines_append_cons hfeed.1,
      dropReturn_of_getLast?_ne hreturn.1, ih hfeed.2 hreturn.2]

theorem readLine_of_blank {l : List Char} (h : l.all isBlank = true) : readLine l = none := if_pos h

theorem readLine_of_solid {l : List Char} (h : l.all isBlank = false) :
    readLine l = some (Rule.parse (.ofList l)) :=
  if_neg (ne_true_of_eq_false h)

theorem rule?_eq_some_iff {l : List Char} {n : Nat} {r : Rule} :
    rule? (l, n) = some r ↔ l.all isBlank = false ∧ Rule.parse (.ofList l) = .ok r := by
  cases hblank : l.all isBlank with
  | true => simp [rule?, readLine_of_blank hblank]
  | false =>
    cases hparse : Rule.parse (.ofList l) <;> simp [rule?, readLine_of_solid hblank, hparse]

/-- A killfile in which all lines but the blank ones are rules, in order, and none is rejected. -/
theorem read_eq_iff {text : String} {rules : List Rule} :
    read text = ⟨rules, []⟩ ↔
      List.Forall₂ (fun l r => Rule.parse (.ofList l) = .ok r)
        ((lines text.toList).filter fun l => !l.all isBlank) rules := by
  suffices h : ∀ (ls : List (List Char)) (n : Nat) (rules : List Rule),
      ((ls.zipIdx n).filterMap rule? = rules ∧ (ls.zipIdx n).filterMap rejection? = []) ↔
        List.Forall₂ (fun l r => Rule.parse (.ofList l) = .ok r)
          (ls.filter fun l => !l.all isBlank) rules by
    rw [← h _ 1, read, mk.injEq]
  intro ls
  induction ls with
  | nil => simp [eq_comm]
  | cons l ls ih =>
    intro n rules
    rw [List.zipIdx_cons, List.filterMap_cons, List.filterMap_cons]
    cases hblank : l.all isBlank with
    | true =>
      rw [List.filter_cons_of_neg (by rw [hblank]; exact Bool.false_ne_true), ← ih (n + 1) rules]
      simp only [rule?, rejection?, readLine_of_blank hblank]
    | false =>
      rw [List.filter_cons_of_pos (by rw [hblank]; rfl)]
      cases hparse : Rule.parse (.ofList l) with
      | error e => simp [rejection?, readLine_of_solid hblank, hparse, List.forall₂_cons_left_iff]
      | ok r =>
        simp only [rule?, rejection?, readLine_of_solid hblank, hparse]
        cases rules with
        | nil => simp
        | cons q rules => simp [hparse, ← ih (n + 1) rules, and_assoc]

theorem exists_line_of_mem_rules {text : String} {r : Rule} (h : r ∈ (read text).rules) :
    ∃ l ∈ lines text.toList, Rule.parse (.ofList l) = .ok r := by
  obtain ⟨⟨l, n⟩, hl, hr⟩ := List.mem_filterMap.mp h
  exact ⟨l, List.fst_mem_of_mem_zipIdx hl, (rule?_eq_some_iff.mp hr).2⟩

/-- What lines come to, in their order: the rules that can be read, and under its number each line
that is neither a rule nor blank. -/
structure Lists (ls : List (List Char)) (d : Document) : Prop where
  rules : d.rules = ls.filterMap fun l => (readLine l).bind Except.toOption
  ordered : d.rejected.Pairwise (·.lineNumber < ·.lineNumber)
  rejected : ∀ n line e, ⟨n, line, e⟩ ∈ d.rejected ↔
    ∃ i l, n = i + 1 ∧ ls[i]? = some l ∧ line = .ofList l ∧ readLine l = some (.error e)

theorem rule?_eq (l : List Char) (n : Nat) : rule? (l, n) = (readLine l).bind Except.toOption := by
  rw [rule?]
  rcases readLine l with - | e | r <;> rfl

theorem rejection?_eq_some_iff {l : List Char} {n : Nat} {r : Rejection} :
    rejection? (l, n) = some r ↔
      r.lineNumber = n ∧ r.line = .ofList l ∧ readLine l = some (.error r.error) := by
  obtain ⟨k, line, e⟩ := r
  rw [rejection?]
  rcases h : readLine l with - | e' | q
  · simp
  · simp [eq_comm]
  · simp

theorem pairwise_zipIdx (ls : List (List Char)) (n : Nat) :
    (ls.zipIdx n).Pairwise fun p q => p.2 < q.2 := by
  have hsnd : ((ls.zipIdx n).map Prod.snd).Pairwise (· < ·) := by
    rw [List.zipIdx_map_snd]
    exact List.pairwise_lt_range'
  exact List.pairwise_map.mp hsnd

theorem lists_read (text : String) : Lists (lines text.toList) (read text) where
  rules := by
    suffices h : ∀ (ls : List (List Char)) (n : Nat), (ls.zipIdx n).filterMap rule? =
        ls.filterMap fun l => (readLine l).bind Except.toOption from h _ 1
    intro ls
    induction ls with
    | nil => exact fun _ => rfl
    | cons l ls ih =>
      intro n
      rw [List.zipIdx_cons, List.filterMap_cons, List.filterMap_cons, rule?_eq, ih]
  ordered := by
    refine (pairwise_zipIdx (lines text.toList) 1).filterMap rejection? fun p q hlt r hr s hs => ?_
    rw [(rejection?_eq_some_iff.mp hr).1, (rejection?_eq_some_iff.mp hs).1]
    exact hlt
  rejected n line e := by
    rw [read, List.mem_filterMap]
    constructor
    · rintro ⟨⟨l, k⟩, hl, hr⟩
      obtain ⟨rfl, rfl, he⟩ := rejection?_eq_some_iff.mp hr
      obtain ⟨hk, hl⟩ := List.mk_mem_zipIdx_iff_le_and_getElem?_sub.mp hl
      exact ⟨n - 1, l, by simp only at hk ⊢; omega, hl, rfl, he⟩
    · rintro ⟨i, l, rfl, hl, rfl, he⟩
      refine ⟨(l, i + 1), ?_, rejection?_eq_some_iff.mpr ⟨rfl, rfl, he⟩⟩
      rw [List.mk_mem_zipIdx_iff_le_and_getElem?_sub]
      exact ⟨by omega, by simpa using hl⟩

end Killfile.Document

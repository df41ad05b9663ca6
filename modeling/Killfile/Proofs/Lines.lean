import Killfile.Proofs.Document

/-! The lines of a text. A line ends with a line feed, or with a carriage return and a line feed, and
what stands after the last end is one more line if there is anything. Facts about lines are proved by
going from one line feed to the next. -/

namespace Killfile.Document

/-- A text is made of these lines. Before a line feed a carriage return belongs to the end and never
to the line. After the last line feed it is left where it is. -/
inductive Lined : List Char → List (List Char) → Prop
  | none : Lined [] []
  | last {l : List Char} (nonempty : l ≠ []) (unbroken : '\n' ∉ l) : Lined l [l]
  | feed {l text : List Char} {ls : List (List Char)} (unbroken : '\n' ∉ l)
      (bare : l.getLast? ≠ some '\r') (rest : Lined text ls) : Lined (l ++ '\n' :: text) (l :: ls)
  | returnFeed {l text : List Char} {ls : List (List Char)} (unbroken : '\n' ∉ l)
      (rest : Lined text ls) : Lined (l ++ '\r' :: '\n' :: text) (l :: ls)

/-- What holds of texts without a line feed, and of a text when it holds of what follows its first
line feed, holds of all texts. -/
theorem feed_induction {motive : List Char → Prop} (unbroken : ∀ l, '\n' ∉ l → motive l)
    (feed : ∀ l text, '\n' ∉ l → motive text → motive (l ++ '\n' :: text)) (text : List Char) :
    motive text := by
  induction hn : text.length using Nat.strongRecOn generalizing text with
  | ind n ih =>
    by_cases hfeed : '\n' ∈ text
    · obtain ⟨l, rest, rfl, hl⟩ := List.eq_append_cons_of_mem hfeed
      have hlt : rest.length < n := by
        rw [← hn, List.length_append, List.length_cons]
        omega
      exact feed l rest hl (ih rest.length hlt rest rfl)
    · exact unbroken text hfeed

@[simp] theorem dropReturn_append_return (l : List Char) : dropReturn (l ++ ['\r']) = l := by
  simp [dropReturn]

theorem lines_of_unbroken {l : List Char} (hne : l ≠ []) (h : '\n' ∉ l) : lines l = [l] := by
  simp [lines, Text.pieces_of_not_mem h, hne]

theorem Lined.lines_eq {text : List Char} {ls : List (List Char)} (h : Lined text ls) :
    lines text = ls := by
  induction h with
  | none => exact lines_nil
  | last nonempty unbroken => exact lines_of_unbroken nonempty unbroken
  | feed unbroken bare rest ih => rw [lines_append_cons unbroken, dropReturn_of_getLast?_ne bare, ih]
  | @returnFeed l text ls unbroken rest ih =>
    have hl : '\n' ∉ l ++ ['\r'] := by simpa using unbroken
    have hcut : l ++ '\r' :: '\n' :: text = (l ++ ['\r']) ++ '\n' :: text := by simp
    rw [hcut, lines_append_cons hl, dropReturn_append_return, ih]

theorem lined_lines (text : List Char) : Lined text (lines text) := by
  induction text using feed_induction with
  | unbroken l hl =>
    by_cases hne : l = []
    · rw [hne, lines_nil]
      exact .none
    · rw [lines_of_unbroken hne hl]
      exact .last hne hl
  | feed l text hl ih =>
    rw [lines_append_cons hl]
    by_cases hreturn : l.getLast? = some '\r'
    · obtain ⟨l', rfl⟩ := List.getLast?_eq_some_iff.mp hreturn
      have hl' : '\n' ∉ l' := by
        intro hn
        exact hl (List.mem_append_left _ hn)
      rw [dropReturn_append_return, List.append_assoc]
      exact .returnFeed hl' ih
    · rw [dropReturn_of_getLast?_ne hreturn]
      exact .feed hl hreturn ih

/-- Every text is made of its lines and of no others. -/
theorem lined_iff {text : List Char} {ls : List (List Char)} : Lined text ls ↔ ls = lines text := by
  constructor
  · intro h
    exact h.lines_eq.symm
  · rintro rfl
    exact lined_lines text

/-- A line feed between two texts leaves the lines of the second as they are. -/
theorem lines_append_feed (a b : List Char) :
    lines (a ++ '\n' :: b) = lines (a ++ ['\n']) ++ lines b := by
  induction a using feed_induction with
  | unbroken l hl => rw [lines_append_cons hl, lines_append_cons hl, lines_nil, List.singleton_append]
  | feed l text hl ih =>
    rw [List.append_assoc, List.cons_append, lines_append_cons hl, ih, List.append_assoc,
      List.cons_append, lines_append_cons hl, List.cons_append]

/-- A text that ends with a line feed has a line for each. -/
theorem length_lines_feed (a : List Char) : (lines (a ++ ['\n'])).length = a.count '\n' + 1 := by
  induction a using feed_induction with
  | unbroken l hl => rw [lines_append_cons hl, lines_nil, List.count_eq_zero.mpr hl, List.length_singleton]
  | feed l text hl ih =>
    rw [List.append_assoc, List.cons_append, lines_append_cons hl, List.length_cons, ih,
      List.count_append, List.count_cons_self, List.count_eq_zero.mpr hl, Nat.zero_add]

end Killfile.Document

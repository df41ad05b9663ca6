import Killfile.Task
import Killfile.Proofs.Document
import Killfile.Proofs.Line

/-! Rules written out as lines of a killfile. The command is written bare and the selector in double
quotes, so a rule that was read is read back from its own line exactly when it can be written in this
way: no blank in the command and no double quote in the selector. Of any five texts the grammar asks
more, but nothing of the pattern except that there is one. -/

namespace Killfile

open Text (isBlank isWordChar trimStart)

namespace Rule

/-- The texts of a rule that its line gives back: a command that stays one word when it is bare, and a
selector that no quote ends before its time. -/
def Writable (command selector : List Char) : Prop :=
  (∀ c ∈ command, isBlank c = false) ∧ '"' ∉ selector

theorem Written.ne_nil {x f : List Char} (h : Written x f) : x ≠ [] := by
  cases h with
  | quoted nonempty unquoted => exact nonempty
  | bare nonempty unbroken unquoted => exact nonempty

theorem Written.subset {x f : List Char} (h : Written x f) : x ⊆ f := by
  cases h with
  | quoted nonempty unquoted => exact fun c hc => by simp [hc]
  | bare nonempty unbroken unquoted => exact List.Subset.refl x

/-- No text of a field begins with a quote, whichever way it is written. -/
theorem Written.head?_ne_quote {x f : List Char} (h : Written x f) : x.head? ≠ some '"' := by
  cases h with
  | quoted nonempty unquoted => exact fun hx => unquoted (List.mem_of_head? hx)
  | bare nonempty unbroken unquoted => exact unquoted

theorem Written.length_le {x f : List Char} (h : Written x f) : x.length ≤ f.length := by
  cases h with
  | quoted nonempty unquoted => simp; omega
  | bare nonempty unbroken unquoted => exact Nat.le_refl _

theorem delimiter_eq (p : List Char) : delimiter p = '"' ∨ delimiter p = '\x60' := by
  unfold delimiter
  split
  · exact .inr rfl
  · exact .inl rfl

/-- The line that is written for five texts. -/
def lineOf (command selector attr operator pattern : List Char) : List Char :=
  command ++ " \"".toList ++ selector ++ "\" ".toList ++ clause attr operator pattern

theorem toList_render_ofFields (c u a o p : String) :
    (ofFields c u a o p).render.toList = lineOf c.toList u.toList a.toList o.toList p.toList := by
  simp [render, ofFields, lineOf]

variable {line c u a o p : List Char}

/-- The line that is written for five texts is made of them, with the command bare and the selector
in quotes. -/
theorem isLine_lineOf (hc : c ≠ [] ∧ (∀ x ∈ c, isBlank x = false) ∧ c.head? ≠ some '"')
    (hu : u ≠ [] ∧ '"' ∉ u) (ha : a ≠ [] ∧ ∀ x ∈ a, isWordChar x = true)
    (ho : o ≠ [] ∧ ∀ x ∈ o, isBlank x = false) (hp : p ≠ []) : IsLine (lineOf c u a o p) c u a o p := by
  refine ⟨ha.1, ha.2, ho.1, ho.2, hp, [], c, [' '], '"' :: u ++ ['"'], [' '], delimiter p, [], ?_⟩
  have blank : Blanks [' '] ∧ [' '] ≠ [] := ⟨by simp [Blanks]; decide, by simp⟩
  refine ⟨by simp [Blanks], .bare hc.1 hc.2.1 hc.2.2, blank, .quoted hu.1 hu.2, blank,
    delimiter_eq p, by simp, ?_⟩
  simp [lineOf, clause]

theorem IsLine.lineOf_of_writable (h : IsLine line c u a o p) (hw : Writable c u) :
    IsLine (lineOf c u a o p) c u a o p := by
  obtain ⟨_, _, _, _, _, _, _, -, hc, -, hu, -⟩ := h.written
  exact isLine_lineOf ⟨hc.ne_nil, hw.1, hc.head?_ne_quote⟩ ⟨hu.ne_nil, hw.2⟩
    ⟨h.attr_ne_nil, h.attr_word⟩ ⟨h.operator_ne_nil, h.operator_unbroken⟩ h.pattern_ne_nil

/-- A line on which the command is bare and the selector quoted has no other way to be made of them:
a quoted command would need more room than there is, and a bare selector would begin with a quote. -/
theorem IsLine.writable_of_lineOf (h : IsLine (lineOf c u a o p) c u a o p) : Writable c u := by
  obtain ⟨w₀, f₁, w₁, f₂, w₂, d, tail, hw₀, hf₁, hw₁, hf₂, hw₂, hd, htail, hline⟩ := h.written
  cases hf₁ with
  | quoted nonempty unquoted =>
    have hlength := congrArg List.length hline
    have hu := hf₂.length_le
    have h₁ := List.length_pos_of_ne_nil hw₁.2
    have h₂ := List.length_pos_of_ne_nil hw₂.2
    simp only [lineOf, clause, String.reduceToList, List.append_assoc, List.cons_append,
      List.nil_append, List.length_append, List.length_cons, List.length_nil] at hlength
    obtain rfl : w₀ = [] := List.eq_nil_of_length_eq_zero (by omega)
    -- So the line begins with a quote, but it begins with the command.
    obtain ⟨x, c, rfl⟩ := List.exists_cons_of_ne_nil nonempty
    have hx : x = '"' := by simpa [lineOf] using congrArg List.head? hline
    simp [hx] at unquoted
  | bare nonempty unbroken unquoted =>
    have hc : Written c c := .bare nonempty unbroken unquoted
    refine ⟨unbroken, ?_⟩
    cases hf₂ with
    | quoted nonempty unquoted => exact unquoted
    | bare nonempty unbroken unquoted =>
      have hu : Written u u := .bare nonempty unbroken unquoted
      let q := u ++ (w₂ ++ (d :: a ++ ' ' :: o ++ ' ' :: p ++ d :: tail))
      let q' := '"' :: (u ++ "\" ".toList ++ clause a o p)
      have h₁ : trimStart (lineOf c u a o p) = c ++ (w₁ ++ q) :=
        trimStart_iff.mpr ⟨w₀, hw₀, by simpa [q] using hline, hc.startsSolid _⟩
      have h₂ : trimStart (lineOf c u a o p) = c ++ ([' '] ++ q') :=
        trimStart_iff.mpr ⟨[], by simp [Blanks], by simp [lineOf, q'], hc.startsSolid _⟩
      have hrest : w₁ ++ q = [' '] ++ q' := List.append_cancel_left (h₁.symm.trans h₂)
      have hq : trimStart (w₁ ++ q) = q := trimStart_iff.mpr ⟨w₁, hw₁.1, rfl, hu.startsSolid _⟩
      have hq' : trimStart ([' '] ++ q') = q' := rfl
      have hqq : q = q' := by rw [← hq, hrest, hq']
      obtain ⟨x, u, rfl⟩ := List.exists_cons_of_ne_nil nonempty
      simp only [q, q', List.cons_append, List.cons.injEq] at hqq
      exact absurd (congrArg some hqq.1) unquoted

theorem IsLine.lineOf_iff (h : IsLine line c u a o p) :
    IsLine (lineOf c u a o p) c u a o p ↔ Writable c u :=
  ⟨writable_of_lineOf, h.lineOf_of_writable⟩

/-- Writing out a line brings in blanks and delimiters and no other characters. -/
theorem IsLine.mem_of_mem_lineOf (h : IsLine line c u a o p) {x : Char}
    (hx : x ∈ lineOf c u a o p) : x ∈ line ∨ x ∈ [' ', '"', '\x60'] := by
  obtain ⟨w₀, f₁, w₁, f₂, w₂, d, tail, -, hf₁, -, hf₂, -, -, -, rfl⟩ := h.written
  have hc : x ∈ c → x ∈ f₁ := fun h => hf₁.subset h
  have hu : x ∈ u → x ∈ f₂ := fun h => hf₂.subset h
  have hd : x = delimiter p → x = '"' ∨ x = '\x60' := fun hx => hx ▸ delimiter_eq p
  simp only [lineOf, clause, String.reduceToList, List.append_assoc, List.cons_append,
    List.nil_append, List.mem_append, List.mem_cons, List.not_mem_nil, or_false] at hx ⊢
  grind

theorem getLast?_lineOf (c u a o p : List Char) :
    (lineOf c u a o p).getLast? = some (delimiter p) := by
  simp [lineOf, clause, List.getLast?_append, List.getLast?_cons]

theorem all_isBlank_lineOf (c u a o p : List Char) : (lineOf c u a o p).all isBlank = false := by
  refine List.all_eq_false.mpr ⟨'"', by simp [lineOf], by decide⟩

theorem exists_isLine_of_parse_eq_ok {line : String} {r : Rule} (h : parse line = .ok r) :
    ∃ c u a o p : String, r = ofFields c u a o p ∧
      IsLine line.toList c.toList u.toList a.toList o.toList p.toList := by
  cases hfields : fields line.toList with
  | none => simp [parse, hfields] at h
  | some t =>
    obtain ⟨c, u, a, o, p⟩ := t
    obtain rfl : ofFields (.ofList c) (.ofList u) (.ofList a) (.ofList o) (.ofList p) = r := by
      simpa [parse, hfields] using h
    exact ⟨_, _, _, _, _, rfl, by simpa using fields_iff.mp hfields⟩

/-- A rule that was read from some line is read back from its own. -/
theorem parse_render_iff {line : String} {r : Rule} (h : parse line = .ok r) :
    parse r.render = .ok r ↔ Writable r.command.toList r.selector.toList := by
  obtain ⟨c, u, a, o, p, rfl, hline⟩ := exists_isLine_of_parse_eq_ok h
  rw [parse_eq_ok_iff, toList_render_ofFields]
  exact hline.lineOf_iff

/-- A rule is read back from its own line exactly when its command is one word that no quote begins,
its selector holds no quote, its attribute is a word of the grammar, its operator holds no blank, and
none of its texts is empty. Nothing else is asked of the pattern, which may hold both delimiters. -/
theorem parse_render_exact (c u a o p : String) :
    parse (ofFields c u a o p).render = .ok (ofFields c u a o p) ↔
      (c ≠ "" ∧ (∀ x ∈ c.toList, isBlank x = false) ∧ c.toList.head? ≠ some '"') ∧
      (u ≠ "" ∧ '"' ∉ u.toList) ∧ (a ≠ "" ∧ ∀ x ∈ a.toList, isWordChar x = true) ∧
      (o ≠ "" ∧ ∀ x ∈ o.toList, isBlank x = false) ∧ p ≠ "" := by
  simp only [parse_eq_ok_iff, toList_render_ofFields, ne_eq, ← String.toList_eq_nil_iff]
  constructor
  · intro h
    obtain ⟨hunbroken, hunquoted⟩ := h.writable_of_lineOf
    obtain ⟨_, _, _, _, _, _, _, -, hc, -, hu, -⟩ := h.written
    exact ⟨⟨hc.ne_nil, hunbroken, hc.head?_ne_quote⟩, ⟨hu.ne_nil, hunquoted⟩,
      ⟨h.attr_ne_nil, h.attr_word⟩, ⟨h.operator_ne_nil, h.operator_unbroken⟩, h.pattern_ne_nil⟩
  · rintro ⟨hc, hu, ha, ho, hp⟩
    exact isLine_lineOf hc hu ha ho hp

/-- A pattern with both delimiters comes back from a clause in backticks. -/
example : parse (ofFields "cmd" "*" "title" "=~" "say \"hi\" \x60now\x60").render =
    .ok (ofFields "cmd" "*" "title" "=~" "say \"hi\" \x60now\x60") := by
  decide +kernel

end Rule

namespace Document

/-- A rule of a killfile has the five texts of some line, which holds no line feed. -/
theorem exists_isLine_of_mem_rules {text : String} {r : Rule} (h : r ∈ (read text).rules) :
    ∃ l c u a o p, '\n' ∉ l ∧ Rule.IsLine l c u a o p ∧
      r.render.toList = Rule.lineOf c u a o p := by
  obtain ⟨l, hl, hparse⟩ := exists_line_of_mem_rules h
  obtain ⟨c, u, a, o, p, rfl, hline⟩ := Rule.exists_isLine_of_parse_eq_ok hparse
  rw [String.toList_ofList] at hline
  exact ⟨l, _, _, _, _, _, not_mem_of_mem_lines hl, hline, Rule.toList_render_ofFields c u a o p⟩

/-- A rule of a killfile is written out on one line. -/
theorem not_mem_render {text : String} {r : Rule} (h : r ∈ (read text).rules) :
    '\n' ∉ r.render.toList := by
  intro hn
  obtain ⟨l, c, u, a, o, p, hl, hline, hrender⟩ := exists_isLine_of_mem_rules h
  rw [hrender] at hn
  rcases hline.mem_of_mem_lineOf hn with hn | hn
  · exact hl hn
  · exact absurd hn (by decide)

/-- The rules of a killfile are written out on as many lines. -/
theorem lines_join_ruleLine (text : String) :
    lines (String.join ((read text).rules.map Task.ruleLine)).toList =
      (read text).rules.map (·.render.toList) := by
  have hjoin : (String.join ((read text).rules.map Task.ruleLine)).toList =
      ((read text).rules.map (·.render.toList)).flatMap (· ++ ['\n']) := by
    simp [String.toList_join, List.flatMap_map, Task.ruleLine]
  rw [hjoin, lines_flatMap]
  · simp only [List.forall_mem_map]
    exact fun r hr => not_mem_render hr
  · simp only [List.forall_mem_map]
    intro r hr hreturn
    obtain ⟨l, c, u, a, o, p, -, -, hrender⟩ := exists_isLine_of_mem_rules hr
    rw [hrender, Rule.getLast?_lineOf, Option.some.injEq] at hreturn
    rcases Rule.delimiter_eq p with hd | hd
    · exact absurd (hd.symm.trans hreturn) (by decide)
    · exact absurd (hd.symm.trans hreturn) (by decide)

/-- The rules of a killfile, each written out on a line of its own, are read back as they are and
nothing is rejected, exactly when no command among them holds a blank and no selector a double quote. -/
theorem read_join_ruleLine_iff (text : String) :
    read (String.join ((read text).rules.map Task.ruleLine)) = ⟨(read text).rules, []⟩ ↔
      ∀ r ∈ (read text).rules, (∀ c ∈ r.command.toList, isBlank c = false) ∧
        '"' ∉ r.selector.toList := by
  have hsolid : ∀ l ∈ (read text).rules.map (·.render.toList), (!l.all isBlank) = true := by
    simp only [List.forall_mem_map]
    intro r hr
    obtain ⟨l, c, u, a, o, p, -, -, hrender⟩ := exists_isLine_of_mem_rules hr
    rw [hrender, Rule.all_isBlank_lineOf]
    rfl
  rw [read_eq_iff, lines_join_ruleLine, List.filter_eq_self.mpr hsolid, List.forall₂_map_left_iff,
    List.forall₂_same]
  refine forall₂_congr fun r hr => ?_
  obtain ⟨l, -, hparse⟩ := exists_line_of_mem_rules hr
  rw [String.ofList_toList, Rule.parse_render_iff hparse]
  rfl

/-- A killfile with a command of two words. -/
def quotedCommand : String := "\"ignore article\" \"News Tech\" \"title # Moon\""

/-- Written out bare, the two words are a command and a selector, and what follows becomes the clause. -/
theorem read_join_ruleLine_quotedCommand :
    (read quotedCommand).rules = [.ofFields "ignore article" "News Tech" "title" "#" "Moon"] ∧
    read (String.join ((read quotedCommand).rules.map Task.ruleLine)) =
      ⟨[.ofFields "ignore" "article" "News" "Tech\"" "\"title # Moon"], []⟩ ∧
    read (String.join ((read quotedCommand).rules.map Task.ruleLine)) ≠
      ⟨(read quotedCommand).rules, []⟩ := by
  decide +kernel

end Document

end Killfile

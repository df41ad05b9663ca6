import Killfile.Rule.Line

/-! The grammar of lines. Reading a line commits at the first quote, the first blank and the last
delimiter, and still it accepts exactly the lines of the grammar, each with the only texts that it
can be made of. -/

namespace Killfile

open Text (isBlank isWordChar trimStart)

/-- A text is cut in two where a property ends. -/
theorem span_iff {p : Char → Bool} {s x y : List Char} :
    s.takeWhile p = x ∧ s.dropWhile p = y ↔
      s = x ++ y ∧ (∀ c ∈ x, p c = true) ∧ ∀ c ∈ y.head?, p c = false := by
  constructor
  · rintro ⟨rfl, rfl⟩
    refine ⟨List.takeWhile_append_dropWhile.symm, fun c hc => ?_, fun c hc => ?_⟩
    · exact (List.all_eq_true.mp List.all_takeWhile) c hc
    · have hne := List.head?_dropWhile_not p s
      rw [Option.mem_def.mp hc] at hne
      exact hne
  · rintro ⟨rfl, hx, hy⟩
    rw [List.takeWhile_append_of_pos hx, List.dropWhile_append_of_pos hx]
    cases y with
    | nil => simp
    | cons c y => simp [hy c rfl]

namespace Rule

/-- The ways to write a field: in double quotes, or bare. -/
inductive Written : List Char → List Char → Prop
  | quoted {x : List Char} (nonempty : x ≠ []) (unquoted : '"' ∉ x) : Written x ('"' :: x ++ ['"'])
  | bare {x : List Char} (nonempty : x ≠ []) (unbroken : ∀ c ∈ x, isBlank c = false)
    (unquoted : x.head? ≠ some '"') : Written x x

/-- Blanks and nothing else. -/
def Blanks (w : List Char) : Prop := ∀ c ∈ w, isBlank c = true

/-- A line made of five texts: blanks, the command, blanks, the selector, blanks, and the clause
between its delimiters. What follows the clause holds no delimiter of its kind. -/
structure IsLine (line command selector attr operator pattern : List Char) : Prop where
  attr_ne_nil : attr ≠ []
  attr_word : ∀ c ∈ attr, isWordChar c = true
  operator_ne_nil : operator ≠ []
  operator_unbroken : ∀ c ∈ operator, isBlank c = false
  pattern_ne_nil : pattern ≠ []
  written : ∃ w₀ f₁ w₁ f₂ w₂ d tail,
    Blanks w₀ ∧ Written command f₁ ∧ (Blanks w₁ ∧ w₁ ≠ []) ∧ Written selector f₂ ∧
      (Blanks w₂ ∧ w₂ ≠ []) ∧ (d = '"' ∨ d = '\x60') ∧ d ∉ tail ∧
      line = w₀ ++ f₁ ++ w₁ ++ f₂ ++ w₂ ++
        (d :: attr ++ ' ' :: operator ++ ' ' :: pattern ++ d :: tail)

/-- A text does not begin with a blank. -/
def StartsSolid (s : List Char) : Prop := ∀ c ∈ s.head?, isBlank c = false

theorem trimStart_iff {s r : List Char} :
    trimStart s = r ↔ ∃ w, Blanks w ∧ s = w ++ r ∧ StartsSolid r := by
  constructor
  · intro h
    obtain ⟨hs, hw, hr⟩ := span_iff.mp ⟨rfl, h⟩
    exact ⟨_, hw, hs, hr⟩
  · rintro ⟨w, hw, hs, hr⟩
    exact (span_iff.mpr ⟨hs, hw, hr⟩).2

theorem separator_iff {s r : List Char} :
    separator s = some r ↔ ∃ w, (Blanks w ∧ w ≠ []) ∧ s = w ++ r ∧ StartsSolid r := by
  cases s with
  | nil =>
    constructor
    · intro h
      simp [separator] at h
    · rintro ⟨w, ⟨-, hne⟩, hs, -⟩
      exact absurd (List.append_eq_nil_iff.mp hs.symm).1 hne
  | cons c s =>
    rw [separator]
    constructor
    · intro h
      split at h
      · next hc =>
        obtain ⟨w, hw, rfl, hr⟩ := trimStart_iff.mp (Option.some.inj h)
        exact ⟨c :: w, ⟨List.forall_mem_cons.mpr ⟨hc, hw⟩, by simp⟩, rfl, hr⟩
      · simp at h
    · rintro ⟨w, ⟨hw, hne⟩, hs, hr⟩
      cases w with
      | nil => exact absurd rfl hne
      | cons d w =>
        rw [List.cons_append, List.cons.injEq] at hs
        obtain ⟨rfl, rfl⟩ := hs
        obtain ⟨hc, hw⟩ := List.forall_mem_cons.mp hw
        rw [if_pos hc, trimStart_iff.mpr ⟨w, hw, rfl, hr⟩]

theorem Written.startsSolid {x f : List Char} (h : Written x f) (s : List Char) :
    StartsSolid (f ++ s) := by
  cases h with
  | quoted nonempty unquoted =>
    intro c hc
    obtain rfl : '"' = c := by simpa using hc
    decide
  | bare nonempty unbroken unquoted =>
    cases x with
    | nil => exact absurd rfl nonempty
    | cons c x =>
      intro d hd
      obtain rfl : c = d := by simpa using hd
      exact unbroken c List.mem_cons_self

theorem field_quoted_iff {t x r : List Char} :
    field ('"' :: t) = some (x, r) ↔ x ≠ [] ∧ '"' ∉ x ∧ t = x ++ '"' :: r := by
  constructor
  · intro h
    rw [field] at h
    obtain ⟨ht, hf, hg⟩ := span_iff (p := (· != '"')) (s := t).mp ⟨rfl, rfl⟩
    generalize t.takeWhile (· != '"') = f at h ht hf
    generalize t.dropWhile (· != '"') = g at h ht hg
    cases g with
    | nil => simp at h
    | cons d g =>
      cases f with
      | nil => simp at h
      | cons c f =>
        obtain ⟨rfl, rfl⟩ : c :: f = x ∧ g = r := by simpa using h
        obtain rfl : d = '"' := by simpa using hg d rfl
        exact ⟨by simp, fun hq => by simpa using hf '"' hq, ht⟩
  · rintro ⟨hne, hq, rfl⟩
    obtain ⟨hf, hg⟩ := span_iff (p := (· != '"')) (s := x ++ '"' :: r).mpr
      ⟨rfl, fun c hc => bne_iff_ne.mpr fun h => hq (h ▸ hc), by simp⟩
    rw [field, hf, hg]
    cases x with
    | nil => exact absurd rfl hne
    | cons c x => rfl

theorem field_bare_iff {s x r : List Char} (hs : s.head? ≠ some '"') :
    field s = some (x, r) ↔ x ≠ [] ∧ (∀ c ∈ x, isBlank c = false) ∧ s = x ++ r ∧
      ∀ c ∈ r.head?, isBlank c = true := by
  have hfield : field s = if s.takeWhile (!isBlank ·) = [] then none
      else some (s.takeWhile (!isBlank ·), s.dropWhile (!isBlank ·)) := by
    unfold field
    split
    · exact absurd rfl hs
    · cases s.takeWhile (!isBlank ·) with
      | nil => rfl
      | cons c t => simp
  have hspan := span_iff (p := (!isBlank ·)) (s := s) (x := x) (y := r)
  simp only [Bool.not_eq_true', Bool.not_eq_false'] at hspan
  rw [hfield]
  constructor
  · intro h
    split at h
    case isTrue => simp at h
    case isFalse hne =>
      obtain ⟨hx, hr⟩ : s.takeWhile (!isBlank ·) = x ∧ s.dropWhile (!isBlank ·) = r := by
        simpa using h
      obtain ⟨h₁, h₂, h₃⟩ := hspan.mp ⟨hx, hr⟩
      exact ⟨fun h0 => hne (hx.trans h0), h₂, h₁, h₃⟩
  · rintro ⟨hne, h₂, h₁, h₃⟩
    obtain ⟨hx, hr⟩ := hspan.mpr ⟨h₁, h₂, h₃⟩
    rw [hx, hr, if_neg hne]

/-- A field with the blanks after it is read as one of its written forms. -/
theorem field_separator_iff {s x q : List Char} :
    (∃ r, field s = some (x, r) ∧ separator r = some q) ↔
      ∃ f w, Written x f ∧ (Blanks w ∧ w ≠ []) ∧ s = f ++ w ++ q ∧ StartsSolid q := by
  constructor
  · rintro ⟨r, hf, hsep⟩
    obtain ⟨w, hw, rfl, hq⟩ := separator_iff.mp hsep
    by_cases hs : s.head? = some '"'
    · obtain ⟨t, rfl⟩ := List.head?_eq_some_iff.mp hs
      obtain ⟨hne, hx, rfl⟩ := field_quoted_iff.mp hf
      exact ⟨_, w, .quoted hne hx, hw, by simp, hq⟩
    · obtain ⟨hne, hx, rfl, -⟩ := (field_bare_iff hs).mp hf
      refine ⟨x, w, .bare hne hx fun h => hs ?_, hw, by simp, hq⟩
      rw [List.head?_append, h]
      rfl
  · rintro ⟨f, w, hf, hw, rfl, hq⟩
    refine ⟨w ++ q, ?_, separator_iff.mpr ⟨w, hw, rfl, hq⟩⟩
    cases hf with
    | quoted nonempty unquoted =>
      have hs : '"' :: x ++ ['"'] ++ w ++ q = '"' :: (x ++ '"' :: (w ++ q)) := by simp
      rw [hs]
      exact field_quoted_iff.mpr ⟨nonempty, unquoted, rfl⟩
    | bare nonempty unbroken unquoted =>
      obtain ⟨hblanks, hwne⟩ := hw
      have hs : (x ++ w ++ q).head? ≠ some '"' := by
        cases x with
        | nil => exact absurd rfl nonempty
        | cons c x => exact unquoted
      refine (field_bare_iff hs).mpr ⟨nonempty, unbroken, by simp, fun c hc => ?_⟩
      cases w with
      | nil => exact absurd rfl hwne
      | cons d w =>
        obtain rfl : d = c := by simpa using hc
        exact hblanks d List.mem_cons_self

theorem beforeLast_iff {d : Char} {s t : List Char} :
    beforeLast d s = some t ↔ ∃ tail, s = t ++ d :: tail ∧ d ∉ tail := by
  rw [beforeLast]
  constructor
  · intro h
    obtain ⟨hs, hf, hg⟩ := span_iff (p := (· != d)) (s := s.reverse).mp ⟨rfl, rfl⟩
    generalize s.reverse.takeWhile (· != d) = f at hs hf
    generalize s.reverse.dropWhile (· != d) = g at h hs hg
    cases g with
    | nil => simp at h
    | cons e g =>
      obtain rfl : e = d := by simpa using hg e rfl
      obtain rfl : g.reverse = t := by simpa using h
      refine ⟨f.reverse, ?_, fun hd => ?_⟩
      · rw [← List.reverse_reverse s, hs]
        simp
      · simpa using hf e (List.mem_reverse.mp hd)
  · rintro ⟨tail, rfl, hd⟩
    obtain ⟨-, hg⟩ := span_iff (p := (· != d)) (s := (t ++ d :: tail).reverse)
      (x := tail.reverse) (y := d :: t.reverse).mpr
      ⟨by simp, fun c hc => bne_iff_ne.mpr fun h => hd (h ▸ List.mem_reverse.mp hc), by simp⟩
    rw [hg]
    simp

theorem clauseBody_iff {s t : List Char} :
    clauseBody s = some t ↔
      ∃ d tail, (d = '"' ∨ d = '\x60') ∧ d ∉ tail ∧ s = d :: t ++ d :: tail := by
  cases s with
  | nil => simp [clauseBody]
  | cons e s =>
    rw [clauseBody]
    constructor
    · intro h
      split at h
      · next he =>
        obtain ⟨tail, rfl, ht⟩ := beforeLast_iff.mp h
        exact ⟨e, tail, he, ht, rfl⟩
      · simp at h
    · rintro ⟨d, tail, hd, ht, hs⟩
      rw [List.cons_append, List.cons.injEq] at hs
      obtain ⟨rfl, rfl⟩ := hs
      rw [if_pos hd]
      exact beforeLast_iff.mpr ⟨tail, rfl, ht⟩

theorem clauseParts_iff {s a o p : List Char} :
    clauseParts s = some (a, o, p) ↔ s = a ++ ' ' :: o ++ ' ' :: p ∧
      (a ≠ [] ∧ ∀ c ∈ a, isWordChar c = true) ∧ (o ≠ [] ∧ ∀ c ∈ o, isBlank c = false) ∧ p ≠ [] := by
  constructor
  · intro h
    rw [clauseParts] at h
    obtain ⟨hs, hword, -⟩ := span_iff (p := isWordChar) (s := s).mp ⟨rfl, rfl⟩
    generalize s.takeWhile isWordChar = a' at h hs hword
    generalize s.dropWhile isWordChar = rest at h hs
    split at h
    · simp at h
    · next t hne =>
      obtain ⟨ht, -, hspace⟩ := span_iff (p := (· != ' ')) (s := t).mp ⟨rfl, rfl⟩
      generalize t.takeWhile (· != ' ') = o' at h ht
      generalize t.dropWhile (· != ' ') = rest at h ht hspace
      split at h
      · simp at h
      · simp at h
      · simp at h
      · next d p' hp ho =>
        split at h
        · simp at h
        · next hblank =>
          obtain ⟨rfl, rfl, rfl⟩ : a' = a ∧ o' = o ∧ p' = p := by simpa using h
          obtain rfl : d = ' ' := by simpa using hspace d rfl
          rw [ht] at hs
          exact ⟨by simpa using hs, ⟨hne, hword⟩, ⟨ho, by simpa using hblank⟩, hp⟩
    · simp at h
  · rintro ⟨rfl, ⟨ha, hword⟩, ⟨ho, hsolid⟩, hp⟩
    obtain ⟨ha₁, ha₂⟩ := span_iff (p := isWordChar) (s := a ++ ' ' :: o ++ ' ' :: p) (x := a)
      (y := ' ' :: (o ++ ' ' :: p)).mpr ⟨by simp, hword, by simp; decide⟩
    obtain ⟨ho₁, ho₂⟩ := span_iff (p := (· != ' ')) (s := o ++ ' ' :: p).mpr
      ⟨rfl, fun c hc => bne_iff_ne.mpr fun h => by
        have hb := hsolid c hc
        rw [h] at hb
        exact absurd hb (by decide), by simp⟩
    rw [clauseParts, ha₁, ha₂]
    cases a with
    | nil => exact absurd rfl ha
    | cons c a =>
      simp only [ho₁, ho₂]
      cases o with
      | nil => exact absurd rfl ho
      | cons d o =>
        cases p with
        | nil => exact absurd rfl hp
        | cons e p =>
          have hnone : (d :: o).any isBlank = false := by simpa using hsolid
          simp [hnone]

/-- The texts of a line come one after the other from what the one before leaves. -/
theorem fields_eq_some_iff {line c u a o p : List Char} :
    fields line = some (c, u, a, o, p) ↔
      ∃ q₁, (∃ r, field (trimStart line) = some (c, r) ∧ separator r = some q₁) ∧
        ∃ q₂, (∃ r, field q₁ = some (u, r) ∧ separator r = some q₂) ∧
          ∃ body, clauseBody q₂ = some body ∧ clauseParts body = some (a, o, p) := by
  simp only [fields, Option.bind_eq_bind, Option.bind_eq_some_iff, Option.some.injEq, Prod.exists,
    Prod.mk.injEq]
  constructor
  · rintro ⟨_, r₁, h₁, q₁, hq₁, _, r₂, h₂, q₂, hq₂, body, hb, _, _, _, hp, rfl, rfl, rfl, rfl, rfl⟩
    exact ⟨q₁, ⟨r₁, h₁, hq₁⟩, q₂, ⟨r₂, h₂, hq₂⟩, body, hb, hp⟩
  · rintro ⟨q₁, ⟨r₁, h₁, hq₁⟩, q₂, ⟨r₂, h₂, hq₂⟩, body, hb, hp⟩
    exact ⟨c, r₁, h₁, q₁, hq₁, u, r₂, h₂, q₂, hq₂, body, hb, a, o, p, hp, rfl, rfl, rfl, rfl, rfl⟩

theorem fields_iff {line c u a o p : List Char} :
    fields line = some (c, u, a, o, p) ↔ IsLine line c u a o p := by
  simp only [fields_eq_some_iff, field_separator_iff, clauseBody_iff, clauseParts_iff]
  constructor
  · rintro ⟨q₁, ⟨f₁, w₁, hf₁, hw₁, hline, -⟩, q₂, ⟨f₂, w₂, hf₂, hw₂, rfl, -⟩, body,
      ⟨d, tail, hd, htail, rfl⟩, rfl, ha, ho, hp⟩
    obtain ⟨w₀, hw₀, rfl, -⟩ := trimStart_iff.mp hline
    exact ⟨ha.1, ha.2, ho.1, ho.2, hp,
      w₀, f₁, w₁, f₂, w₂, d, tail, hw₀, hf₁, hw₁, hf₂, hw₂, hd, htail, by simp⟩
  · rintro ⟨ha, hword, ho, hsolid, hp, w₀, f₁, w₁, f₂, w₂, d, tail, hw₀, hf₁, hw₁, hf₂, hw₂, hd,
      htail, rfl⟩
    have hclause : StartsSolid (d :: (a ++ ' ' :: o ++ ' ' :: p) ++ d :: tail) := by
      intro e he
      obtain rfl : d = e := by simpa using he
      rcases hd with rfl | rfl <;> decide
    refine ⟨_, ⟨f₁, w₁, hf₁, hw₁, ?_, hf₂.startsSolid _⟩, _,
      ⟨f₂, w₂, hf₂, hw₂, (List.append_assoc f₂ w₂ _).symm, hclause⟩, _,
      ⟨d, tail, hd, htail, rfl⟩, rfl, ⟨ha, hword⟩, ⟨ho, hsolid⟩, hp⟩
    refine trimStart_iff.mpr ⟨w₀, hw₀, by simp, ?_⟩
    rw [List.append_assoc]
    exact hf₁.startsSolid _

theorem ofFields_inj {c u a o p c' u' a' o' p' : String} :
    ofFields c u a o p = ofFields c' u' a' o' p' ↔ c = c' ∧ u = u' ∧ a = a' ∧ o = o' ∧ p = p' := by
  simp only [ofFields, mk.injEq]
  constructor
  · rintro ⟨hc, hu, ha, ho, hp⟩
    exact ⟨hc, hu, Attribute.ofName_injective ha, Operator.ofSymbol_injective ho, hp⟩
  · rintro ⟨rfl, rfl, rfl, rfl, rfl⟩
    exact ⟨rfl, rfl, rfl, rfl, rfl⟩

theorem parse_eq_ok_iff {line c u a o p : String} :
    parse line = .ok (ofFields c u a o p) ↔
      IsLine line.toList c.toList u.toList a.toList o.toList p.toList := by
  rw [← fields_iff, parse]
  cases h : fields line.toList with
  | none => simp
  | some t =>
    obtain ⟨c', u', a', o', p'⟩ := t
    simp only [Except.ok.injEq, ofFields_inj, Option.some.injEq, Prod.mk.injEq,
      ← String.toList_inj, String.toList_ofList]

theorem parse_eq_error_iff {line : String} :
    parse line = .error .malformed ↔ ∀ c u a o p : String,
      ¬ IsLine line.toList c.toList u.toList a.toList o.toList p.toList := by
  simp only [← parse_eq_ok_iff]
  constructor
  · intro h c u a o p hok
    rw [h] at hok
    cases hok
  · intro h
    cases hf : fields line.toList with
    | none => rw [parse, hf]
    | some t =>
      obtain ⟨c, u, a, o, p⟩ := t
      have hok : parse line = .ok (ofFields (.ofList c) (.ofList u) (.ofList a) (.ofList o)
          (.ofList p)) := by
        rw [parse, hf]
      exact absurd hok (h _ _ _ _ _)

/-- Reading a line gives a rule exactly when the line is made of its five texts. No line is made of
two different quintuples of texts, and a line that is made of none is malformed. -/
theorem parse_exact (line : String) :
    (∀ c u a o p : String, parse line = .ok (ofFields c u a o p) ↔
      IsLine line.toList c.toList u.toList a.toList o.toList p.toList) ∧
    (∀ c u a o p c' u' a' o' p' : String,
      IsLine line.toList c.toList u.toList a.toList o.toList p.toList →
      IsLine line.toList c'.toList u'.toList a'.toList o'.toList p'.toList →
      c = c' ∧ u = u' ∧ a = a' ∧ o = o' ∧ p = p') ∧
    (parse line = .error .malformed ↔ ∀ c u a o p : String,
      ¬ IsLine line.toList c.toList u.toList a.toList o.toList p.toList) := by
  refine ⟨fun c u a o p => parse_eq_ok_iff, ?_, parse_eq_error_iff⟩
  intro c u a o p c' u' a' o' p' h h'
  have hparse : parse line = .ok (ofFields c u a o p) := parse_eq_ok_iff.mpr h
  have hparse' : parse line = .ok (ofFields c' u' a' o' p') := parse_eq_ok_iff.mpr h'
  exact ofFields_inj.mp (Except.ok.inj (hparse.symm.trans hparse'))

/-- A line whose pattern holds the delimiter of the clause. -/
def quotedLine : String := "cmd \t* \"title =~ say \"hi\"\" note"

/-- The last delimiter ends the clause, and what follows it is left out. -/
theorem parse_exact_quoted :
    IsLine quotedLine.toList "cmd".toList "*".toList "title".toList "=~".toList
      "say \"hi\"".toList ∧
    parse quotedLine = .ok (ofFields "cmd" "*" "title" "=~" "say \"hi\"") ∧
    ∀ c u a o p : String, IsLine quotedLine.toList c.toList u.toList a.toList o.toList p.toList →
      p = "say \"hi\"" := by
  have h : IsLine quotedLine.toList "cmd".toList "*".toList "title".toList "=~".toList
      "say \"hi\"".toList := fields_iff.mp (by decide)
  obtain ⟨hok, hunique, -⟩ := parse_exact quotedLine
  refine ⟨h, (hok "cmd" "*" "title" "=~" "say \"hi\"").mpr h, fun c u a o p h' => ?_⟩
  exact (hunique c u a o p "cmd" "*" "title" "=~" "say \"hi\"" h' h).2.2.2.2

end Rule

end Killfile

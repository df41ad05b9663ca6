import Killfile.Matcher

/-! The patterns of terms are read as they are meant. No character of a term works as a part of the
syntax: its pattern stands for its characters one after the other, between two word boundaries. -/

namespace Killfile.Regex

/-- Reading comes from one state and text to another. How many turns the reader may still take does
not matter, as long as there is one for each character. -/
def Reads (st : ParseState) (s : List Char) (st' : ParseState) (r : List Char) : Prop :=
  ∀ fuel, s.length ≤ fuel →
    ∃ fuel', r.length ≤ fuel' ∧ parseLoop fuel st s = parseLoop fuel' st' r

namespace Reads

theorem refl (st : ParseState) (s : List Char) : Reads st s st s := fun fuel h => ⟨fuel, h, rfl⟩

theorem trans {st st' st'' : ParseState} {s r q : List Char} (h : Reads st s st' r)
    (h' : Reads st' r st'' q) : Reads st s st'' q := by
  intro fuel hf
  obtain ⟨fuel', hf', he⟩ := h fuel hf
  obtain ⟨fuel'', hf'', he'⟩ := h' fuel' hf'
  exact ⟨fuel'', hf'', he.trans he'⟩

theorem step {st st' : ParseState} {c : Char} {s r : List Char} (hv : st.verbose = false)
    (h : st.step c s = some (st', r)) (hr : r.length ≤ s.length) : Reads st (c :: s) st' r := by
  intro fuel hf
  cases fuel with
  | zero => simp at hf
  | succ fuel =>
    refine ⟨fuel, ?_, ?_⟩
    · rw [List.length_cons] at hf
      omega
    · rw [parseLoop, hv, skip_false]
      simp [h]

end Reads

/-- The tree of an ASCII word boundary. -/
def boundaryAst : Ast := .group (.plain [⟨.unicode, false⟩]) (.anchor .boundary)

/-- The tree of the mark by which case does not count. -/
def markAst : Ast := .flags [⟨.ignoreCase, true⟩]

theorem reads_boundary (st : ParseState) (hv : st.verbose = false) (s : List Char) :
    Reads st (wordBoundary ++ s) (st.push boundaryAst) s := by
  obtain ⟨frames, items, names, verbose⟩ := st
  subst hv
  have opened : Reads ⟨frames, items, names, false⟩ (wordBoundary ++ s)
      ⟨.group items (.plain [⟨.unicode, false⟩]) false :: frames, [], names, false⟩
      ("\\b)".toList ++ s) := Reads.step rfl rfl (by simp)
  have anchored : Reads
      ⟨.group items (.plain [⟨.unicode, false⟩]) false :: frames, [], names, false⟩
      ("\\b)".toList ++ s)
      ⟨.group items (.plain [⟨.unicode, false⟩]) false :: frames, [.anchor .boundary], names, false⟩
      (")".toList ++ s) := Reads.step rfl rfl (by simp)
  exact (opened.trans anchored).trans (Reads.step rfl rfl (Nat.le_refl _))

theorem reads_mark (st : ParseState) (hv : st.verbose = false) (s : List Char) :
    Reads st (caseMark ++ s) (st.push markAst) s := by
  obtain ⟨frames, items, names, verbose⟩ := st
  subst hv
  exact Reads.step rfl rfl (Nat.le_add_right s.length 3)

theorem step_of_not_isMeta (st : ParseState) {c : Char} (h : isMeta c = false) (s : List Char) :
    st.step c s = some (st.push (.char c false), s) := by
  unfold ParseState.step
  split
  case h_13 => rfl
  all_goals exact absurd h (by decide)

theorem escape_of_isMeta {c : Char} (h : isMeta c = true) (s : List Char) :
    escape false (c :: s) = some (.char c false, s) := by
  rw [escape]
  · simp [isEscapable, h]
  -- None of the letters that an escape gives a meaning is meta.
  all_goals
    rintro rfl
    exact absurd h (by decide)

theorem reads_escapeText (st : ParseState) (hv : st.verbose = false) (word s : List Char) :
    Reads st (escapeText word ++ s)
      { st with items := (word.map fun c => .char c false).reverse ++ st.items } s := by
  induction word generalizing st with
  | nil => exact Reads.refl st s
  | cons c word ih =>
    have first : Reads st (escapeText (c :: word) ++ s) (st.push (.char c false))
        (escapeText word ++ s) := by
      cases h : isMeta c with
      | true =>
        have he : escapeText (c :: word) ++ s = '\\' :: c :: (escapeText word ++ s) := by
          simp [escapeText, h]
        rw [he]
        refine Reads.step hv ?_ (by simp)
        simp [ParseState.step, hv, escape_of_isMeta h]
      | false =>
        have he : escapeText (c :: word) ++ s = c :: (escapeText word ++ s) := by
          simp [escapeText, h]
        rw [he]
        exact Reads.step hv (step_of_not_isMeta st h _) (Nat.le_refl _)
    have rest := ih (st.push (.char c false)) hv
    simpa [ParseState.push] using first.trans rest

/-- The parts of the tree of a word between boundaries. -/
def wordItems (word : List Char) : List Ast :=
  boundaryAst :: (word.map fun c => .char c false) ++ [boundaryAst]

def wordText (word : List Char) : List Char := wordBoundary ++ escapeText word ++ wordBoundary

theorem reads_wordText (st : ParseState) (hv : st.verbose = false) (word : List Char) :
    Reads st (wordText word) { st with items := (wordItems word).reverse ++ st.items } [] := by
  have first := reads_boundary st hv (escapeText word ++ (wordBoundary ++ []))
  have inner := reads_escapeText (st.push boundaryAst) hv word (wordBoundary ++ [])
  have last := reads_boundary { st.push boundaryAst with items :=
    (word.map fun c => .char c false).reverse ++ (st.push boundaryAst).items } hv []
  simpa [wordText, wordItems, ParseState.push] using (first.trans inner).trans last

theorem depths_le {items : List Ast} {n : Nat} (h : ∀ a ∈ items, a.depth ≤ n) :
    Ast.depths items ≤ n := by
  induction items with
  | nil => simp [Ast.depths]
  | cons a items ih =>
    rw [Ast.depths]
    exact Nat.max_le.mpr ⟨h a List.mem_cons_self, ih fun b hb => h b (List.mem_cons_of_mem a hb)⟩

/-- What has been read to the end without open groups is a sequence. -/
theorem parse_of_reads {s : List Char} {items : List Ast}
    (h : Reads {} s { items := items.reverse } []) (hlen : 2 ≤ items.length)
    (hdepth : ∀ a ∈ items, a.depth ≤ 1) : parse s = some (.concat items) := by
  have hseq : Ast.sequence items = .concat items := by
    match items, hlen with
    | _ :: _ :: _, _ => rfl
  have hloop : parseLoop s.length {} s = some (.concat items) := by
    obtain ⟨fuel, -, he⟩ := h s.length (Nat.le_refl _)
    rw [he, ← hseq]
    cases fuel <;> simp [parseLoop, ParseState.finish, closeBranches]
  have hfits : (Ast.concat items).depth ≤ nestingLimit := by
    rw [Ast.depth]
    exact Nat.le_trans (Nat.succ_le_succ (depths_le hdepth)) (by decide)
  rw [parse, hloop, Option.filter_some_pos (by simpa using hfits)]

theorem depth_wordItems {word : List Char} {a : Ast} (h : a ∈ wordItems word) : a.depth ≤ 1 := by
  simp only [wordItems, List.mem_append, List.mem_cons, List.mem_map, List.not_mem_nil,
    or_false] at h
  rcases h with (rfl | ⟨c, -, rfl⟩) | rfl
  · decide
  · exact Nat.zero_le 1
  · decide

theorem parse_wordText (word : List Char) :
    parse (wordText word) = some (.concat (wordItems word)) := by
  refine parse_of_reads ?_ (by simp [wordItems]) fun a ha => depth_wordItems ha
  simpa using reads_wordText {} rfl word

theorem parse_mark_wordText (word : List Char) :
    parse (caseMark ++ wordText word) = some (.concat (markAst :: wordItems word)) := by
  refine parse_of_reads ?_ (by simp [wordItems]) ?_
  · have h := (reads_mark {} rfl (wordText word)).trans
      (reads_wordText (ParseState.push {} markAst) rfl word)
    simpa [ParseState.push] using h
  · intro a ha
    rcases List.mem_cons.mp ha with rfl | ha
    · decide
    · exact depth_wordItems ha

/-- The characters that stand for a character, when case counts or not. -/
def charSet (ignoreCase : Bool) (c : Char) : CharSet :=
  if ignoreCase then CharSet.ofChars (Unicode.caseOrbit c) else CharSet.singleton c

/-- Characters one after the other, with an ASCII word boundary at the end. -/
def ending (ignoreCase : Bool) : List Char → Regex
  | [] => .condition (.boundary false)
  | c :: word => .seq (.set (charSet ignoreCase c)) (ending ignoreCase word)

/-- Characters one after the other between two ASCII word boundaries. -/
def bounded (ignoreCase : Bool) (word : List Char) : Regex :=
  .seq (.condition (.boundary false)) (ending ignoreCase word)

theorem andThen_ending (a : Regex) (ha : a ≠ .nothing) (ignoreCase : Bool) (word : List Char) :
    a.andThen (ending ignoreCase word) = .seq a (ending ignoreCase word) := by
  cases a <;> cases word <;> simp_all [andThen, ending]

theorem meaning_boundaryAst (f : Flags) :
    boundaryAst.meaning f = some (.condition (.boundary false), f) := rfl

theorem meaning_char {f : Flags} (hf : f.unicode = true) (c : Char) :
    (Ast.char c false).meaning f = some (.set (charSet f.ignoreCase c), f) := by
  cases h : f.ignoreCase <;> simp [Ast.meaning, Flags.char, charSet, hf, h]

theorem sequenceMeaning_ending {f : Flags} (hf : f.unicode = true) (word : List Char) :
    Ast.sequenceMeaning f ((word.map fun c => .char c false) ++ [boundaryAst]) =
      some (ending f.ignoreCase word, f) := by
  induction word with
  | nil => rfl
  | cons c word ih =>
    rw [List.map_cons, List.cons_append, Ast.sequenceMeaning, meaning_char hf]
    simp [ih, andThen_ending, ending]

theorem sequenceMeaning_wordItems {f : Flags} (hf : f.unicode = true) (word : List Char) :
    Ast.sequenceMeaning f (wordItems word) = some (bounded f.ignoreCase word, f) := by
  rw [wordItems, List.cons_append, Ast.sequenceMeaning, meaning_boundaryAst]
  simp [sequenceMeaning_ending hf, andThen_ending, bounded]

theorem meaning_wordItems (word : List Char) :
    (Ast.concat (wordItems word)).meaning {} = some (bounded false word, {}) := by
  rw [Ast.meaning]
  exact sequenceMeaning_wordItems rfl word

theorem meaning_mark_wordItems (word : List Char) :
    (Ast.concat (markAst :: wordItems word)).meaning {} =
      some (bounded true word, { ignoreCase := true }) := by
  rw [Ast.meaning, Ast.sequenceMeaning]
  have h := sequenceMeaning_wordItems (f := { ignoreCase := true }) rfl word
  simp [markAst, Ast.meaning, Flags.change, h, andThen]

end Killfile.Regex

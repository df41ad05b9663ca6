import Mathlib.Data.List.Forall2
import Killfile.Proofs.Line
import Killfile.Proofs.Pieces
import Killfile.Proofs.Unicode.Case
import Killfile.Rule.Selection

/-! Which feeds a rule selects. A list of categories stands for a set of names, in lower case and
without blanks around them, and only this set matters. The title of a category is put in lower case
but keeps its blanks, so no list names a title with blanks around it or with a comma inside. -/

namespace Killfile

open Text (IsPiece isBlank pieces trim trimEnd trimStart)
open Unicode (isSeparator lowercase)

namespace Rule

section Trimming

variable {s r inner : List Char}

/-- The part of a text between the blanks at its start and its end. -/
structure Trimmed (s inner : List Char) : Prop where
  around : ∃ w w', Blanks w ∧ Blanks w' ∧ s = w ++ inner ++ w'
  start : ∀ c ∈ inner.head?, isBlank c = false
  stop : ∀ c ∈ inner.getLast?, isBlank c = false

theorem Blanks.append {w w' : List Char} (h : Blanks w) (h' : Blanks w') : Blanks (w ++ w') := by
  intro c hc
  rcases List.mem_append.mp hc with hc | hc
  · exact h c hc
  · exact h' c hc

theorem trimEnd_iff : trimEnd s = r ↔
    ∃ w, Blanks w ∧ s = r ++ w ∧ ∀ c ∈ r.getLast?, isBlank c = false := by
  rw [trimEnd, List.reverse_eq_iff]
  constructor
  · intro h
    obtain ⟨w, hw, hs, hr⟩ := trimStart_iff.mp h
    refine ⟨w.reverse, fun c hc => hw c (List.mem_reverse.mp hc), ?_, ?_⟩
    · rw [← List.reverse_reverse s, hs]
      simp
    · rw [← List.head?_reverse]
      exact hr
  · rintro ⟨w, hw, rfl, hr⟩
    refine trimStart_iff.mpr ⟨w.reverse, fun c hc => hw c (List.mem_reverse.mp hc), by simp, ?_⟩
    rw [← List.head?_reverse] at hr
    exact hr

theorem trimmed_trim (s : List Char) : Trimmed s (trim s) := by
  obtain ⟨w, hw, hs, hstart⟩ := trimStart_iff.mp (rfl : trimStart s = trimStart s)
  obtain ⟨w', hw', hmid, hstop⟩ :
      ∃ w', Blanks w' ∧ trimStart s = trim s ++ w' ∧ ∀ c ∈ (trim s).getLast?, isBlank c = false :=
    trimEnd_iff.mp rfl
  refine ⟨⟨w, w', hw, hw', by rw [List.append_assoc, ← hmid, ← hs]⟩, fun c hc => ?_, hstop⟩
  refine hstart c ?_
  rw [hmid, List.head?_append, Option.mem_def.mp hc]
  rfl

/-- Trimming a text leaves the one part of it that has no blanks around it. -/
theorem Trimmed.eq_trim (h : Trimmed s inner) : inner = trim s := by
  obtain ⟨w, w', hw, hw', rfl⟩ := h.around
  refine (trimEnd_iff.mpr ?_).symm
  by_cases hinner : inner = []
  · subst hinner
    refine ⟨[], by simp [Blanks], ?_, by simp⟩
    exact trimStart_iff.mpr ⟨w ++ w', hw.append hw', by simp, by simp [StartsSolid]⟩
  · refine ⟨w', hw', trimStart_iff.mpr ⟨w, hw, by simp, fun c hc => h.start c ?_⟩, h.stop⟩
    rw [List.head?_append, List.head?_eq_some_head hinner, Option.some_or] at hc
    rwa [List.head?_eq_some_head hinner]

end Trimming

section Categories

variable {c d : Char} {selector list title name : List Char}

/-- The same character, or the same ASCII letter in the other case. -/
def AsciiAlike (c d : Char) : Prop :=
  c = d ∨ c.isUpper = true ∧ d.toNat = c.toNat + 32 ∨ d.isUpper = true ∧ c.toNat = d.toNat + 32

theorem toNat_toLower (h : c.isUpper = true) : c.toLower.toNat = c.toNat + 32 := by
  have hupper : c.val ≥ 'A'.val ∧ c.val ≤ 'Z'.val := of_decide_eq_true h
  have hlower : c.toLower = ⟨c.val + ('a'.val - 'A'.val), _⟩ := dif_pos hupper
  rw [hlower]
  have hle : c.val.toNat ≤ 90 := UInt32.le_iff_toNat_le.mp hupper.2
  show (c.val.toNat + 32) % 2 ^ 32 = c.val.toNat + 32
  exact Nat.mod_eq_of_lt (by omega)

theorem toLower_of_not_isUpper (h : c.isUpper = false) : c.toLower = c :=
  dif_neg (of_decide_eq_false h)

theorem toLower_eq_iff (hd : d.isUpper = false) : c.toLower = d ↔ AsciiAlike c d := by
  unfold AsciiAlike
  cases hc : c.isUpper with
  | true =>
    have hne : c ≠ d := by
      rintro rfl
      exact absurd (hc.symm.trans hd) Bool.noConfusion
    simp [← Char.toNat_inj, toNat_toLower hc, hd, hne, eq_comm]
  | false => simp [toLower_of_not_isUpper hc, hd]

theorem map_toLower_eq_iff {w v : List Char} (hv : ∀ d ∈ v, d.isUpper = false) :
    w.map Char.toLower = v ↔ List.Forall₂ AsciiAlike w v := by
  induction v generalizing w with
  | nil => simp
  | cons d v ih =>
    obtain ⟨hd, hv⟩ := List.forall_mem_cons.mp hv
    cases w with
    | nil => simp
    | cons c w => rw [List.map_cons, List.cons.injEq, toLower_eq_iff hd, ih hv, List.forall₂_cons]

/-- A selector with the word category and a colon, in any case, before a list. -/
def IsCategoryList (selector list : List Char) : Prop :=
  ∃ word, selector = word ++ list ∧ List.Forall₂ AsciiAlike word "category:".toList

theorem categoryList?_eq_some_iff : categoryList? selector = some list ↔
    IsCategoryList selector list := by
  have hlower : ∀ d ∈ "category:".toList, d.isUpper = false := by
    have hall : ("category:".toList.all fun d => !d.isUpper) = true := by decide
    exact fun d hd => by simpa using List.all_eq_true.mp hall d hd
  rw [categoryList?]
  constructor
  · intro h
    split at h
    · next hword =>
      obtain rfl := Option.some.inj h
      exact ⟨_, (List.take_append_drop _ selector).symm, (map_toLower_eq_iff hlower).mp hword⟩
    · cases h
  · rintro ⟨word, rfl, hword⟩
    have hlength : categoryWord.length = word.length := hword.length_eq.symm
    have hsame : word.map Char.toLower = categoryWord := (map_toLower_eq_iff hlower).mpr hword
    rw [hlength, List.take_left, List.drop_left, if_pos hsame]

/-- A list of categories has a name in it: a part between commas, in lower case and without the
blanks around it. -/
def Names (list name : List Char) : Prop :=
  ∃ part inner, IsPiece ',' list part ∧ Trimmed part inner ∧ lowercase inner = name

theorem names_iff : Names list name ↔ name ∈ (pieces ',' list).map fun p => lowercase (trim p) := by
  rw [List.mem_map]
  constructor
  · rintro ⟨part, inner, hpart, hinner, rfl⟩
    exact ⟨part, Text.mem_pieces_iff.mpr hpart, by rw [← hinner.eq_trim]⟩
  · rintro ⟨part, hpart, rfl⟩
    exact ⟨part, trim part, Text.mem_pieces_iff.mp hpart, trimmed_trim part, rfl⟩

theorem listsCategory_iff : listsCategory list title = true ↔ Names list (lowercase title) := by
  rw [names_iff, listsCategory, List.any_eq_true, List.mem_map]
  simp only [beq_iff_eq]

/-- A title that a list names is one of its parts but for case, so it holds no comma and has no blanks
around it. -/
theorem Names.unsurrounded (h : Names list (lowercase title)) : ',' ∉ title ∧
    (∀ c ∈ title.head?, isBlank c = false) ∧ ∀ c ∈ title.getLast?, isBlank c = false := by
  obtain ⟨part, inner, hpart, hinner, hname⟩ := h
  obtain ⟨w, w', -, -, hsplit⟩ := hinner.around
  have separator : ∀ {c}, isBlank c = true → isSeparator c = true := fun hc => by
    simp [isSeparator, hc]
  refine ⟨fun hcomma => ?_, fun c hc => ?_, fun c hc => ?_⟩
  · have hmem : ',' ∈ inner := by
      rwa [← Unicode.mem_lowercase (by decide), hname, Unicode.mem_lowercase (by decide)]
    exact hpart.1 (by simp [hsplit, hmem])
  · refine eq_false_of_ne_true fun hblank => ?_
    have hsep := separator hblank
    have hhead : inner.head? = some c := by
      rwa [← Unicode.head?_lowercase hsep, hname, Unicode.head?_lowercase hsep]
    exact absurd (hblank.symm.trans (hinner.start c hhead)) Bool.noConfusion
  · refine eq_false_of_ne_true fun hblank => ?_
    have hsep := separator hblank
    have hlast : inner.getLast? = some c := by
      rwa [← Unicode.getLast?_lowercase hsep, hname, Unicode.getLast?_lowercase hsep]
    exact absurd (hblank.symm.trans (hinner.stop c hlast)) Bool.noConfusion

theorem IsCategoryList.ne_star {s : String} (h : IsCategoryList s.toList list) : s ≠ "*" := by
  rintro rfl
  obtain ⟨word, hsplit, hword⟩ := h
  have hlength := congrArg List.length hsplit
  rw [List.length_append, hword.length_eq] at hlength
  simp at hlength
  omega

end Categories

section Selectors

variable {r r' : Rule} {f : Feed} {list list' : List Char}

/-- The selector of a rule stands somewhere in the URL of a feed. -/
def OccursInUrl (r : Rule) (f : Feed) : Prop := ∃ x y, f.url.toList = x ++ r.selector.toList ++ y

theorem selects_iff : r.selects f = true ↔ r.selector = "*" ∨ r.OccursInUrl f ∨
    ∃ list, IsCategoryList r.selector.toList list ∧
      Names list (lowercase f.category.title.toList) := by
  rw [selects, Bool.or_eq_true, Bool.or_eq_true, beq_iff_eq, occursIn_iff, or_assoc,
    Option.any_eq_true]
  simp only [categoryList?_eq_some_iff, listsCategory_iff, OccursInUrl]

theorem IsCategoryList.unique {selector : List Char} (h : IsCategoryList selector list)
    (h' : IsCategoryList selector list') : list = list' :=
  Option.some.inj ((categoryList?_eq_some_iff.mpr h).symm.trans (categoryList?_eq_some_iff.mpr h'))

/-- Where its selector is not a part of the URL, a rule with a list of categories selects the feeds
whose titles the list names. -/
theorem selects_iff_names (hlist : IsCategoryList r.selector.toList list) (hurl : ¬ r.OccursInUrl f) :
    r.selects f = true ↔ Names list (lowercase f.category.title.toList) := by
  rw [selects_iff]
  constructor
  · rintro (hstar | hoccurs | ⟨list', hlist', htitle⟩)
    · exact absurd hstar hlist.ne_star
    · exact absurd hoccurs hurl
    · rwa [hlist.unique hlist']
  · exact fun htitle => .inr (.inr ⟨list, hlist, htitle⟩)

/-- A rule selects the feeds that its selector means: all of them, those with the selector in their
URLs, or those of the categories that it lists. Two lists of the same names select the same feeds,
apart from those with a selector in their URLs, and no list names a title with a comma or with a
blank at one of its ends. -/
theorem selects_exact (r : Rule) (f : Feed) :
    (r.selects f = true ↔ r.selector = "*" ∨ r.OccursInUrl f ∨
      ∃ list, IsCategoryList r.selector.toList list ∧
        Names list (lowercase f.category.title.toList)) ∧
    (∀ (r' : Rule) (list list' : List Char), IsCategoryList r.selector.toList list →
      IsCategoryList r'.selector.toList list' → (∀ name, Names list name ↔ Names list' name) →
      ¬ r.OccursInUrl f → ¬ r'.OccursInUrl f → r.selects f = r'.selects f) ∧
    ∀ title : List Char, (',' ∈ title ∨ (∃ c ∈ title.head?, isBlank c = true) ∨
      ∃ c ∈ title.getLast?, isBlank c = true) → ∀ list, ¬ Names list (lowercase title) := by
  refine ⟨selects_iff, fun r' list list' hlist hlist' hsame hurl hurl' => ?_, ?_⟩
  · rw [Bool.eq_iff_iff, selects_iff_names hlist hurl, selects_iff_names hlist' hurl']
    exact hsame _
  · intro title htitle list hnames
    obtain ⟨hcomma, hstart, hstop⟩ := hnames.unsurrounded
    rcases htitle with h | ⟨c, hc, hblank⟩ | ⟨c, hc, hblank⟩
    · exact hcomma h
    · exact absurd (hblank.symm.trans (hstart c hc)) Bool.noConfusion
    · exact absurd (hblank.symm.trans (hstop c hc)) Bool.noConfusion

/-- Two lists of the same two names. -/
def newsRule : Rule := .ofFields "ignore-article" "category:News, Tech" "title" "#" "Moon"

def shoutedRule : Rule := .ofFields "ignore-article" "CATEGORY: tech,news ,NEWS" "title" "#" "Moon"

def techFeed (title : String) : Feed :=
  { id := 7, url := "http://example.com/feed.xml", category := { id := 1, title := title } }

/-- Order, repetition, blanks and case of a list make no difference, while blanks around the title of
a category do. -/
theorem selects_exact_news :
    newsRule.selects (techFeed "TECH") = shoutedRule.selects (techFeed "TECH") ∧
    newsRule.selects (techFeed "TECH") = true ∧
    ∀ list, ¬ Names list (lowercase "Tech ".toList) := by
  have hlist : IsCategoryList newsRule.selector.toList "News, Tech".toList :=
    categoryList?_eq_some_iff.mp (by decide)
  have hlist' : IsCategoryList shoutedRule.selector.toList " tech,news ,NEWS".toList :=
    categoryList?_eq_some_iff.mp (by decide)
  have hnames : ((pieces ',' "News, Tech".toList).map fun p => lowercase (trim p)) =
      ["news".toList, "tech".toList] := by decide +kernel
  have hnames' : ((pieces ',' " tech,news ,NEWS".toList).map fun p => lowercase (trim p)) =
      ["tech".toList, "news".toList, "news".toList] := by decide +kernel
  have hsame : ∀ name, Names "News, Tech".toList name ↔ Names " tech,news ,NEWS".toList name := by
    intro name
    rw [names_iff, names_iff, hnames, hnames']
    simp [or_comm]
  have hurl : ∀ r ∈ [newsRule, shoutedRule], ¬ r.OccursInUrl (techFeed "TECH") := by
    intro r hr
    rw [OccursInUrl, ← occursIn_iff]
    revert r
    decide
  obtain ⟨-, halike, hnone⟩ := selects_exact newsRule (techFeed "TECH")
  refine ⟨halike shoutedRule _ _ hlist hlist' hsame (hurl _ (by simp)) (hurl _ (by simp)),
    by decide +kernel, hnone _ (.inr (.inr ⟨' ', rfl, by decide⟩))⟩

end Selectors

end Rule

end Killfile

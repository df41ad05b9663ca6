import Mathlib.Data.List.Forall2
import Killfile.Proofs.CharSet
import Killfile.Proofs.KillSet
import Killfile.Proofs.Pieces
import Killfile.Proofs.Regex.Literal
import Killfile.Proofs.Regex.Search

/-! Lists of terms search a text for the terms themselves. A term is found where its own characters
stand between two ASCII word boundaries, and whatever characters it has, none of them is read as a
part of the syntax of patterns. -/

namespace Killfile

open Text (IsPiece isWordChar)

/-- Exactly one of the characters next to a place is an ASCII letter, a digit or an underscore. An
end of the text is none of these. -/
def AtBoundary (before after : List Char) : Prop :=
  before.getLast?.any isWordChar ≠ after.head?.any isWordChar

instance (before after : List Char) : Decidable (AtBoundary before after) :=
  inferInstanceAs (Decidable (_ ≠ _))

/-- A term is written out by a part of a text: character for character, or up to simple case folding
when it bears the mark for that. Only one mark counts, the one at the start. -/
def Spells (term middle : List Char) : Prop :=
  if caseMark <+: term then
    List.Forall₂ (fun c d => d ∈ Unicode.caseOrbit c) (term.drop caseMark.length) middle
  else middle = term

/-- A term stands in a text between word boundaries. -/
def TermOccurs (term text : List Char) : Prop :=
  ∃ pre mid post, text = pre ++ mid ++ post ∧ Spells term mid ∧
    AtBoundary pre (mid ++ post) ∧ AtBoundary (pre ++ mid) post

namespace Regex

/-- If a pattern can be read at all, its matching program is within the limit on size. -/
def WithinLimit (pattern : String) : Prop :=
  ∀ a r f, parse pattern.toList = some a → a.meaning {} = some (r, f) → r.fits = true

theorem contains_charSet {ignoreCase : Bool} {c d : Char} :
    (charSet ignoreCase c).contains d = true ↔
      if ignoreCase then d ∈ Unicode.caseOrbit c else d = c := by
  unfold charSet
  split
  · exact CharSet.contains_ofChars
  · exact CharSet.contains_singleton

theorem matches_boundary {pre s : List Char} {j : Nat} :
    Matches (pre ++ s) (.condition (.boundary false)) pre.length j ↔
      pre.length = j ∧ AtBoundary pre s := by
  simp only [Matches, List.take_left', List.getElem?_append_right (Nat.le_refl _), Nat.sub_self,
    ← List.head?_eq_getElem?, List.length_append, Nat.le_add_right, true_and]
  exact and_congr_right fun _ => bne_iff_ne

theorem matches_ending {ignoreCase : Bool} {word pre s : List Char} {j : Nat} :
    Matches (pre ++ s) (ending ignoreCase word) pre.length j ↔
      ∃ mid post, s = mid ++ post ∧
        List.Forall₂ (fun c d => (charSet ignoreCase c).contains d = true) word mid ∧
        j = (pre ++ mid).length ∧ AtBoundary (pre ++ mid) post := by
  induction word generalizing pre s with
  | nil =>
    rw [ending, matches_boundary]
    constructor
    · rintro ⟨rfl, h⟩
      exact ⟨[], s, rfl, .nil, by simp, by simpa using h⟩
    · rintro ⟨mid, post, rfl, hmid, rfl, h⟩
      cases hmid
      simpa using h
  | cons c word ih =>
    rw [ending, Matches]
    constructor
    · rintro ⟨i, ⟨rfl, d, hd, hcd⟩, h⟩
      rw [List.getElem?_append_right (Nat.le_refl _), Nat.sub_self, ← List.head?_eq_getElem?] at hd
      obtain ⟨s, rfl⟩ := List.head?_eq_some_iff.mp hd
      rw [show pre ++ d :: s = (pre ++ [d]) ++ s by simp,
        show pre.length + 1 = (pre ++ [d]).length by simp] at h
      obtain ⟨mid, post, rfl, hmid, hj, hb⟩ := ih.mp h
      exact ⟨d :: mid, post, rfl, .cons hcd hmid, by simpa using hj, by simpa using hb⟩
    · rintro ⟨mid, post, rfl, hmid, hj, hb⟩
      cases hmid with
      | @cons _ d _ mid hcd hmid =>
        refine ⟨pre.length + 1, ⟨rfl, d, by simp, hcd⟩, ?_⟩
        rw [show pre ++ (d :: mid ++ post) = (pre ++ [d]) ++ (mid ++ post) by simp,
          show pre.length + 1 = (pre ++ [d]).length by simp]
        exact ih.mpr ⟨mid, post, rfl, hmid, by simpa using hj, by simpa using hb⟩

theorem ordered_bounded (ignoreCase : Bool) (word : List Char) :
    (bounded ignoreCase word).Ordered := by
  refine ⟨trivial, ?_⟩
  induction word with
  | nil => trivial
  | cons c word ih => exact ⟨trivial, ih⟩

/-- A word between boundaries is found where its characters stand between boundaries. -/
theorem search_bounded {ignoreCase : Bool} {word text : List Char} :
    (bounded ignoreCase word).search text = true ↔ ∃ pre mid post, text = pre ++ mid ++ post ∧
      List.Forall₂ (fun c d => (charSet ignoreCase c).contains d = true) word mid ∧
      AtBoundary pre (mid ++ post) ∧ AtBoundary (pre ++ mid) post := by
  rw [search_iff (ordered_bounded ignoreCase word)]
  constructor
  · rintro ⟨i, j, hi, k, hk, hj⟩
    obtain ⟨pre, s, rfl, rfl⟩ : ∃ pre s, text = pre ++ s ∧ i = pre.length :=
      ⟨text.take i, text.drop i, by simp, by simp [hi]⟩
    obtain ⟨rfl, hb⟩ := matches_boundary.mp hk
    obtain ⟨mid, post, rfl, hmid, -, hb'⟩ := matches_ending.mp hj
    exact ⟨pre, mid, post, by simp, hmid, hb, hb'⟩
  · rintro ⟨pre, mid, post, rfl, hmid, hb, hb'⟩
    refine ⟨pre.length, (pre ++ mid).length, by simp, pre.length, ?_⟩
    rw [List.append_assoc]
    exact ⟨matches_boundary.mpr ⟨rfl, hb⟩, matches_ending.mpr ⟨mid, post, rfl, hmid, rfl, hb'⟩⟩

end Regex

/-- What the pattern of a term means. -/
def termRegex (term : List Char) : Regex :=
  if caseMark <+: term then .bounded true (term.drop caseMark.length) else .bounded false term

theorem caseMark_isPrefix_iff {term : List Char} :
    caseMark <+: term ↔ term.take caseMark.length = caseMark :=
  List.prefix_iff_eq_take.trans eq_comm

theorem toList_termPattern (term : List Char) :
    (termPattern term).toList = if caseMark <+: term
      then caseMark ++ Regex.wordText (term.drop caseMark.length) else Regex.wordText term := by
  unfold termPattern
  simp only [caseMark_isPrefix_iff]
  split
  · simp [Regex.wordText]
  · simp [Regex.wordText]

theorem meaning_termPattern (term : List Char) : ∃ a f,
    Regex.parse (termPattern term).toList = some a ∧ a.meaning {} = some (termRegex term, f) := by
  rw [toList_termPattern, termRegex]
  split
  · exact ⟨_, _, Regex.parse_mark_wordText _, Regex.meaning_mark_wordItems _⟩
  · exact ⟨_, _, Regex.parse_wordText _, Regex.meaning_wordItems _⟩

theorem withinLimit_termPattern {term : List Char} :
    Regex.WithinLimit (termPattern term) ↔ (termRegex term).fits = true := by
  obtain ⟨a, f, ha, hf⟩ := meaning_termPattern term
  constructor
  · exact fun h => h a _ f ha hf
  · intro h b r g hb hr
    obtain rfl : a = b := Option.some.inj (ha.symm.trans hb)
    obtain ⟨rfl, -⟩ := Prod.mk.inj (Option.some.inj (hf.symm.trans hr))
    exact h

theorem compile_termPattern {term : List Char} (h : Regex.WithinLimit (termPattern term)) :
    Regex.compile (termPattern term) = some (termRegex term) := by
  obtain ⟨a, f, ha, hf⟩ := meaning_termPattern term
  simp [Regex.compile, ha, hf, withinLimit_termPattern.mp h]

theorem search_termRegex {term text : List Char} :
    (termRegex term).search text = true ↔ TermOccurs term text := by
  unfold termRegex TermOccurs Spells
  split
  · simp only [Regex.search_bounded, Regex.contains_charSet, if_true]
  · have same : (fun c d : Char => (Regex.charSet false c).contains d = true) = Eq := by
      funext c d
      exact propext (Regex.contains_charSet.trans (by simp [eq_comm]))
    simp only [Regex.search_bounded, same, List.forall₂_eq_eq_eq, eq_comm (a := term)]

theorem findsTerm_iff {list text : String}
    (h : ∀ t, IsPiece ',' list.toList t → Regex.WithinLimit (termPattern t)) :
    ((terms list).any fun t => ((Regex.compile (termPattern t)).map fun r =>
      r.matchesText text).any id) = true ↔
      ∃ t, IsPiece ',' list.toList t ∧ TermOccurs t text.toList := by
  have found : ∀ t, IsPiece ',' list.toList t →
      (((Regex.compile (termPattern t)).map fun r => r.matchesText text).any id = true ↔
        TermOccurs t text.toList) := by
    intro t ht
    rw [compile_termPattern (h t ht)]
    exact search_termRegex
  simp only [List.any_eq_true, terms, Text.mem_pieces_iff]
  exact exists_congr fun t => and_congr_right (found t)

/-- A list of terms matches exactly the texts in which one of its terms stands between word
boundaries, and the negated comparison exactly the others. The terms are all that stands between
commas, blanks and empty terms included. Patterns kept from earlier comparisons change nothing. -/
theorem matchesText_containsTerm_iff (history : List Evaluation) (list text : String)
    (h : ∀ t, IsPiece ',' list.toList t → Regex.WithinLimit (termPattern t)) :
    (Operator.containsTerm.holds list text = true ↔
      ∃ t, IsPiece ',' list.toList t ∧ TermOccurs t text.toList) ∧
    Operator.notContainsTerm.holds list text = !Operator.containsTerm.holds list text ∧
    ∀ op : Operator, (Matcher.matchesText op list text (.ofHistory history)).1 =
      op.holds list text := by
  refine ⟨?_, ?_, fun op => Matcher.matchesText_ofHistory history op list text⟩
  · simpa [Operator.holds, Operator.negated] using findsTerm_iff h
  · simp [Operator.holds, Operator.negated]

theorem charSet_of_caseOrbit {c : Char} {orbit : List Char} (h : Unicode.caseOrbit c = orbit)
    (inOrder : orbit.Pairwise fun d e => d.toNat ≤ e.toNat) :
    Regex.charSet true c = ⟨CharSet.join (orbit.map fun d => (d.toNat, d.toNat))⟩ := by
  have hpairs : (orbit.map fun d : Char => (d.toNat, d.toNat)).Pairwise fun r q => r.1 ≤ q.1 :=
    List.pairwise_map.mpr inOrder
  rw [Regex.charSet, if_pos rfl, h, CharSet.ofChars, CharSet.ofRanges_of_pairwise ?_ hpairs]
  simp

/-- A term with a dot, and two in which case does not count. -/
def sampleTerms : String := "c.t,(?i)moon,(?i)moko"

/-- The sign for kelvin is a capital of the letter k. -/
theorem caseOrbit_sampleTerms :
    Unicode.caseOrbit 'm' = ['M', 'm'] ∧ Unicode.caseOrbit 'o' = ['O', 'o'] ∧
      Unicode.caseOrbit 'n' = ['N', 'n'] ∧ Unicode.caseOrbit 'k' = ['K', 'k', '\u212A'] := by
  refine ⟨?_, ?_, ?_, ?_⟩
  all_goals decide +kernel

theorem withinLimit_sampleTerms {t : List Char} (ht : IsPiece ',' sampleTerms.toList t) :
    Regex.WithinLimit (termPattern t) := by
  obtain ⟨hm, ho, hn, hk⟩ := caseOrbit_sampleTerms
  have sm : Regex.charSet true 'm' = ⟨[(77, 77), (109, 109)]⟩ :=
    (charSet_of_caseOrbit hm (by decide)).trans (by simp [CharSet.join])
  have so : Regex.charSet true 'o' = ⟨[(79, 79), (111, 111)]⟩ :=
    (charSet_of_caseOrbit ho (by decide)).trans (by simp [CharSet.join])
  have sn : Regex.charSet true 'n' = ⟨[(78, 78), (110, 110)]⟩ :=
    (charSet_of_caseOrbit hn (by decide)).trans (by simp [CharSet.join])
  have sk : Regex.charSet true 'k' = ⟨[(75, 75), (107, 107), (0x212A, 0x212A)]⟩ :=
    (charSet_of_caseOrbit hk (by decide)).trans (by simp [CharSet.join])
  have hmem : t ∈ ["c.t".toList, "(?i)moon".toList, "(?i)moko".toList] := Text.mem_pieces_iff.mpr ht
  have moon : (Regex.bounded true ['m', 'o', 'o', 'n']).fits = true := by
    rw [Regex.bounded, Regex.ending, Regex.ending, Regex.ending, Regex.ending, sm, so, sn]
    decide +kernel
  have moko : (Regex.bounded true ['m', 'o', 'k', 'o']).fits = true := by
    rw [Regex.bounded, Regex.ending, Regex.ending, Regex.ending, Regex.ending, sm, so, sk]
    decide +kernel
  simp only [List.mem_cons, List.not_mem_nil, or_false] at hmem
  rw [withinLimit_termPattern]
  rcases hmem with rfl | rfl | rfl
  · decide
  · exact moon
  · exact moko

/-- A term with a dot is found where its dot stands. A term in which case does not count is found in
capitals, whether they are of ASCII or not. -/
theorem matchesText_containsTerm_dot :
    (∀ t, IsPiece ',' sampleTerms.toList t → Regex.WithinLimit (termPattern t)) ∧
    (Matcher.matchesText .containsTerm sampleTerms "a c.t here" []).1 = true ∧
    (Matcher.matchesText .notContainsTerm sampleTerms "a c.t here" []).1 = false ∧
    (Matcher.matchesText .containsTerm sampleTerms "the MOON" []).1 = true ∧
    (Matcher.matchesText .containsTerm sampleTerms "mo\u212Ao" []).1 = true := by
  have h : ∀ t, IsPiece ',' sampleTerms.toList t → Regex.WithinLimit (termPattern t) :=
    fun t => withinLimit_sampleTerms
  have found : ∀ text, (∃ t ∈ Text.pieces ',' sampleTerms.toList, TermOccurs t text.toList) →
      (Matcher.matchesText .containsTerm sampleTerms text []).1 = true ∧
        (Matcher.matchesText .notContainsTerm sampleTerms text []).1 = false := by
    rintro text ⟨t, ht, hoccurs⟩
    obtain ⟨hfound, hnot, hcache⟩ := matchesText_containsTerm_iff [] sampleTerms text h
    have holds := hfound.mpr ⟨t, Text.mem_pieces_iff.mp ht, hoccurs⟩
    rw [holds] at hnot
    exact ⟨(hcache .containsTerm).trans holds, (hcache .notContainsTerm).trans hnot⟩
  obtain ⟨hm, ho, hn, hk⟩ := caseOrbit_sampleTerms
  have dot : Spells "c.t".toList "c.t".toList := by
    rw [Spells, if_neg (by decide)]
  have moon : Spells "(?i)moon".toList "MOON".toList := by
    rw [Spells, if_pos (by decide)]
    change List.Forall₂ _ ['m', 'o', 'o', 'n'] ['M', 'O', 'O', 'N']
    simp [hm, ho, hn]
  have moko : Spells "(?i)moko".toList "mo\u212Ao".toList := by
    rw [Spells, if_pos (by decide)]
    change List.Forall₂ _ ['m', 'o', 'k', 'o'] ['m', 'o', '\u212A', 'o']
    simp [hm, ho, hk]
  have here := found "a c.t here" ⟨"c.t".toList, by decide, "a ".toList, "c.t".toList,
    " here".toList, rfl, dot, by decide, by decide⟩
  have capitals := found "the MOON" ⟨"(?i)moon".toList, by decide, "the ".toList, "MOON".toList, [],
    rfl, moon, by decide, by decide⟩
  have kelvin := found "mo\u212Ao" ⟨"(?i)moko".toList, by decide, [], "mo\u212Ao".toList, [], rfl,
    moko, by decide, by decide⟩
  exact ⟨h, here.1, here.2, capitals.1, kelvin.1⟩

end Killfile

import Killfile.Proofs.Comparison
import Killfile.Proofs.KillSet
import Killfile.Proofs.Terms

/-! Rules whose patterns do not compile. An expression that does not compile matches nothing, negated or
not. A term that does not compile is not found, and so a list of such terms matches nothing as it is, but
everything when it is negated. The patterns of terms are well formed, so they fail on their size alone. -/

namespace Killfile

open Text (IsPiece)

namespace Regex

theorem compile_of_not_withinLimit {pattern : String} (h : ¬ WithinLimit pattern) :
    compile pattern = none := by
  simp only [WithinLimit, not_forall] at h
  obtain ⟨a, r, f, ha, hr, hfits⟩ := h
  simp [compile, ha, hr, hfits]

theorem utf8Length_toNat (c : Char) : utf8Length c.toNat = c.utf8Size := by
  unfold utf8Length Char.utf8Size
  simp only [Char.toNat, UInt32.le_iff_toNat_le, UInt32.toNat_ofNatLT]
  split_ifs <;> omega

/-- One state for each byte of a character. -/
theorem setRoom_singleton (c : Char) : setRoom (CharSet.singleton c) = stateRoom * c.utf8Size := by
  rw [← utf8Length_toNat]
  simp [setRoom, CharSet.singleton]

theorem reverseSetRoom_singleton (c : Char) :
    reverseSetRoom (CharSet.singleton c) = stateRoom * c.utf8Size := by
  rw [← setRoom_singleton]
  simp [reverseSetRoom, CharSet.singleton]

theorem utf8ByteSize_ofList_cons (c : Char) (word : List Char) :
    (String.ofList (c :: word)).utf8ByteSize =
      c.utf8Size + (String.ofList word).utf8ByteSize := by
  rw [← List.singleton_append, String.ofList_append, String.utf8ByteSize_append,
    ← String.singleton_eq_ofList, String.utf8ByteSize_singleton]

/-- A word between boundaries has one state for each byte of the word and one for each boundary. -/
theorem roomWith_bounded {sets : CharSet → Nat} (captures : Bool)
    (h : ∀ c, sets (CharSet.singleton c) = stateRoom * c.utf8Size) (word : List Char) :
    (bounded false word).roomWith sets captures =
      stateRoom * ((String.ofList word).utf8ByteSize + 2) := by
  have hending : (ending false word).roomWith sets captures =
      stateRoom * ((String.ofList word).utf8ByteSize + 1) := by
    induction word with
    | nil => rfl
    | cons c word ih =>
      rw [ending, roomWith, roomWith, ih, charSet, if_neg Bool.false_ne_true, h,
        utf8ByteSize_ofList_cons, ← Nat.mul_add, Nat.add_assoc]
  rw [bounded, roomWith, roomWith, hending, Nat.add_comm, ← Nat.mul_succ]

theorem fits_bounded_iff {word : List Char} :
    (bounded false word).fits = true ↔ (String.ofList word).utf8ByteSize ≤ 327671 := by
  simp only [fits, forwardRoom, backwardRoom, roomWith_bounded _ setRoom_singleton,
    roomWith_bounded _ reverseSetRoom_singleton, stateRoom, roomLimit, Bool.and_eq_true,
    decide_eq_true_eq]
  omega

end Regex

theorem compile_termPattern_eq_none_iff {t : List Char} :
    Regex.compile (termPattern t) = none ↔ ¬ Regex.WithinLimit (termPattern t) := by
  constructor
  · intro h hlimit
    exact Option.some_ne_none _ ((compile_termPattern hlimit).symm.trans h)
  · exact Regex.compile_of_not_withinLimit

/-- A term without the mark compiles as long as it has no more than this many bytes. -/
theorem compile_unmarked_eq_none_iff {t : List Char} (h : ¬ caseMark <+: t) :
    Regex.compile (termPattern t) = none ↔ 327671 < (String.ofList t).utf8ByteSize := by
  rw [compile_termPattern_eq_none_iff, withinLimit_termPattern, termRegex, if_neg h,
    Regex.fits_bounded_iff, not_le]

namespace Operator

/-- The patterns that a comparison stands for: the expression itself, or the pattern of each term
between commas. -/
def StandsFor (op : Operator) (pattern p : String) : Prop :=
  match op with
  | .matchesRegex | .notMatchesRegex => p = pattern
  | .containsTerm | .notContainsTerm => ∃ t, IsPiece ',' pattern.toList t ∧ p = termPattern t
  | .unknown _ => False

/-- None of the patterns that a comparison stands for compiles. -/
def Uncompiled (op : Operator) (pattern : String) : Prop :=
  ∀ p, op.StandsFor pattern p → Regex.compile p = none

variable {op : Operator} {pattern : String}

theorem Uncompiled.not_found (h : op.Uncompiled pattern) (text : String) :
    ¬ ∃ p, op.StandsFor pattern p ∧ Found text p := by
  rintro ⟨p, hp, r, hr, -⟩
  exact Option.some_ne_none r (hr.symm.trans (h p hp))

theorem Uncompiled.holds_iff (h : op.Uncompiled pattern) (text : String) :
    op.holds pattern text = true ↔ op = .notContainsTerm := by
  have hfound := h.not_found text
  rw [Comparison.holds_iff ⟨op, pattern, text⟩, Comparison.Holds]
  cases op with
  | matchesRegex => simp [h pattern rfl]
  | notMatchesRegex => simp [h pattern rfl]
  | containsTerm =>
    simp only [reduceCtorEq, iff_false]
    rintro ⟨t, ht, hf⟩
    exact hfound ⟨_, ⟨t, ht, rfl⟩, hf⟩
  | notContainsTerm =>
    simp only [iff_true]
    rintro ⟨t, ht, hf⟩
    exact hfound ⟨_, ⟨t, ht, rfl⟩, hf⟩
  | unknown s => simp

end Operator

namespace Rule

/-- An entry has some text that belongs to an attribute, unless it has no tags and they are asked for. -/
theorem exists_mem_texts_iff {a : Attribute} {e : Entry} :
    (∃ t, t ∈ texts a e) ↔ (a = .tag → e.tags ≠ []) := by
  cases a with
  | tag =>
    simp only [texts, forall_const]
    exact ⟨fun ⟨t, ht⟩ => List.ne_nil_of_mem ht, List.exists_mem_of_ne_nil e.tags⟩
  | _ => simp [texts]

theorem holdsOf_iff_of_uncompiled {r : Rule} (h : r.operator.Uncompiled r.pattern) {e : Entry} :
    r.HoldsOf e ↔ r.operator = .notContainsTerm ∧ (r.attr = .tag → e.tags ≠ []) := by
  simp only [holdsOf_iff, h.holds_iff, ← exists_mem_texts_iff]
  constructor
  · rintro ⟨t, ht, hop⟩
    exact ⟨hop, t, ht⟩
  · rintro ⟨hop, t, ht⟩
    exact ⟨t, ht, hop⟩

/-- What a rule kills on its own. -/
theorem mem_killed_singleton {r : Rule} {f : Feed} {es : List Entry} {n : Int} :
    n ∈ killed [r] f es ↔ r.selects f = true ∧ ∃ e ∈ es, e.id = n ∧ r.HoldsOf e := by
  rw [mem_killed_iff_inForce]
  cases h : r.selects f with
  | true => simp [inForce_cons_of_selects h]
  | false =>
    rw [inForce_cons_of_not_selects h]
    simp [inForce]

/-- A rule none of whose patterns compiles matches no text, unless it asks for texts without certain
terms: then it matches every text, and by itself it kills all entries of the feeds that it selects,
when it looks at tags all that have any. A pattern over the limit on size is one that does not compile,
and the pattern of a term fails to compile for no other reason. -/
theorem uncompiled_exact (history : List Evaluation) (r : Rule)
    (h : r.operator.Uncompiled r.pattern) :
    (∀ text, (Matcher.matchesText r.operator r.pattern text (.ofHistory history)).1 = true ↔
      r.operator = .notContainsTerm) ∧
    (∀ e, (r.matchesEntry e (.ofHistory history)).1 = true ↔
      r.operator = .notContainsTerm ∧ (r.attr = .tag → e.tags ≠ [])) ∧
    (∀ f es n, n ∈ (killSet [r] f es (.ofHistory history)).1 ↔
      r.operator = .notContainsTerm ∧ r.selects f = true ∧
        ∃ e ∈ es, e.id = n ∧ (r.attr = .tag → e.tags ≠ [])) ∧
    (∀ p, ¬ Regex.WithinLimit p → Regex.compile p = none) ∧
    ∀ t, Regex.compile (termPattern t) = none ↔ ¬ Regex.WithinLimit (termPattern t) := by
  have hcache := PatternCache.faithful_ofHistory history
  refine ⟨fun text => ?_, fun e => ?_, fun f es n => ?_,
    fun p => Regex.compile_of_not_withinLimit, fun t => compile_termPattern_eq_none_iff⟩
  · rw [Matcher.matchesText_ofHistory, h.holds_iff]
  · rw [(gives_matchesEntry r e _ hcache).1, decide_eq_true_iff, holdsOf_iff_of_uncompiled h]
  · rw [(gives_killSet [r] f es _ hcache).1, mem_killed_singleton]
    simp only [holdsOf_iff_of_uncompiled h]
    constructor
    · rintro ⟨hf, e, he, hn, hop, ht⟩
      exact ⟨hop, hf, e, he, hn, ht⟩
    · rintro ⟨hop, hf, e, he, hn, ht⟩
      exact ⟨hf, e, he, hn, hop, ht⟩

/-- A rule with a bracket that is not closed. -/
def unclosedRule : Rule := .ofFields "ignore-article" "*" "title" "!~" "["

/-- The bracket matches nothing, although the comparison is negated. -/
theorem uncompiled_exact_unclosed :
    unclosedRule.operator.Uncompiled unclosedRule.pattern ∧
    unclosedRule.selects sampleFeed = true ∧
    (Matcher.matchesText .notMatchesRegex "[" "Moon" []).1 ≠ true ∧
    ∀ n, n ∉ (killSet [unclosedRule] sampleFeed [moonEntry] []).1 := by
  have h : unclosedRule.operator.Uncompiled unclosedRule.pattern := by
    rintro p rfl
    decide +kernel
  obtain ⟨hmatches, -, hkills, -⟩ := uncompiled_exact [] unclosedRule h
  refine ⟨h, by decide, fun hmoon => ?_, fun n hn => ?_⟩
  · exact absurd ((hmatches "Moon").mp hmoon) (by decide)
  · exact absurd ((hkills sampleFeed [moonEntry] n).mp hn).1 (by decide)

/-- A word that is one letter, so many times. -/
def letters (n : Nat) : List Char := List.replicate n 'a'

theorem utf8ByteSize_letters (n : Nat) : (String.ofList (letters n)).utf8ByteSize = n := by
  induction n with
  | zero => rfl
  | succ n ih =>
    rw [letters, List.replicate_succ, Regex.utf8ByteSize_ofList_cons, ← letters, ih, Nat.add_comm]
    rfl

/-- A list of one term that is too long. -/
theorem uncompiled_letters {n : Nat} (h : 327671 < n) :
    Operator.notContainsTerm.Uncompiled (.ofList (letters n)) := by
  have hletters : ∀ c ∈ letters n, c = 'a' := fun c hc => (List.mem_replicate.mp hc).2
  rintro p ⟨t, ht, rfl⟩
  have hcomma : ',' ∉ letters n := fun hc => absurd (hletters _ hc) (by decide)
  rw [String.toList_ofList, ← Text.mem_pieces_iff, Text.pieces_of_not_mem hcomma,
    List.mem_singleton] at ht
  subst ht
  have hmark : ¬ caseMark <+: letters n := by
    intro hm
    have hopen : '(' ∈ letters n := hm.subset (by decide)
    exact absurd (hletters _ hopen) (by decide)
  rw [compile_unmarked_eq_none_iff hmark, utf8ByteSize_letters]
  exact h

/-- A rule for entries without a word in their titles. -/
def withoutRule (word : List Char) : Rule :=
  ⟨"ignore-article", "*", .title, .notContainsTerm, .ofList word⟩

/-- A word with too many letters makes a rule that asks for entries without it kill an entry, although
the pattern of the word does not compile. -/
theorem matchesText_letters :
    Operator.notContainsTerm.Uncompiled (.ofList (letters 450000)) ∧
    (Matcher.matchesText .notContainsTerm (.ofList (letters 450000)) "Moon" []).1 = true ∧
    moonEntry.id ∈ (killSet [withoutRule (letters 450000)] sampleFeed [moonEntry] []).1 := by
  have h : Operator.notContainsTerm.Uncompiled (.ofList (letters 450000)) :=
    uncompiled_letters (by decide)
  refine ⟨h, ?_, ?_⟩
  · rw [(Matcher.gives_matchesText _ _ _ [] PatternCache.faithful_nil).1, h.holds_iff]
  · rw [(gives_killSet _ _ _ [] PatternCache.faithful_nil).1, mem_killed_singleton]
    exact ⟨rfl, moonEntry, List.mem_singleton_self _, rfl,
      (holdsOf_iff_of_uncompiled h).mpr ⟨rfl, nofun⟩⟩

end Rule

end Killfile

import Killfile.Proofs.Cache
import Killfile.Proofs.Pieces

/-! Comparisons one after the other with one cache. What each comes to and which patterns it tries do
not depend on the cache. Only the events do: of the patterns that a comparison tries, those are
reported that do not compile and that no comparison before it tried. -/

namespace Killfile

open Text (IsPiece)

/-- A pattern compiles, and it is found in a text. -/
def Found (text pattern : String) : Prop :=
  ∃ r, Regex.compile pattern = some r ∧ r.matchesText text = true

theorem any_map_iff {o : Option Regex} {f : Regex → Bool} {g : Bool → Bool} :
    (o.map f).any g = true ↔ ∃ r, o = some r ∧ g (f r) = true := by
  cases o <;> simp

instance (text pattern : String) : Decidable (Found text pattern) :=
  decidable_of_iff (((Regex.compile pattern).map fun r => r.matchesText text).any id = true)
    any_map_iff

/-- Patterns that do not compile and were not known before, each once, in the order in which they are
met. -/
def newlyInvalid (known patterns : List String) : List String :=
  (patterns.filter fun p => (Regex.compile p).isNone && decide (p ∉ known)).eraseDups

theorem mem_newlyInvalid {known patterns : List String} {p : String} :
    p ∈ newlyInvalid known patterns ↔ p ∈ patterns ∧ Regex.compile p = none ∧ p ∉ known := by
  simp [newlyInvalid]

theorem nodup_eraseDups (l : List String) : l.eraseDups.Nodup := by
  cases l with
  | nil => exact List.nodup_nil
  | cons a l =>
    rw [List.eraseDups_cons, List.nodup_cons]
    exact ⟨fun ha => by simp at ha, nodup_eraseDups _⟩
termination_by l.length
decreasing_by
  have h := List.length_filter_le (fun b => !b == a) l
  simp only [List.length_cons]
  omega

theorem nodup_newlyInvalid (known patterns : List String) : (newlyInvalid known patterns).Nodup :=
  nodup_eraseDups _

theorem newlyInvalid_congr {known known' : List String} (h : ∀ p, p ∈ known ↔ p ∈ known')
    (patterns : List String) : newlyInvalid known patterns = newlyInvalid known' patterns := by
  simp only [newlyInvalid, h]

/-- What is met first is known to what is met after it. -/
theorem newlyInvalid_append (known ps qs : List String) :
    newlyInvalid known (ps ++ qs) = newlyInvalid known ps ++ newlyInvalid (known ++ ps) qs := by
  rw [newlyInvalid, List.filter_append, List.eraseDups_append, newlyInvalid, newlyInvalid,
    List.removeAll, List.filter_filter]
  congr 2
  refine List.filter_congr fun q hq => ?_
  cases h : Regex.compile q <;> by_cases hk : q ∈ known <;> simp [h, hk]

/-- The patterns that a cache knows. -/
def PatternCache.patterns (c : PatternCache) : List String := c.map Prod.fst

/-- A computation tries these patterns in this order. The cache knows them afterwards, and those are
reported that do not compile and were not known before. -/
def Tries {α : Type} (m : Logged PatternCache α) (patterns : List String) : Prop :=
  ∀ c : PatternCache, c.Faithful →
    (∀ p, p ∈ (m c).2.1.patterns ↔ p ∈ c.patterns ++ patterns) ∧
    (m c).2.2 = (newlyInvalid c.patterns patterns).map Matcher.invalidPattern

namespace Tries

variable {α β : Type}

theorem pure (a : α) : Tries (Pure.pure a) [] := fun c _ => ⟨fun p => by simp, rfl⟩

theorem bind {m : Logged PatternCache α} {f : α → Logged PatternCache β} {a : α}
    {ps qs : List String} (ha : Gives m a) (hm : Tries m ps) (hf : Tries (f a) qs) :
    Tries (m >>= f) (ps ++ qs) := by
  intro c hc
  obtain ⟨hvalue, hc'⟩ := ha c hc
  obtain ⟨hknown, hlog⟩ := hm c hc
  obtain ⟨hknown', hlog'⟩ := hf _ hc'
  simp only [Logged.bind_apply, hvalue]
  refine ⟨fun p => ?_, ?_⟩
  · rw [hknown', List.mem_append, hknown, ← List.mem_append, List.append_assoc]
  · rw [hlog, hlog', newlyInvalid_append, newlyInvalid_congr hknown, List.map_append]

/-- A computation that tries nothing may come last. -/
theorem bind_pure {m : Logged PatternCache α} {f : α → Logged PatternCache β} {a : α}
    {ps : List String} (ha : Gives m a) (hm : Tries m ps) (hf : ∃ b, f a = Pure.pure b) :
    Tries (m >>= f) ps := by
  obtain ⟨b, hb⟩ := hf
  have hlast : Tries (f a) [] := hb ▸ pure b
  simpa using bind ha hm hlast

end Tries

namespace Matcher

theorem tries_compiled (pattern : String) : Tries (compiled pattern) [pattern] := by
  intro c hc
  simp only [compiled, Logged.bind_apply, Logged.get_apply]
  cases h : c.find? fun p => p.1 = pattern with
  | some p =>
    have hknown : pattern ∈ c.patterns := by
      have hp : p.1 = pattern := by simpa using List.find?_some h
      exact hp ▸ List.mem_map_of_mem (List.mem_of_find?_eq_some h)
    have hnone : newlyInvalid c.patterns [pattern] = [] := by simp [newlyInvalid, hknown]
    rw [hnone]
    refine ⟨fun q => ?_, rfl⟩
    constructor
    · exact fun hq => List.mem_append_left _ hq
    · intro hq
      rcases List.mem_append.mp hq with hq | hq
      · exact hq
      · exact List.mem_singleton.mp hq ▸ hknown
  | none =>
    have hknown : pattern ∉ c.patterns := by
      intro hp
      obtain ⟨p, hpc, rfl⟩ := List.mem_map.mp hp
      simpa using List.find?_eq_none.mp h p hpc
    have hnew : ∀ q, q ∈ PatternCache.patterns ((pattern, Regex.compile pattern) :: c) ↔
        q ∈ c.patterns ++ [pattern] := by
      intro q
      simp [PatternCache.patterns, or_comm]
    cases hcompile : Regex.compile pattern with
    | some r =>
      rw [hcompile] at hnew
      exact ⟨hnew, by simp [newlyInvalid, hcompile]⟩
    | none =>
      rw [hcompile] at hnew
      exact ⟨hnew, by simp [newlyInvalid, hcompile, hknown, List.eraseDups_cons]⟩

/-- The patterns up to the first that is found in the text, with it. -/
def upToFound (text : String) (patterns : List String) : List String :=
  patterns.take (patterns.findIdx (fun p => decide (Found text p)) + 1)

theorem upToFound_cons (text p : String) (ps : List String) :
    upToFound text (p :: ps) = [p] ++ if Found text p then [] else upToFound text ps := by
  rw [upToFound, List.take_succ_cons, List.findIdx_cons]
  by_cases h : Found text p
  · simp [h]
  · simp [h, upToFound]

theorem tries_findsTerm (text : String) (ts : List (List Char)) :
    Tries (findsTerm text ts) (upToFound text (ts.map termPattern)) := by
  induction ts with
  | nil => exact Tries.pure false
  | cons t ts ih =>
    rw [List.map_cons, upToFound_cons]
    refine Tries.bind (gives_compiled _) (tries_compiled (termPattern t)) ?_
    cases hcompile : Regex.compile (termPattern t) with
    | none => simpa [Found, hcompile] using ih
    | some r =>
      cases hr : r.matchesText text with
      | true => simpa [Found, hcompile, hr] using Tries.pure true
      | false => simpa [Found, hcompile, hr] using ih

end Matcher

/-- One comparison that a matcher is asked for. -/
structure Comparison where
  op : Operator
  pattern : String
  text : String

namespace Comparison

/-- What a comparison comes to. An expression that does not compile is never matched, negated or not,
and a term that does not compile is not found. -/
def Holds (q : Comparison) : Prop :=
  match q.op with
  | .matchesRegex => ∃ r, Regex.compile q.pattern = some r ∧ r.matchesText q.text = true
  | .notMatchesRegex => ∃ r, Regex.compile q.pattern = some r ∧ ¬ r.matchesText q.text = true
  | .containsTerm => ∃ t, IsPiece ',' q.pattern.toList t ∧ Found q.text (termPattern t)
  | .notContainsTerm => ¬ ∃ t, IsPiece ',' q.pattern.toList t ∧ Found q.text (termPattern t)
  | .unknown _ => False

theorem holds_iff (q : Comparison) : q.op.holds q.pattern q.text = true ↔ q.Holds := by
  have hterms : ((terms q.pattern).any fun t =>
      ((Regex.compile (termPattern t)).map fun r => r.matchesText q.text).any id) = true ↔
      ∃ t, IsPiece ',' q.pattern.toList t ∧ Found q.text (termPattern t) := by
    simp only [List.any_eq_true, terms, Text.mem_pieces_iff, any_map_iff, Found, id]
  obtain ⟨op, pattern, text⟩ := q
  cases op with
  | matchesRegex => simp [Holds, Operator.holds, Operator.negated, any_map_iff]
  | notMatchesRegex => simp [Holds, Operator.holds, Operator.negated, any_map_iff]
  | containsTerm => simpa [Holds, Operator.holds, Operator.negated] using hterms
  | notContainsTerm => simpa [Holds, Operator.holds, Operator.negated] using not_congr hterms
  | unknown s => simp [Holds, Operator.holds]

/-- The patterns that a comparison tries: its expression, or the patterns of its terms up to the first
that is found. -/
def tried (q : Comparison) : List String :=
  match q.op with
  | .matchesRegex | .notMatchesRegex => [q.pattern]
  | .containsTerm | .notContainsTerm => Matcher.upToFound q.text ((terms q.pattern).map termPattern)
  | .unknown _ => []

/-- A comparison with a cache. -/
def run (q : Comparison) : Logged PatternCache Bool := Matcher.matchesText q.op q.pattern q.text

theorem gives_run (q : Comparison) : Gives q.run (q.op.holds q.pattern q.text) :=
  Matcher.gives_matchesText q.op q.pattern q.text

theorem tries_run (q : Comparison) : Tries q.run q.tried := by
  obtain ⟨op, pattern, text⟩ := q
  have regex : ∀ k : Option Regex → Logged PatternCache Bool, (∀ o, ∃ b, k o = pure b) →
      Tries (Matcher.compiled pattern >>= k) [pattern] := fun k hk =>
    Tries.bind_pure (Matcher.gives_compiled pattern) (Matcher.tries_compiled pattern) (hk _)
  have term : ∀ k : Bool → Bool, Tries (Matcher.findsTerm text (terms pattern) >>= fun b =>
      pure (k b)) (Matcher.upToFound text ((terms pattern).map termPattern)) := fun k =>
    Tries.bind_pure (Matcher.gives_findsTerm text _) (Matcher.tries_findsTerm text _) ⟨_, rfl⟩
  cases op with
  | matchesRegex => exact regex _ fun o => by cases o <;> exact ⟨_, rfl⟩
  | notMatchesRegex => exact regex _ fun o => by cases o <;> exact ⟨_, rfl⟩
  | containsTerm => exact term _
  | notContainsTerm => exact term _
  | unknown s => exact Tries.pure false

/-- The answers to comparisons made one after the other from a cache on, each with its events. -/
def answers : PatternCache → List Comparison → List (Bool × Log)
  | _, [] => []
  | c, q :: qs => ((q.run c).1, (q.run c).2.2) :: answers (q.run c).2.1 qs

theorem answers_getElem? (qs : List Comparison) {c : PatternCache} (hc : c.Faithful) (i : Nat) :
    (answers c qs)[i]? = qs[i]?.map fun q => (q.op.holds q.pattern q.text,
      (newlyInvalid (c.patterns ++ (qs.take i).flatMap tried) q.tried).map
        Matcher.invalidPattern) := by
  induction qs generalizing c i with
  | nil => rfl
  | cons q qs ih =>
    obtain ⟨hvalue, hc'⟩ := q.gives_run c hc
    obtain ⟨hknown, hlog⟩ := q.tries_run c hc
    cases i with
    | zero => simp [answers, hvalue, hlog]
    | succ i =>
      have hknown' : ∀ p, p ∈ (q.run c).2.1.patterns ++ (qs.take i).flatMap tried ↔
          p ∈ c.patterns ++ ((q :: qs).take (i + 1)).flatMap tried := by
        intro p
        simp only [List.mem_append, hknown, List.take_succ_cons, List.flatMap_cons, or_assoc]
      rw [answers, List.getElem?_cons_succ, List.getElem?_cons_succ, ih hc' i]
      simp only [newlyInvalid_congr hknown']

theorem flatMap_answers (qs : List Comparison) {c : PatternCache} (hc : c.Faithful) :
    (answers c qs).flatMap Prod.snd =
      (newlyInvalid c.patterns (qs.flatMap tried)).map Matcher.invalidPattern := by
  induction qs generalizing c with
  | nil => rfl
  | cons q qs ih =>
    obtain ⟨-, hc'⟩ := q.gives_run c hc
    obtain ⟨hknown, hlog⟩ := q.tries_run c hc
    rw [answers, List.flatMap_cons, List.flatMap_cons, ih hc', newlyInvalid_append,
      newlyInvalid_congr hknown, hlog, List.map_append]

/-- Whatever was asked before, every comparison comes to what it comes to from the start. Each pattern
that does not compile is reported as an error just once, by the first comparison that tries it and in
the order in which that one tries its patterns. Nothing else is reported. -/
theorem answers_exact (qs : List Comparison) :
    (∀ q : Comparison, (q.run []).1 = q.op.holds q.pattern q.text ∧
      ((q.run []).1 = true ↔ q.Holds)) ∧
    (∀ i, (answers [] qs)[i]? = qs[i]?.map fun q => ((q.run []).1,
      (newlyInvalid ((qs.take i).flatMap tried) q.tried).map fun p =>
        ⟨.error, "invalid pattern in killfile, rule will not match", [("pattern", .text p)]⟩)) ∧
    ((answers [] qs).flatMap Prod.snd = (newlyInvalid [] (qs.flatMap tried)).map fun p =>
      ⟨.error, "invalid pattern in killfile, rule will not match", [("pattern", .text p)]⟩) ∧
    (newlyInvalid [] (qs.flatMap tried)).Nodup ∧
    ∀ p, p ∈ newlyInvalid [] (qs.flatMap tried) ↔
      Regex.compile p = none ∧ ∃ q ∈ qs, p ∈ q.tried := by
  have hfresh : ∀ q : Comparison, (q.run []).1 = q.op.holds q.pattern q.text := fun q =>
    (q.gives_run [] PatternCache.faithful_nil).1
  refine ⟨fun q => ⟨hfresh q, ?_⟩, fun i => ?_, ?_, nodup_newlyInvalid _ _, fun p => ?_⟩
  · rw [hfresh, holds_iff]
  · simp only [hfresh]
    exact answers_getElem? qs PatternCache.faithful_nil i
  · exact flatMap_answers qs PatternCache.faithful_nil
  · rw [mem_newlyInvalid, List.mem_flatMap]
    simp [and_comm]

/-- An expression that does not compile matches nothing, negated or not, and is reported once. -/
example : answers [] [⟨.matchesRegex, "[", "Moon"⟩, ⟨.notMatchesRegex, "[", "Moon"⟩] =
    [(false, [⟨.error, "invalid pattern in killfile, rule will not match", [("pattern", .text "[")]⟩]),
      (false, [])] := by
  decide +kernel

end Comparison

end Killfile

import Mathlib.Data.List.FinRange
import Killfile.Client
import Killfile.Pass
import Killfile.Proofs.Comparison
import Killfile.Proofs.KillSet
import Killfile.Reader.Memory

/-! The log of an evaluation. It tells of every match of a rule in force with an entry, in the order of
the rules and then of the entries, and so of every id in the kill set. Beside the matches it tells only
of patterns that do not compile, of each once, and in a whole pass, where the cache goes from feed to
feed, none is told twice either. -/

namespace Killfile

/-- A computation reports these matches in this order. Besides, it reports of the patterns that it
tries those that do not compile and were not known before, and nothing else. -/
def Reports {α : Type} (m : Logged PatternCache α) (found : Log) (patterns : List String) : Prop :=
  ∀ c : PatternCache, c.Faithful →
    (∀ p, p ∈ (m c).2.1.patterns ↔ p ∈ c.patterns ++ patterns) ∧
    (m c).2.2.filter (fun e => e.level = .info) = found ∧
    (m c).2.2.filter (fun e => e.level ≠ .info) =
      (newlyInvalid c.patterns patterns).map Matcher.invalidPattern

theorem Tries.reports {α : Type} {m : Logged PatternCache α} {patterns : List String}
    (h : Tries m patterns) : Reports m [] patterns := by
  intro c hc
  obtain ⟨hknown, hlog⟩ := h c hc
  rw [hlog]
  refine ⟨hknown, ?_, ?_⟩
  · rw [List.filter_eq_nil_iff]
    intro e he
    obtain ⟨p, -, rfl⟩ := List.mem_map.mp he
    simp [Matcher.invalidPattern]
  · rw [List.filter_eq_self]
    intro e he
    obtain ⟨p, -, rfl⟩ := List.mem_map.mp he
    simp [Matcher.invalidPattern]

namespace Reports

variable {α β : Type}

theorem pure (a : α) : Reports (Pure.pure a) [] [] := (Tries.pure a).reports

theorem found {e : Event} (h : e.level = .info) : Reports (Logged.report e) [e] [] := by
  intro c hc
  refine ⟨fun p => by simp, ?_, ?_⟩
  · simp [h]
  · simp [h, newlyInvalid]

theorem bind {m : Logged PatternCache α} {k : α → Logged PatternCache β} {a : α}
    {es es' : Log} {ps qs : List String} (ha : Gives m a) (hm : Reports m es ps)
    (hk : Reports (k a) es' qs) : Reports (m >>= k) (es ++ es') (ps ++ qs) := by
  intro c hc
  obtain ⟨hvalue, hc'⟩ := ha c hc
  obtain ⟨hknown, hinfo, herror⟩ := hm c hc
  obtain ⟨hknown', hinfo', herror'⟩ := hk _ hc'
  simp only [Logged.bind_apply, hvalue, List.filter_append]
  refine ⟨fun p => ?_, ?_, ?_⟩
  · rw [hknown', List.mem_append, hknown, ← List.mem_append, List.append_assoc]
  · rw [hinfo, hinfo']
  · rw [herror, herror', newlyInvalid_append, newlyInvalid_congr hknown, List.map_append]

end Reports

namespace Rule

/-- The patterns that a rule tries on texts, up to the first text that it matches. -/
def tried (r : Rule) : List String → List String
  | [] => []
  | t :: ts => Comparison.tried ⟨r.operator, r.pattern, t⟩ ++
      if r.operator.holds r.pattern t then [] else r.tried ts

/-- The patterns that a rule tries on entries. -/
def triedOn (es : List Entry) (r : Rule) : List String :=
  es.flatMap fun e => r.tried (texts r.attr e)

/-- The events of the entries that a rule matches. -/
def matchEvents (f : Feed) (es : List Entry) (r : Rule) : Log :=
  (es.filter fun e => decide (r.HoldsOf e)).map (r.matchEvent f)

theorem tries_matchesSome (r : Rule) (ts : List String) : Tries (r.matchesSome ts) (r.tried ts) := by
  induction ts with
  | nil => exact Tries.pure false
  | cons t ts ih =>
    refine Tries.bind (Matcher.gives_matchesText r.operator r.pattern t)
      (Comparison.tries_run ⟨r.operator, r.pattern, t⟩) ?_
    cases h : r.operator.holds r.pattern t with
    | true => exact Tries.pure true
    | false => exact ih

theorem tries_matchesEntry (r : Rule) (e : Entry) :
    Tries (r.matchesEntry e) (r.tried (texts r.attr e)) := tries_matchesSome r (texts r.attr e)

theorem reports_addMatches (r : Rule) (f : Feed) (es : List Entry) (ids : List Int) :
    Reports (r.addMatches f es ids) (matchEvents f es r) (triedOn es r) := by
  induction es generalizing ids with
  | nil => exact Reports.pure ids
  | cons e es ih =>
    have hentry := (tries_matchesEntry r e).reports
    by_cases h : r.HoldsOf e
    · have hevents : matchEvents f (e :: es) r = [] ++ ([r.matchEvent f e] ++ matchEvents f es r) := by
        simp [matchEvents, h]
      rw [hevents]
      refine Reports.bind (gives_matchesEntry r e) hentry ?_
      simp only [h, decide_true, ↓reduceIte]
      exact Reports.bind (Gives.report _) (Reports.found rfl) (ih _)
    · have hevents : matchEvents f (e :: es) r = [] ++ matchEvents f es r := by
        simp [matchEvents, h]
      rw [hevents]
      refine Reports.bind (gives_matchesEntry r e) hentry ?_
      simp only [h, decide_false, Bool.false_eq_true, ↓reduceIte]
      exact ih ids

theorem reports_killFrom_selected (f : Feed) (es : List Entry) (rules : List Rule)
    (ids : List Int) : Reports (killFrom f es true rules ids) (rules.flatMap (matchEvents f es))
      (rules.flatMap (triedOn es)) := by
  induction rules generalizing ids with
  | nil => exact Reports.pure ids
  | cons r rules ih =>
    rw [List.flatMap_cons, List.flatMap_cons]
    exact Reports.bind (gives_addMatches r f es ids) (reports_addMatches r f es ids) (ih _)

theorem reports_killFrom (f : Feed) (es : List Entry) (rules : List Rule) (ids : List Int) :
    Reports (killFrom f es false rules ids) ((inForce f rules).flatMap (matchEvents f es))
      ((inForce f rules).flatMap (triedOn es)) := by
  induction rules with
  | nil => exact Reports.pure ids
  | cons r rules ih =>
    cases h : r.selects f with
    | true =>
      have hk : killFrom f es false (r :: rules) ids = killFrom f es true (r :: rules) ids := by
        simp [killFrom, h]
      rw [hk, inForce_cons_of_selects h]
      exact reports_killFrom_selected f es (r :: rules) ids
    | false =>
      rw [inForce_cons_of_not_selects h, killFrom]
      simpa [h] using ih

theorem reports_killSet (rules : List Rule) (f : Feed) (es : List Entry) :
    Reports (killSet rules f es) ((inForce f rules).flatMap (matchEvents f es))
      ((inForce f rules).flatMap (triedOn es)) := reports_killFrom f es rules []

/-- The events of matches name the ids of the kill set. -/
theorem mem_killed_iff_event {rules : List Rule} {f : Feed} {es : List Entry} {n : Int} :
    n ∈ killed rules f es ↔ ∃ e ∈ (inForce f rules).flatMap (matchEvents f es),
      ("entry_id", .int n) ∈ e.fields := by
  simp only [mem_killed_iff_inForce, List.mem_flatMap, matchEvents, List.mem_map, List.mem_filter,
    decide_eq_true_iff]
  constructor
  · rintro ⟨r, hr, e, he, rfl, hre⟩
    exact ⟨_, ⟨r, hr, e, ⟨he, hre⟩, rfl⟩, by simp [matchEvent]⟩
  · rintro ⟨_, ⟨r, hr, e, ⟨he, hre⟩, rfl⟩, hfield⟩
    have hid : n = e.id := by simpa [matchEvent] using hfield
    exact ⟨r, hr, e, he, hid.symm, hre⟩

/-- The rule at a place, or one before it, selects a feed. -/
def InForceAt (rules : List Rule) (f : Feed) (j : Fin rules.length) : Prop :=
  ∃ i, i ≤ j ∧ (rules.get i).selects f = true

instance (rules : List Rule) (f : Feed) (j : Fin rules.length) : Decidable (InForceAt rules f j) :=
  inferInstanceAs (Decidable (∃ i, i ≤ j ∧ (rules.get i).selects f = true))

section

variable {f : Feed} {r : Rule} {rules : List Rule}

theorem inForceAt_of_selects (h : r.selects f = true) (j : Fin (rules.length + 1)) :
    InForceAt (r :: rules) f j := ⟨0, Fin.zero_le j, h⟩

theorem not_inForceAt_zero (h : r.selects f = false) :
    ¬ InForceAt (r :: rules) f (0 : Fin (rules.length + 1)) := by
  rintro ⟨i, hi, hsel⟩
  obtain rfl : i = (0 : Fin (rules.length + 1)) := Fin.le_zero_iff.mp hi
  exact Bool.false_ne_true (h.symm.trans hsel)

theorem inForceAt_succ (h : r.selects f = false) (j : Fin rules.length) :
    InForceAt (r :: rules) f j.succ ↔ InForceAt rules f j := by
  constructor
  · rintro ⟨i, hi, hsel⟩
    cases i using Fin.cases with
    | zero => exact absurd (h.symm.trans hsel) Bool.false_ne_true
    | succ i => exact ⟨i, Fin.succ_le_succ_iff.mp hi, hsel⟩
  · rintro ⟨i, hi, hsel⟩
    exact ⟨i.succ, Fin.succ_le_succ_iff.mpr hi, hsel⟩

end

/-- The pairs of a rule in force and an entry that it matches. -/
def killPairs (rules : List Rule) (f : Feed) (es : List Entry) :
    List (Fin rules.length × Fin es.length) :=
  (List.finRange rules.length).flatMap fun j =>
    ((List.finRange es.length).filter fun k =>
      decide (InForceAt rules f j ∧ (rules.get j).HoldsOf (es.get k))).map (Prod.mk j)

theorem mem_killPairs {rules : List Rule} {f : Feed} {es : List Entry} {j : Fin rules.length}
    {k : Fin es.length} :
    (j, k) ∈ killPairs rules f es ↔ InForceAt rules f j ∧ (rules.get j).HoldsOf (es.get k) := by
  simp [killPairs]

/-- The pairs go through the rules in order, and for each through the entries in order. -/
theorem pairwise_killPairs (rules : List Rule) (f : Feed) (es : List Entry) :
    (killPairs rules f es).Pairwise (Prod.Lex (· < ·) (· < ·)) := by
  rw [killPairs, List.pairwise_flatMap]
  constructor
  · intro j _
    rw [List.pairwise_map]
    exact ((List.pairwise_lt_finRange _).filter _).imp fun hlt => Prod.Lex.right _ hlt
  · refine (List.pairwise_lt_finRange _).imp ?_
    intro j j' hlt p hp q hq
    obtain ⟨k, -, rfl⟩ := List.mem_map.mp hp
    obtain ⟨k', -, rfl⟩ := List.mem_map.mp hq
    exact Prod.Lex.left _ _ hlt

/-- Going through all places of rules and leaving out those before the first that selects the feed is
going through the rules in force. -/
theorem flatMap_inForce {β : Type} (f : Feed) (rules : List Rule) (g : Rule → List β) :
    ((List.finRange rules.length).flatMap fun j =>
      if InForceAt rules f j then g (rules.get j) else []) = (inForce f rules).flatMap g := by
  induction rules with
  | nil => rfl
  | cons r rules ih =>
    have hplaces : List.finRange (r :: rules).length =
        (0 : Fin (rules.length + 1)) :: (List.finRange rules.length).map Fin.succ :=
      List.finRange_succ
    rw [hplaces, List.flatMap_cons, List.flatMap_map]
    cases h : r.selects f with
    | true =>
      -- All places from here on are in force.
      have hlater : (List.finRange rules.length).flatMap (fun j => g (rules.get j)) = rules.flatMap g := by
        have hrules := congrArg (List.flatMap g) (List.map_get_finRange rules)
        rwa [List.flatMap_map] at hrules
      rw [inForce_cons_of_selects h, List.flatMap_cons, if_pos (inForceAt_of_selects h 0), ← hlater]
      refine congrArg (g r ++ ·) (List.flatMap_congr fun j _ => ?_)
      exact if_pos (inForceAt_of_selects h j.succ)
    | false =>
      -- The place of `r` gives nothing, and the others are those of `rules` moved by one.
      rw [inForce_cons_of_not_selects h, if_neg (not_inForceAt_zero h), List.nil_append, ← ih]
      refine List.flatMap_congr fun j _ => ?_
      simp only [inForceAt_succ h]
      rfl

/-- The events of a rule, by the places of the entries. -/
theorem map_finRange_matchEvent (f : Feed) (es : List Entry) (r : Rule) :
    ((List.finRange es.length).filter fun k => decide (r.HoldsOf (es.get k))).map
      (fun k => r.matchEvent f (es.get k)) = matchEvents f es r := by
  have hes := congrArg (fun l => matchEvents f l r) (List.map_get_finRange es)
  simp only [matchEvents, List.filter_map, List.map_map] at hes
  exact hes

theorem map_killPairs (rules : List Rule) (f : Feed) (es : List Entry) :
    (killPairs rules f es).map (fun p => (rules.get p.1).matchEvent f (es.get p.2)) =
      (inForce f rules).flatMap (matchEvents f es) := by
  rw [← flatMap_inForce, killPairs, List.map_flatMap]
  refine List.flatMap_congr fun j _ => ?_
  rw [List.map_map]
  split
  · next hsel =>
    rw [← map_finRange_matchEvent]
    simp only [hsel, true_and]
    rfl
  · next hsel =>
    simp only [hsel, false_and, decide_false, List.filter_false, List.map_nil]

end Rule

end Killfile

import Killfile.Proofs.KillSet

/-! Entries that every rule matches. Whether all rules match an entry does not depend on what they
select, and each of them would kill the entry if it were for all feeds. In a feed that some rule selects
such an entry is in the kill set, since that rule is in force. Where no rule selects the feed nothing is
compared at all. -/

namespace Killfile

namespace Rule

/-- The same rule for all feeds. -/
def forAllFeeds (r : Rule) : Rule := { r with selector := "*" }

variable {f : Feed} {e : Entry} {es : List Entry} {r : Rule} {rules : List Rule}

@[simp] theorem selects_forAllFeeds (r : Rule) (f : Feed) : r.forAllFeeds.selects f = true := by
  simp [forAllFeeds, selects]

/-- What a rule selects does not count when it is compared with an entry. -/
@[simp] theorem holdsOf_forAllFeeds : r.forAllFeeds.HoldsOf e ↔ r.HoldsOf e := Iff.rfl

theorem anySelects_iff : anySelects rules f = true ↔ ∃ r ∈ rules, r.selects f = true :=
  List.any_eq_true

theorem mem_inForce_of_selects (hr : r ∈ rules) (h : r.selects f = true) : r ∈ inForce f rules := by
  obtain ⟨i, hi, rfl⟩ := List.getElem_of_mem hr
  exact mem_inForce.mpr ⟨⟨i, hi⟩, ⟨i, hi⟩, le_refl _, h, rfl⟩

theorem mem_killed_forAllFeeds {n : Int} :
    n ∈ killed [r.forAllFeeds] f es ↔ ∃ e ∈ es, e.id = n ∧ r.HoldsOf e := by
  rw [mem_killed_iff_inForce, inForce_cons_of_selects (selects_forAllFeeds r f)]
  simp only [List.mem_singleton, exists_eq_left, holdsOf_forAllFeeds]

/-- The rule that selects the feed is in force, and it matches the entry as all others do. -/
theorem mem_killed_of_forall (h : anySelects rules f = true) (hall : ∀ r ∈ rules, r.HoldsOf e)
    (he : e ∈ es) : e.id ∈ killed rules f es := by
  obtain ⟨r, hr, hselects⟩ := anySelects_iff.mp h
  exact mem_killed_iff_inForce.mpr ⟨r, mem_inForce_of_selects hr hselects, e, he, rfl, hall r hr⟩

/-- Rules that do not select the feed are passed over, without a look at the cache. -/
theorem killFrom_of_not_anySelects (h : anySelects rules f = false) (es : List Entry)
    (ids : List Int) (c : PatternCache) : killFrom f es false rules ids c = (ids, c, []) := by
  induction rules with
  | nil => rfl
  | cons r rules ih =>
    obtain ⟨hr, hrules⟩ : r.selects f = false ∧ anySelects rules f = false := by
      simpa [anySelects] using h
    simpa [killFrom, hr] using ih hrules

/-- All rules match an entry when each of them alone does, whatever they select and whatever the cache
was used for before: when each rule, if it were for all feeds, would kill the entry. If some rule selects
a feed, an entry that all rules match is in the kill set of the feed, with any other entries beside it.
If none does, the kill set is empty, nothing is reported and the cache stays as it is. -/
theorem allMatch_beside_killSet (history history' : List Evaluation) (e : Entry) (rules : List Rule)
    (f : Feed) :
    ((allMatch e rules (.ofHistory history)).1 = true ↔ ∀ r ∈ rules, r.HoldsOf e) ∧
    ((allMatch e rules (.ofHistory history)).1 = true ↔
      ∀ r ∈ rules, (r.matchesEntry e (.ofHistory history')).1 = true) ∧
    ((allMatch e rules (.ofHistory history)).1 = true ↔
      ∀ r ∈ rules, e.id ∈ (killSet [r.forAllFeeds] f [e] (.ofHistory history')).1) ∧
    (∀ es, e ∈ es → (allMatch e rules (.ofHistory history)).1 = true →
      (∀ r ∈ rules, e.id ∈ (killSet [r.forAllFeeds] f es (.ofHistory history')).1) ∧
      (anySelects rules f = true → e.id ∈ (killSet rules f es (.ofHistory history')).1)) ∧
    (anySelects rules f = false → ∀ es c, killSet rules f es c = ([], c, [])) := by
  have hall : (allMatch e rules (.ofHistory history)).1 = true ↔ ∀ r ∈ rules, r.HoldsOf e := by
    rw [(gives_allMatch e rules _ (PatternCache.faithful_ofHistory history)).1, decide_eq_true_iff]
  have hmatches (r : Rule) : (r.matchesEntry e (.ofHistory history')).1 = true ↔ r.HoldsOf e := by
    rw [(gives_matchesEntry r e _ (PatternCache.faithful_ofHistory history')).1, decide_eq_true_iff]
  have hkilled (rules : List Rule) (es : List Entry) :
      (killSet rules f es (.ofHistory history')).1 = killed rules f es :=
    (gives_killSet rules f es _ (PatternCache.faithful_ofHistory history')).1
  have halone (r : Rule) : e.id ∈ (killSet [r.forAllFeeds] f [e] (.ofHistory history')).1 ↔
      r.HoldsOf e := by
    rw [hkilled, mem_killed_forAllFeeds]
    simp only [List.mem_singleton, exists_eq_left, true_and]
  refine ⟨hall, hall.trans (forall₂_congr fun r _ => (hmatches r).symm),
    hall.trans (forall₂_congr fun r _ => (halone r).symm), fun es he hmatch => ⟨fun r hr => ?_, ?_⟩, ?_⟩
  · rw [hkilled, mem_killed_forAllFeeds]
    exact ⟨e, he, rfl, hall.mp hmatch r hr⟩
  · intro hselects
    rw [hkilled]
    exact mem_killed_of_forall hselects (hall.mp hmatch) he
  · exact fun hnone es c => killFrom_of_not_anySelects hnone es [] c

/-- A rule for all feeds on the beginning of titles. -/
def landingRule : Rule := ofFields "ignore-article" "*" "title" "=~" "^Moon"

/-- An entry that a rule for another feed and a rule for all feeds match is killed by them, and not by
the rule for the other feed alone. -/
theorem allMatch_beside_killSet_moon :
    moonEntry ∈ [sunEntry, moonEntry] ∧
    (allMatch moonEntry [sampleRules[2], landingRule] (.ofHistory [])).1 = true ∧
    anySelects [sampleRules[2], landingRule] sampleFeed = true ∧
    moonEntry.id ∈ (killSet [sampleRules[2], landingRule] sampleFeed [sunEntry, moonEntry]
      (.ofHistory [.allMatch moonEntry [sampleRules[2], landingRule]])).1 ∧
    anySelects [sampleRules[2]] sampleFeed = false ∧
    killSet [sampleRules[2]] sampleFeed [sunEntry, moonEntry] [("[", none)] =
      ([], [("[", none)], []) := by
  obtain ⟨hall, -, -, hkilled, -⟩ := allMatch_beside_killSet []
    [.allMatch moonEntry [sampleRules[2], landingRule]] moonEntry [sampleRules[2], landingRule]
    sampleFeed
  obtain ⟨-, -, -, -, hnone⟩ := allMatch_beside_killSet [] [] moonEntry [sampleRules[2]] sampleFeed
  have hmem : moonEntry ∈ [sunEntry, moonEntry] := by simp
  have hmatch : (allMatch moonEntry [sampleRules[2], landingRule] (.ofHistory [])).1 = true :=
    hall.mpr (by decide +kernel)
  have hselects : anySelects [sampleRules[2], landingRule] sampleFeed = true := by decide +kernel
  have hother : anySelects [sampleRules[2]] sampleFeed = false := by decide +kernel
  exact ⟨hmem, hmatch, hselects, (hkilled _ hmem hmatch).2 hselects, hother, hnone hother _ _⟩

end Rule

end Killfile

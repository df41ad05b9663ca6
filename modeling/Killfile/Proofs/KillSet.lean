import Mathlib.Data.List.Sort
import Mathlib.Data.Fin.Basic
import Killfile.Proofs.Cache

/-! The kill set. It holds the ids of exactly those entries that a rule in force matches, where the
rules in force for a feed are those from the first one on that selects it. Neither the cache nor the
order of the entries shows in it. -/

namespace Killfile

theorem mem_insertId {n m : Int} {l : List Int} : m ∈ insertId n l ↔ m = n ∨ m ∈ l := by
  induction l with
  | nil => simp [insertId]
  | cons k l ih =>
    rw [insertId]
    split_ifs with h h'
    · simp
    · subst h'
      simp
    · simp [ih, or_left_comm]

theorem pairwise_insertId (n : Int) {l : List Int} (h : l.Pairwise (· < ·)) :
    (insertId n l).Pairwise (· < ·) := by
  induction l with
  | nil => simp [insertId]
  | cons k l ih =>
    obtain ⟨hk, hl⟩ := List.pairwise_cons.mp h
    rw [insertId]
    split_ifs with h₁ h₂
    · exact List.pairwise_cons.mpr ⟨fun m hm => by
        rcases List.mem_cons.mp hm with rfl | hm
        · exact h₁
        · exact h₁.trans (hk m hm), h⟩
    · exact h
    · refine List.pairwise_cons.mpr ⟨fun m hm => ?_, ih hl⟩
      rcases mem_insertId.mp hm with rfl | hm
      · omega
      · exact hk m hm

/-- Inserts several ids one after the other. -/
def insertIds (new ids : List Int) : List Int := new.foldl (fun l n => insertId n l) ids

@[simp] theorem insertIds_nil (ids : List Int) : insertIds [] ids = ids := rfl

@[simp] theorem insertIds_cons (n : Int) (new ids : List Int) :
    insertIds (n :: new) ids = insertIds new (insertId n ids) := rfl

theorem insertIds_append (new new' ids : List Int) :
    insertIds (new ++ new') ids = insertIds new' (insertIds new ids) := List.foldl_append

theorem mem_insertIds {new ids : List Int} {m : Int} :
    m ∈ insertIds new ids ↔ m ∈ new ∨ m ∈ ids := by
  induction new generalizing ids with
  | nil => simp
  | cons n new ih => rw [insertIds_cons, ih, mem_insertId, List.mem_cons, or_left_comm, or_assoc]

theorem pairwise_insertIds (new : List Int) {ids : List Int} (h : ids.Pairwise (· < ·)) :
    (insertIds new ids).Pairwise (· < ·) := by
  induction new generalizing ids with
  | nil => exact h
  | cons n new ih => exact ih (pairwise_insertId n h)

namespace Rule

/-- The rules from the first one on that selects a feed. -/
def inForce (f : Feed) (rules : List Rule) : List Rule := rules.dropWhile fun r => !r.selects f

theorem inForce_cons_of_selects {f : Feed} {r : Rule} (h : r.selects f = true) (rules : List Rule) :
    inForce f (r :: rules) = r :: rules := by simp [inForce, h]

theorem inForce_cons_of_not_selects {f : Feed} {r : Rule} (h : r.selects f = false)
    (rules : List Rule) : inForce f (r :: rules) = inForce f rules := by simp [inForce, h]

theorem inForce_append_of_selects {f : Feed} {rules : List Rule}
    (h : ∃ r ∈ rules, r.selects f = true) (rules' : List Rule) :
    inForce f (rules ++ rules') = inForce f rules ++ rules' := by
  obtain ⟨r, hr, hf⟩ := h
  induction rules with
  | nil => exact absurd hr List.not_mem_nil
  | cons q rules ih =>
    cases hq : q.selects f with
    | true => simp only [List.cons_append, inForce_cons_of_selects hq]
    | false =>
      rw [List.cons_append, inForce_cons_of_not_selects hq, inForce_cons_of_not_selects hq]
      rcases List.mem_cons.mp hr with rfl | hr
      · exact absurd (hq.symm.trans hf) Bool.false_ne_true
      · exact ih hr

theorem inForce_append_of_not_selects {f : Feed} {rules : List Rule}
    (h : ∀ r ∈ rules, r.selects f = false) (rules' : List Rule) :
    inForce f (rules ++ rules') = inForce f rules' :=
  List.dropWhile_append_of_pos fun r hr => by simp [h r hr]

theorem inForce_subset (f : Feed) (rules : List Rule) : inForce f rules ⊆ rules :=
  (List.dropWhile_sublist _).subset

/-- A rule is in force when it or one before it selects the feed. -/
theorem mem_inForce {f : Feed} {rules : List Rule} {r : Rule} :
    r ∈ inForce f rules ↔ ∃ i j : Fin rules.length, i ≤ j ∧ rules[i].selects f = true ∧
      rules[j] = r := by
  induction rules with
  | nil =>
    simp only [inForce, List.dropWhile_nil, List.not_mem_nil, false_iff]
    rintro ⟨i, -⟩
    exact i.elim0
  | cons q rules ih =>
    cases hq : q.selects f with
    | true =>
      rw [inForce_cons_of_selects hq]
      constructor
      · intro h
        obtain ⟨j, hj, hr⟩ := List.getElem_of_mem h
        exact ⟨⟨0, by simp⟩, ⟨j, hj⟩, Nat.zero_le j, hq, hr⟩
      · rintro ⟨-, j, -, -, rfl⟩
        exact List.getElem_mem j.isLt
    | false =>
      rw [inForce_cons_of_not_selects hq, ih]
      constructor
      · rintro ⟨i, j, hij, hi, hj⟩
        exact ⟨i.succ, j.succ, Fin.succ_le_succ_iff.mpr hij, hi, hj⟩
      · rintro ⟨i, j, hij, hi, hj⟩
        cases i using Fin.cases with
        | zero => exact absurd (hq.symm.trans hi) Bool.false_ne_true
        | succ i =>
          cases j using Fin.cases with
          | zero => exact absurd hij (by simp)
          | succ j => exact ⟨i, j, Fin.succ_le_succ_iff.mp hij, hi, hj⟩

/-- The ids of the entries that a rule matches. -/
def matchedIds (es : List Entry) (r : Rule) : List Int :=
  (es.filter fun e => decide (r.HoldsOf e)).map (·.id)

theorem mem_matchedIds {es : List Entry} {r : Rule} {n : Int} :
    n ∈ matchedIds es r ↔ ∃ e ∈ es, e.id = n ∧ r.HoldsOf e := by
  simp only [matchedIds, List.mem_map, List.mem_filter, decide_eq_true_eq]
  constructor
  · rintro ⟨e, ⟨he, hr⟩, hn⟩
    exact ⟨e, he, hn, hr⟩
  · rintro ⟨e, he, hn, hr⟩
    exact ⟨e, ⟨he, hr⟩, hn⟩

theorem gives_addMatches (r : Rule) (f : Feed) (es : List Entry) (ids : List Int) :
    Gives (r.addMatches f es ids) (insertIds (matchedIds es r) ids) := by
  induction es generalizing ids with
  | nil => exact Gives.pure ids
  | cons e es ih =>
    refine Gives.bind (gives_matchesEntry r e) ?_
    by_cases h : r.HoldsOf e
    · simpa [h, matchedIds] using
        Gives.bind (Gives.report (r.matchEvent f e)) (ih (insertId e.id ids))
    · simpa [h, matchedIds] using ih ids

theorem gives_killFrom_selected (f : Feed) (es : List Entry) (rules : List Rule) (ids : List Int) :
    Gives (killFrom f es true rules ids) (insertIds (rules.flatMap (matchedIds es)) ids) := by
  induction rules generalizing ids with
  | nil => exact Gives.pure ids
  | cons r rules ih =>
    rw [List.flatMap_cons, insertIds_append]
    exact Gives.bind (gives_addMatches r f es ids) (ih _)

theorem gives_killFrom (f : Feed) (es : List Entry) (rules : List Rule) (ids : List Int) :
    Gives (killFrom f es false rules ids)
      (insertIds ((inForce f rules).flatMap (matchedIds es)) ids) := by
  induction rules with
  | nil => exact Gives.pure ids
  | cons r rules ih =>
    cases h : r.selects f with
    | true =>
      -- From here on the rules are applied whatever they select.
      have hk : killFrom f es false (r :: rules) ids = killFrom f es true (r :: rules) ids := by
        simp [killFrom, h]
      rw [hk, inForce_cons_of_selects h]
      exact gives_killFrom_selected f es (r :: rules) ids
    | false =>
      rw [inForce_cons_of_not_selects h, killFrom]
      simpa [h] using ih

/-- The kill set as the rules and entries alone determine it. -/
def killed (rules : List Rule) (f : Feed) (es : List Entry) : List Int :=
  insertIds ((inForce f rules).flatMap (matchedIds es)) []

theorem gives_killSet (rules : List Rule) (f : Feed) (es : List Entry) :
    Gives (killSet rules f es) (killed rules f es) := gives_killFrom f es rules []

theorem pairwise_killed (rules : List Rule) (f : Feed) (es : List Entry) :
    (killed rules f es).Pairwise (· < ·) := pairwise_insertIds _ List.Pairwise.nil

theorem mem_killed_iff_inForce {rules : List Rule} {f : Feed} {es : List Entry} {n : Int} :
    n ∈ killed rules f es ↔ ∃ r ∈ inForce f rules, ∃ e ∈ es, e.id = n ∧ r.HoldsOf e := by
  simp only [killed, mem_insertIds, List.not_mem_nil, or_false, List.mem_flatMap, mem_matchedIds]

theorem mem_killed {rules : List Rule} {f : Feed} {es : List Entry} {n : Int} :
    n ∈ killed rules f es ↔ ∃ e ∈ es, e.id = n ∧ ∃ i j : Fin rules.length, i ≤ j ∧
      rules[i].selects f = true ∧ rules[j].HoldsOf e := by
  rw [mem_killed_iff_inForce]
  constructor
  · rintro ⟨r, hr, e, he, hn, hre⟩
    obtain ⟨i, j, hij, hi, rfl⟩ := mem_inForce.mp hr
    exact ⟨e, he, hn, i, j, hij, hi, hre⟩
  · rintro ⟨e, he, hn, i, j, hij, hi, hj⟩
    exact ⟨rules[j], mem_inForce.mpr ⟨i, j, hij, hi, rfl⟩, e, he, hn, hj⟩

theorem killed_congr (rules : List Rule) (f : Feed) {es es' : List Entry}
    (h : ∀ e, e ∈ es' ↔ e ∈ es) : killed rules f es' = killed rules f es := by
  refine (pairwise_killed rules f es').eq_of_mem_iff (pairwise_killed rules f es) fun n => ?_
  simp only [mem_killed, h]

end Rule

/-- What one and the same cache is used for. -/
inductive Evaluation where
  | matchesText (op : Operator) (pattern text : String)
  | killSet (rules : List Rule) (f : Feed) (es : List Entry)
  | allMatch (e : Entry) (rules : List Rule)
  | matchesEntry (r : Rule) (e : Entry)

/-- The cache that an evaluation leaves behind. -/
def Evaluation.after (c : PatternCache) : Evaluation → PatternCache
  | .matchesText op pattern text => (Matcher.matchesText op pattern text c).2.1
  | .killSet rules f es => (Rule.killSet rules f es c).2.1
  | .allMatch e rules => (Rule.allMatch e rules c).2.1
  | .matchesEntry r e => (r.matchesEntry e c).2.1

/-- The cache after a whole history, which begins without any patterns. -/
def PatternCache.ofHistory (history : List Evaluation) : PatternCache :=
  history.foldl Evaluation.after []

theorem Evaluation.faithful_after (v : Evaluation) {c : PatternCache} (h : c.Faithful) :
    (v.after c).Faithful := by
  cases v with
  | matchesText op pattern text => exact (Matcher.gives_matchesText op pattern text c h).2
  | killSet rules f es => exact (Rule.gives_killSet rules f es c h).2
  | allMatch e rules => exact (Rule.gives_allMatch e rules c h).2
  | matchesEntry r e => exact (Rule.gives_matchesEntry r e c h).2

theorem PatternCache.faithful_ofHistory (history : List Evaluation) :
    (ofHistory history).Faithful := by
  have run : ∀ (l : List Evaluation) (c : PatternCache), c.Faithful →
      (l.foldl Evaluation.after c).Faithful := by
    intro l
    induction l with
    | nil => exact fun c h => h
    | cons v l ih => exact fun c h => ih _ (v.faithful_after h)
  exact run history [] faithful_nil

theorem Matcher.matchesText_ofHistory (history : List Evaluation) (op : Operator)
    (pattern text : String) :
    (matchesText op pattern text (.ofHistory history)).1 = op.holds pattern text :=
  (gives_matchesText op pattern text _ (PatternCache.faithful_ofHistory history)).1

namespace Rule

/-- The kill set lists in ascending order, each once, the ids of those entries that some rule
matches which selects the feed itself or comes after one that does. What the cache was used for
before does not matter, nor do order and repetition of the entries. -/
theorem killSet_exact (history : List Evaluation) (rules : List Rule) (f : Feed)
    (es : List Entry) :
    (killSet rules f es (.ofHistory history)).1.Pairwise (· < ·) ∧
    (∀ n, n ∈ (killSet rules f es (.ofHistory history)).1 ↔
      ∃ e ∈ es, e.id = n ∧ ∃ i j : Fin rules.length, i ≤ j ∧
        rules[i].selects f = true ∧ rules[j].HoldsOf e) ∧
    ∀ (history' : List Evaluation) (es' : List Entry), (∀ e, e ∈ es' ↔ e ∈ es) →
      (killSet rules f es' (.ofHistory history')).1 =
        (killSet rules f es (.ofHistory history)).1 := by
  have hkilled : ∀ (l : List Evaluation) (entries : List Entry),
      (killSet rules f entries (.ofHistory l)).1 = killed rules f entries := fun l entries =>
    (gives_killSet rules f entries _ (PatternCache.faithful_ofHistory l)).1
  rw [hkilled]
  refine ⟨pairwise_killed rules f es, fun n => mem_killed, ?_⟩
  intro history' es' h
  rw [hkilled]
  exact killed_congr rules f h

/-- A rule for one feed, the rule that selects all feeds, and another for one feed. -/
def sampleRules : List Rule :=
  [ofFields "ignore-article" "other.org" "title" "#" "Sun",
    ofFields "ignore-article" "*" "title" "#" "Mars",
    ofFields "ignore-article" "other.org" "title" "#" "Moon"]

def sampleFeed : Feed := { id := 7, url := "http://example.com/feed.xml" }

def moonEntry : Entry := { id := 1, feedId := 7, title := "Moon landing" }

def sunEntry : Entry := { id := 2, feedId := 7, title := "Sun rise" }

/-- The last rule kills an entry of a feed that it does not select, and the first rule none. -/
theorem killSet_exact_moon :
    (∀ e, e ∈ [sunEntry, moonEntry, moonEntry] ↔ e ∈ [moonEntry, sunEntry]) ∧
    (killSet sampleRules sampleFeed [sunEntry, moonEntry, moonEntry] (.ofHistory [])).1 =
      (killSet sampleRules sampleFeed [moonEntry, sunEntry] (.ofHistory [])).1 ∧
    (killSet sampleRules sampleFeed [moonEntry, sunEntry] (.ofHistory [])).1 = [1] := by
  have h : ∀ e, e ∈ [sunEntry, moonEntry, moonEntry] ↔ e ∈ [moonEntry, sunEntry] := by
    intro e
    simp [or_comm]
  exact ⟨h, (killSet_exact [] sampleRules sampleFeed [moonEntry, sunEntry]).2.2 [] _ h,
    by decide +kernel⟩

end Rule

end Killfile

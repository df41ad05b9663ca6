import Killfile.Proofs.Uncompiled

/-! One rule more. Wherever a rule is put among others, it takes no entry out of the kill set. A rule
that matches nothing adds none by itself, but it may be the first to select a feed, and then it puts
all rules after it in force. -/

namespace Killfile

namespace Rule

/-- A rule that can match nothing. -/
inductive Void (r : Rule) : Prop
  | unknown {symbol : String} (operator : r.operator = .unknown symbol)
  | uncompiled (operator : r.operator = .matchesRegex ∨ r.operator = .notMatchesRegex)
    (invalid : Regex.compile r.pattern = none)

theorem Void.not_holdsOf {r : Rule} (h : r.Void) (e : Entry) : ¬ r.HoldsOf e := by
  have huncompiled : r.operator.Uncompiled r.pattern ∧ r.operator ≠ .notContainsTerm := by
    cases h with
    | unknown operator =>
      rw [operator]
      exact ⟨nofun, nofun⟩
    | uncompiled operator invalid =>
      rcases operator with operator | operator
      · rw [operator]
        exact ⟨fun p hp => hp ▸ invalid, nofun⟩
      · rw [operator]
        exact ⟨fun p hp => hp ▸ invalid, nofun⟩
  intro hholds
  exact huncompiled.2 ((holdsOf_iff_of_uncompiled huncompiled.1).mp hholds).1

section

variable {f : Feed} {es : List Entry} {l₁ l₂ : List Rule} {b : Rule}

theorem inForce_insert_subset : inForce f (l₁ ++ l₂) ⊆ inForce f (l₁ ++ b :: l₂) := by
  intro r hr
  -- If a rule before the place selects the feed, everything behind it is in force either way.
  by_cases hl : ∃ r ∈ l₁, r.selects f = true
  · rw [inForce_append_of_selects hl] at hr ⊢
    simp only [List.mem_append, List.mem_cons] at hr ⊢
    tauto
  · have hl' : ∀ r ∈ l₁, r.selects f = false := by simpa using hl
    rw [inForce_append_of_not_selects hl'] at hr ⊢
    cases hb : b.selects f with
    | true =>
      rw [inForce_cons_of_selects hb]
      exact List.mem_cons_of_mem b (inForce_subset f l₂ hr)
    | false =>
      rw [inForce_cons_of_not_selects hb]
      exact hr

/-- Unless the new rule is the first to select the feed, the same rules are in force besides it. -/
theorem mem_inForce_insert (h : b.selects f = true → ∃ r ∈ l₁, r.selects f = true) {r : Rule}
    (hr : r ∈ inForce f (l₁ ++ b :: l₂)) : r = b ∨ r ∈ inForce f (l₁ ++ l₂) := by
  by_cases hl : ∃ r ∈ l₁, r.selects f = true
  · rw [inForce_append_of_selects hl] at hr ⊢
    simp only [List.mem_append, List.mem_cons] at hr ⊢
    tauto
  · have hl' : ∀ r ∈ l₁, r.selects f = false := by simpa using hl
    have hb : b.selects f = false := by
      rw [← Bool.not_eq_true]
      intro hb
      exact hl (h hb)
    rw [inForce_append_of_not_selects hl', inForce_cons_of_not_selects hb] at hr
    rw [inForce_append_of_not_selects hl']
    exact .inr hr

theorem killed_insert_subset : killed (l₁ ++ l₂) f es ⊆ killed (l₁ ++ b :: l₂) f es := by
  intro n hn
  obtain ⟨r, hr, he⟩ := mem_killed_iff_inForce.mp hn
  exact mem_killed_iff_inForce.mpr ⟨r, inForce_insert_subset hr, he⟩

theorem killed_insert_of_idle (hidle : ∀ e ∈ es, ¬ b.HoldsOf e)
    (h : b.selects f = true → ∃ r ∈ l₁, r.selects f = true) :
    killed (l₁ ++ b :: l₂) f es = killed (l₁ ++ l₂) f es := by
  refine (pairwise_killed _ f es).eq_of_mem_iff (pairwise_killed _ f es) fun n => ?_
  constructor
  · intro hn
    obtain ⟨r, hr, e, he, hn, hre⟩ := mem_killed_iff_inForce.mp hn
    rcases mem_inForce_insert h hr with rfl | hr
    · exact absurd hre (hidle e he)
    · exact mem_killed_iff_inForce.mpr ⟨r, hr, e, he, hn, hre⟩
  · intro hn
    exact killed_insert_subset hn

theorem mem_killed_insert_of_first (hidle : ∀ e ∈ es, ¬ b.HoldsOf e) (hb : b.selects f = true)
    (hl : ∀ r ∈ l₁, r.selects f = false) {n : Int} :
    n ∈ killed (l₁ ++ b :: l₂) f es ↔ ∃ r ∈ l₂, ∃ e ∈ es, e.id = n ∧ r.HoldsOf e := by
  rw [mem_killed_iff_inForce, inForce_append_of_not_selects hl, inForce_cons_of_selects hb]
  constructor
  · rintro ⟨r, hr, e, he, hn, hre⟩
    rcases List.mem_cons.mp hr with rfl | hr
    · exact absurd hre (hidle e he)
    · exact ⟨r, hr, e, he, hn, hre⟩
  · rintro ⟨r, hr, h⟩
    exact ⟨r, List.mem_cons_of_mem b hr, h⟩

end

/-- A rule that is put among others spares no entry. When it matches none of the entries the kill set
stays the same, unless it selects the feed and no rule before it does: then the kill set is made of
the entries that any rule after it matches, whatever that rule selects. A rule with an unknown operator
or with an expression that does not compile matches no entry at all. -/
theorem killSet_insert (history history' : List Evaluation) (l₁ l₂ : List Rule) (b : Rule)
    (f : Feed) (es : List Entry) :
    ((killSet (l₁ ++ l₂) f es (.ofHistory history)).1 ⊆
      (killSet (l₁ ++ [b] ++ l₂) f es (.ofHistory history')).1) ∧
    (b.Void → ∀ e, ¬ b.HoldsOf e) ∧
    ((∀ e ∈ es, ¬ b.HoldsOf e) →
      (¬ (b.selects f = true ∧ ∀ r ∈ l₁, r.selects f = false) →
        (killSet (l₁ ++ [b] ++ l₂) f es (.ofHistory history')).1 =
          (killSet (l₁ ++ l₂) f es (.ofHistory history)).1) ∧
      (b.selects f = true ∧ (∀ r ∈ l₁, r.selects f = false) →
        ∀ n, n ∈ (killSet (l₁ ++ [b] ++ l₂) f es (.ofHistory history')).1 ↔
          ∃ r ∈ l₂, ∃ e ∈ es, e.id = n ∧ r.HoldsOf e)) := by
  have hkilled : ∀ (l : List Evaluation) (rules : List Rule),
      (killSet rules f es (.ofHistory l)).1 = killed rules f es := fun l rules =>
    (gives_killSet rules f es _ (PatternCache.faithful_ofHistory l)).1
  rw [hkilled, hkilled, List.append_assoc, List.singleton_append]
  refine ⟨killed_insert_subset, fun h => h.not_holdsOf, fun hidle => ⟨fun hnot => ?_, ?_⟩⟩
  · refine killed_insert_of_idle hidle fun hb => ?_
    by_contra hl
    exact hnot ⟨hb, by simpa using hl⟩
  · rintro ⟨hb, hl⟩ n
    exact mem_killed_insert_of_first hidle hb hl

/-- A rule with an operator that means nothing, for all feeds. -/
def voidRule : Rule := .ofFields "ignore-article" "*" "title" "==" "Sun"

/-- Among rules that do not select a feed, a rule for all feeds that matches nothing brings the rule
after it in force, which kills an entry. Behind another rule for all feeds it changes nothing. -/
theorem killSet_insert_void :
    voidRule.Void ∧
    (killSet [sampleRules[0], sampleRules[2]] sampleFeed [moonEntry, sunEntry] []).1 = [] ∧
    moonEntry.id ∈
      (killSet [sampleRules[0], voidRule, sampleRules[2]] sampleFeed [moonEntry, sunEntry] []).1 ∧
    (killSet [sampleRules[1], voidRule, sampleRules[2]] sampleFeed [moonEntry, sunEntry] []).1 =
      (killSet [sampleRules[1], sampleRules[2]] sampleFeed [moonEntry, sunEntry] []).1 := by
  have hvoid : voidRule.Void := .unknown rfl
  obtain ⟨-, hidle, hfirst⟩ := killSet_insert [] [] [sampleRules[0]] [sampleRules[2]] voidRule
    sampleFeed [moonEntry, sunEntry]
  obtain ⟨-, -, hlater⟩ := killSet_insert [] [] [sampleRules[1]] [sampleRules[2]] voidRule
    sampleFeed [moonEntry, sunEntry]
  have hidle' : ∀ e ∈ [moonEntry, sunEntry], ¬ voidRule.HoldsOf e := fun e _ => hidle hvoid e
  refine ⟨hvoid, by decide +kernel, ?_, (hlater hidle').1 (by decide)⟩
  refine ((hfirst hidle').2 (by decide) moonEntry.id).mpr ?_
  exact ⟨sampleRules[2], List.mem_singleton_self _, moonEntry, by simp, rfl, by decide +kernel⟩

end Rule

end Killfile

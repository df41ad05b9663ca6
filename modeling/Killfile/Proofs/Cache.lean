import Killfile.KillSet

/-! The cache of patterns does not show in the answers. A cache that earlier comparisons left keeps
with each pattern what the pattern compiles to, and from such a cache every comparison gives what it
gives without any cache. -/

namespace Killfile

/-- Every pattern is kept with what it compiles to. -/
def PatternCache.Faithful (c : PatternCache) : Prop := ∀ p ∈ c, p.2 = Regex.compile p.1

theorem PatternCache.faithful_nil : PatternCache.Faithful [] := by
  intro p hp
  simp at hp

/-- From every faithful cache a computation gives one and the same value, and it leaves a faithful
cache behind. -/
def Gives {α : Type} (m : Logged PatternCache α) (a : α) : Prop :=
  ∀ c : PatternCache, c.Faithful → (m c).1 = a ∧ (m c).2.1.Faithful

namespace Gives

variable {α β : Type}

theorem pure (a : α) : Gives (Pure.pure a) a := fun _ hc => ⟨rfl, hc⟩

theorem report (e : Event) : Gives (Logged.report e) () := fun _ hc => ⟨rfl, hc⟩

theorem bind {m : Logged PatternCache α} {f : α → Logged PatternCache β} {a : α} {b : β}
    (hm : Gives m a) (hf : Gives (f a) b) : Gives (m >>= f) b := by
  intro c hc
  obtain ⟨ha, hc'⟩ := hm c hc
  simp only [Logged.bind_apply, ha]
  exact hf _ hc'

end Gives

namespace Matcher

theorem gives_compiled (pattern : String) : Gives (compiled pattern) (Regex.compile pattern) := by
  intro c hc
  simp only [compiled, Logged.bind_apply, Logged.get_apply]
  cases h : c.find? fun p => p.1 = pattern with
  | some p =>
    have hp : p.1 = pattern := by simpa using List.find?_some h
    have hr : p.2 = Regex.compile p.1 := hc p (List.mem_of_find?_eq_some h)
    rw [hp] at hr
    exact ⟨hr, hc⟩
  | none =>
    have hnew : PatternCache.Faithful ((pattern, Regex.compile pattern) :: c) := by
      intro p hp
      rcases List.mem_cons.mp hp with rfl | hp
      · rfl
      · exact hc p hp
    -- A pattern that does not compile is reported, which leaves the cache alone.
    split
    · exact ⟨rfl, hnew⟩
    · exact ⟨rfl, hnew⟩

theorem gives_findsTerm (text : String) (ts : List (List Char)) :
    Gives (findsTerm text ts) (ts.any fun t =>
      ((Regex.compile (termPattern t)).map fun r => r.matchesText text).any id) := by
  induction ts with
  | nil => exact Gives.pure false
  | cons t ts ih =>
    rw [findsTerm, List.any_cons]
    refine Gives.bind (gives_compiled (termPattern t)) ?_
    cases Regex.compile (termPattern t) with
    | none => simpa using ih
    | some r =>
      cases hr : r.matchesText text with
      | true => simpa [hr] using Gives.pure true
      | false => simpa [hr] using ih

theorem gives_matchesText (op : Operator) (pattern text : String) :
    Gives (matchesText op pattern text) (op.holds pattern text) := by
  have regex : ∀ (negated : Bool) (k : Option Regex → Logged PatternCache Bool),
      k none = Pure.pure false → (∀ r, k (some r) = Pure.pure (r.matchesText text != negated)) →
      Gives (compiled pattern >>= k)
        (((Regex.compile pattern).map fun r => r.matchesText text).any fun b => b != negated) := by
    intro negated k hnone hsome
    refine Gives.bind (gives_compiled pattern) ?_
    cases Regex.compile pattern with
    | none =>
      rw [hnone]
      exact Gives.pure false
    | some r =>
      rw [hsome]
      exact Gives.pure _
  have terms : ∀ negated : Bool, Gives
      (do Pure.pure ((← findsTerm text (terms pattern)) != negated)) _ := fun negated =>
    Gives.bind (gives_findsTerm text (terms pattern)) (Gives.pure _)
  cases op with
  | matchesRegex => exact regex false _ rfl fun _ => rfl
  | notMatchesRegex => exact regex true _ rfl fun _ => rfl
  | containsTerm => exact terms false
  | notContainsTerm => exact terms true
  | unknown s => exact Gives.pure false

end Matcher

namespace Rule

/-- The rule matches the entry on its own: a rule on tags when the comparison holds of some tag, any
other when it holds of the text of its attribute. -/
def HoldsOf (r : Rule) (e : Entry) : Prop :=
  match r.attr with
  | .title => r.operator.holds r.pattern e.title = true
  | .content | .description => r.operator.holds r.pattern e.content = true
  | .author => r.operator.holds r.pattern e.author = true
  | .tag => ∃ tag ∈ e.tags, r.operator.holds r.pattern tag = true
  | .unknown _ => r.operator.holds r.pattern "" = true

theorem holdsOf_iff (r : Rule) (e : Entry) :
    r.HoldsOf e ↔ ∃ t ∈ texts r.attr e, r.operator.holds r.pattern t = true := by
  unfold HoldsOf texts
  cases r.attr <;> simp

instance (r : Rule) (e : Entry) : Decidable (r.HoldsOf e) :=
  decidable_of_iff _ (holdsOf_iff r e).symm

theorem gives_matchesSome (r : Rule) (ts : List String) :
    Gives (r.matchesSome ts) (decide (∃ t ∈ ts, r.operator.holds r.pattern t = true)) := by
  induction ts with
  | nil => simpa [matchesSome] using Gives.pure false
  | cons t ts ih =>
    refine Gives.bind (Matcher.gives_matchesText r.operator r.pattern t) ?_
    cases h : r.operator.holds r.pattern t with
    | true => simpa [h] using Gives.pure true
    | false => simpa [h] using ih

theorem gives_matchesEntry (r : Rule) (e : Entry) :
    Gives (r.matchesEntry e) (decide (r.HoldsOf e)) := by
  simp only [matchesEntry, holdsOf_iff]
  exact gives_matchesSome r (texts r.attr e)

theorem gives_allMatch (e : Entry) (rules : List Rule) :
    Gives (allMatch e rules) (decide (∀ r ∈ rules, r.HoldsOf e)) := by
  induction rules with
  | nil => simpa [allMatch] using Gives.pure true
  | cons r rules ih =>
    refine Gives.bind (gives_matchesEntry r e) ?_
    by_cases h : r.HoldsOf e
    · simpa [h] using ih
    · simpa [h] using Gives.pure false

end Rule

end Killfile

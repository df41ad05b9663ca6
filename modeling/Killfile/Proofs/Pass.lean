import Killfile.Pass
import Killfile.Proofs.KillSet

/-! The calls of a pass. What a pass asks the reader, in which order and with which end, is written
down as a relation that says nothing about logs, caches or loops. A pass with a record of its calls
does what the relation allows, whatever the reader answers and however its state changes. -/

namespace Killfile

/-- The ids that a fresh evaluation gives for a feed and its entries, in ascending order and each
once. -/
def Rule.KillList (rules : List Rule) (f : Feed) (es : List Entry) (ids : List Int) : Prop :=
  ids.Pairwise (· < ·) ∧ ∀ n, n ∈ ids ↔ n ∈ (Rule.killSet rules f es []).1

theorem Rule.killList_iff {rules : List Rule} {f : Feed} {es : List Entry} {ids : List Int} :
    KillList rules f es ids ↔ ids = killed rules f es := by
  have hfresh : (killSet rules f es []).1 = killed rules f es :=
    (gives_killSet rules f es [] PatternCache.faithful_nil).1
  rw [KillList, hfresh]
  constructor
  · rintro ⟨hids, hmem⟩
    exact hids.eq_of_mem_iff (pairwise_killed rules f es) hmem
  · rintro rfl
    exact ⟨pairwise_killed rules f es, fun _ => Iff.rfl⟩

theorem Logged.onFst_bind {σ τ α β : Type} (m : Logged σ α) (k : α → Logged σ β) :
    (m >>= k).onFst = ((m.onFst >>= fun a => (k a).onFst) : Logged (σ × τ) β) := rfl

namespace Pass

/-- The call that kills an entry, or looks it up when this is only simulated. -/
def killCall (simulate : Bool) (id : Int) : Call :=
  if simulate then .entry id else .updateEntries [id] .read

/-- What came of a feed that did not end the pass. -/
inductive Outcome where
  | unselected
  | unfetched
  | killed (ids : List Int)
deriving DecidableEq

/-- The ids that were killed. -/
def Outcome.ids : Outcome → List Int
  | .killed ids => ids
  | _ => []

/-- What a visit with this outcome adds to the summary. -/
def Outcome.summary : Outcome → Summary
  | .unselected => {}
  | .unfetched => ⟨1, 1, 0⟩
  | .killed ids => ⟨1, 0, ids.length⟩

/-- What a tour with these outcomes adds to the summary. -/
def Outcome.total (os : List Outcome) : Summary := (os.map Outcome.summary).foldr .add {}

variable {W : Type} (reader : Reader W) (simulate : Bool) (rules : List Rule)

/-- One call for each id in order, up to and with the first that fails. -/
inductive Killing : W → List Int → List Call → W → Except Failure Unit → Prop where
  | done {w : W} : Killing w [] [] w (.ok ())
  | failed {w w' : W} {id : Int} {ids : List Int} {x : Failure} {log : Log}
      (answer : reader.answer (killCall simulate id) w = (.error x, w', log)) :
      Killing w (id :: ids) [killCall simulate id] w' (.error x)
  | next {w v w' : W} {id : Int} {ids : List Int} {a : (killCall simulate id).Answer} {log : Log}
      {calls : List Call} {result : Except Failure Unit}
      (answer : reader.answer (killCall simulate id) w = (.ok a, v, log))
      (rest : Killing v ids calls w' result) :
      Killing w (id :: ids) (killCall simulate id :: calls) w' result

/-- The calls for one feed: none when no rule selects it, else one for its unread entries and, when
this succeeds, those that kill the ids of its kill list. -/
inductive Visit (f : Feed) : W → List Call → W → Except Failure Outcome → Prop where
  | unselected {w : W} (leaves : ∀ r ∈ rules, r.selects f = false) :
      Visit f w [] w (.ok .unselected)
  | unfetched {w w' : W} {x : Failure} {log : Log} (selects : ∃ r ∈ rules, r.selects f = true)
      (answer : reader.answer (.unreadEntries f.id) w = (.error x, w', log)) :
      Visit f w [.unreadEntries f.id] w' (.ok .unfetched)
  | failed {w v w' : W} {es : List Entry} {log : Log} {ids : List Int} {calls : List Call}
      {x : Failure} (selects : ∃ r ∈ rules, r.selects f = true)
      (answer : reader.answer (.unreadEntries f.id) w = (.ok es, v, log))
      (list : Rule.KillList rules f es ids)
      (killing : Killing reader simulate v ids calls w' (.error x)) :
      Visit f w (.unreadEntries f.id :: calls) w' (.error x)
  | killed {w v w' : W} {es : List Entry} {log : Log} {ids : List Int} {calls : List Call}
      (selects : ∃ r ∈ rules, r.selects f = true)
      (answer : reader.answer (.unreadEntries f.id) w = (.ok es, v, log))
      (list : Rule.KillList rules f es ids)
      (killing : Killing reader simulate v ids calls w' (.ok ())) :
      Visit f w (.unreadEntries f.id :: calls) w' (.ok (.killed ids))

/-- The calls for feeds in order, up to the first visit that ends with an error. -/
inductive Tour : W → List Feed → List Call → W → Except Failure (List Outcome) → Prop where
  | done {w : W} : Tour w [] [] w (.ok [])
  | failed {w w' : W} {f : Feed} {fs : List Feed} {calls : List Call} {x : Failure}
      (visit : Visit reader simulate rules f w calls w' (.error x)) :
      Tour w (f :: fs) calls w' (.error x)
  | next {w v w' : W} {f : Feed} {fs : List Feed} {calls calls' : List Call} {o : Outcome}
      {result : Except Failure (List Outcome)}
      (visit : Visit reader simulate rules f w calls v (.ok o))
      (rest : Tour v fs calls' w' result) :
      Tour w (f :: fs) (calls ++ calls') w' (result.map (o :: ·))

/-- The calls of a pass: one for the feeds and, when this succeeds, those of a tour of them. A tour
that no error ends is summed up by its feeds that some rule selects, those of them that were not
fetched, and the entries killed. -/
inductive Trace : W → List Call → W → Except Failure Summary → Prop where
  | unlisted {w w' : W} {x : Failure} {log : Log}
      (answer : reader.answer .feeds w = (.error x, w', log)) : Trace w [.feeds] w' (.error x)
  | aborted {w v w' : W} {fs : List Feed} {log : Log} {calls : List Call} {x : Failure}
      (answer : reader.answer .feeds w = (.ok fs, v, log))
      (tour : Tour reader simulate rules v fs calls w' (.error x)) :
      Trace w (.feeds :: calls) w' (.error x)
  | finished {w v w' : W} {fs : List Feed} {log : Log} {calls : List Call} {os : List Outcome}
      (answer : reader.answer .feeds w = (.ok fs, v, log))
      (tour : Tour reader simulate rules v fs calls w' (.ok os)) :
      Trace w (.feeds :: calls) w'
        (.ok ⟨fs.countP fun f => rules.any (·.selects f), os.count .unfetched,
          (os.flatMap Outcome.ids).length⟩)

variable {reader simulate rules}

/-- A computation that makes these calls. It does so from every faithful cache and leaves a faithful
one, and a record of the calls changes nothing else. -/
def Makes {α : Type} (m : Logged ((W × List Call) × PatternCache) α)
    (m₀ : Logged (W × PatternCache) α) (w : W) (calls : List Call) (w' : W) (a : α) : Prop :=
  ∀ c : PatternCache, c.Faithful → ∃ c' : PatternCache, c'.Faithful ∧ ∃ log : Log,
    m₀ (w, c) = (a, (w', c'), log) ∧ ∀ l, m ((w, l), c) = (a, ((w', l ++ calls), c'), log)

namespace Makes

variable {α β : Type} {w v w' : W}

theorem pure (a : α) : Makes (Pure.pure a) (Pure.pure a) w [] w a :=
  fun c hc => ⟨c, hc, [], rfl, fun l => by simp⟩

theorem report (e : Event) : Makes (Logged.report e) (Logged.report e) w [] w () :=
  fun c hc => ⟨c, hc, [e], rfl, fun l => by simp⟩

theorem bind {m : Logged ((W × List Call) × PatternCache) α} {m₀ : Logged (W × PatternCache) α}
    {k : α → Logged ((W × List Call) × PatternCache) β} {k₀ : α → Logged (W × PatternCache) β}
    {calls calls' : List Call} {a : α} {b : β} (hm : Makes m m₀ w calls v a)
    (hk : Makes (k a) (k₀ a) v calls' w' b) :
    Makes (m >>= k) (m₀ >>= k₀) w (calls ++ calls') w' b := by
  intro c hc
  obtain ⟨c₁, hc₁, log₁, hm₀, hm⟩ := hm c hc
  obtain ⟨c₂, hc₂, log₂, hk₀, hk⟩ := hk c₁ hc₁
  refine ⟨c₂, hc₂, log₁ ++ log₂, ?_, fun l => ?_⟩
  · simp [hm₀, hk₀]
  · simp [hm, hk]

/-- What makes no calls may come first. -/
theorem bind_right {m : Logged ((W × List Call) × PatternCache) α}
    {m₀ : Logged (W × PatternCache) α} {k : α → Logged ((W × List Call) × PatternCache) β}
    {k₀ : α → Logged (W × PatternCache) β} {calls : List Call} {a : α} {b : β}
    (hm : Makes m m₀ w [] v a) (hk : Makes (k a) (k₀ a) v calls w' b) :
    Makes (m >>= k) (m₀ >>= k₀) w calls w' b := bind hm hk

/-- What makes no calls may come last. -/
theorem bind_left {m : Logged ((W × List Call) × PatternCache) α}
    {m₀ : Logged (W × PatternCache) α} {k : α → Logged ((W × List Call) × PatternCache) β}
    {k₀ : α → Logged (W × PatternCache) β} {calls : List Call} {a : α} {b : β}
    (hm : Makes m m₀ w calls v a) (hk : Makes (k a) (k₀ a) v [] w' b) :
    Makes (m >>= k) (m₀ >>= k₀) w calls w' b := by
  simpa using bind hm hk

/-- The end of an order to the reader: an event and an answer. -/
theorem report_onFst (e : Event) (a : α) :
    Makes (Logged.report e >>= fun _ => Pure.pure a).onFst
      (Logged.report e >>= fun _ => Pure.pure a).onFst w [] w a := by
  simp only [Logged.onFst_bind]
  refine bind_right (report e) ?_
  exact pure a

theorem call {c : Call} {a : Except Failure c.Answer} {log : Log}
    (answer : reader.answer c w = (a, w', log)) :
    Makes (reader.recorded.answer c).onFst (reader.answer c).onFst w [c] w' a :=
  fun cache hc => ⟨cache, hc, log, by simp [answer], fun l => by simp [answer]⟩

theorem evaluation {m : Logged PatternCache α} {a : α} (h : Gives m a) :
    Makes m.onSnd m.onSnd w [] w a := by
  intro c hc
  obtain ⟨ha, hc'⟩ := h c hc
  exact ⟨(m c).2.1, hc', (m c).2.2, by simp [ha], fun l => by simp [ha]⟩

end Makes

theorem makes_killEntry {w w' : W} {id : Int} {a : Except Failure (killCall simulate id).Answer}
    {log : Log} (answer : reader.answer (killCall simulate id) w = (a, w', log)) (f : Feed) :
    Makes (killEntry reader.recorded simulate f id).onFst (killEntry reader simulate f id).onFst w
      [killCall simulate id] w' (a.map fun _ => ()) := by
  cases simulate with
  | true =>
    simp only [killEntry, ↓reduceIte, Logged.onFst_bind]
    refine Makes.bind_left (Makes.call answer) ?_
    cases a with
    | ok e => exact Makes.report_onFst _ _
    | error x => exact Makes.report_onFst _ _
  | false =>
    simp only [killEntry, Bool.false_eq_true, ↓reduceIte, Logged.onFst_bind]
    refine Makes.bind_right (Makes.report _) (Makes.bind_left (Makes.call answer) ?_)
    cases a with
    | ok e => exact Makes.pure _
    | error x => exact Makes.report_onFst _ _

theorem Killing.makes {w w' : W} {ids : List Int} {calls : List Call}
    {result : Except Failure Unit} (h : Killing reader simulate w ids calls w' result) (f : Feed) :
    Makes (killEntries reader.recorded simulate f ids).onFst
      (killEntries reader simulate f ids).onFst w calls w' result := by
  induction h with
  | done => exact Makes.pure _
  | failed answer =>
    simp only [killEntries, Logged.onFst_bind]
    exact Makes.bind_left (makes_killEntry answer f) (Makes.pure _)
  | next answer rest ih =>
    simp only [killEntries, Logged.onFst_bind]
    exact Makes.bind (makes_killEntry answer f) ih

theorem Visit.makes {f : Feed} {w w' : W} {calls : List Call} {result : Except Failure Outcome}
    (h : Visit reader simulate rules f w calls w' result) :
    Makes (visit reader.recorded simulate rules f) (visit reader simulate rules f) w calls w'
      (result.map Outcome.summary) := by
  have selected : (∃ r ∈ rules, r.selects f = true) → Rule.anySelects rules f = true :=
    List.any_eq_true.mpr
  cases h with
  | unselected leaves =>
    have hf : Rule.anySelects rules f = false := List.any_eq_false.mpr fun r hr => by
      simp [leaves r hr]
    simp only [visit, hf, Bool.false_eq_true, ↓reduceIte]
    exact Makes.pure _
  | unfetched selects answer =>
    simp only [visit, selected selects, ↓reduceIte]
    exact Makes.bind_left (Makes.call answer) (Makes.bind_right (Makes.report _) (Makes.pure _))
  | failed selects answer list killing =>
    obtain rfl := Rule.killList_iff.mp list
    simp only [visit, selected selects, ↓reduceIte]
    refine Makes.bind (Makes.call answer) ?_
    refine Makes.bind_right (Makes.evaluation (Rule.gives_killSet rules f _)) ?_
    exact Makes.bind_left (killing.makes f) (Makes.pure _)
  | @killed _ _ es _ _ _ selects answer list killing =>
    obtain rfl := Rule.killList_iff.mp list
    simp only [visit, selected selects, ↓reduceIte]
    refine Makes.bind (Makes.call answer) ?_
    refine Makes.bind_right (Makes.evaluation (Rule.gives_killSet rules f es)) ?_
    refine Makes.bind_left (killing.makes f) ?_
    -- Without ids nothing is reported.
    by_cases hids : Rule.killed rules f es = []
    · simp only [hids, ne_eq, not_true_eq_false, ↓reduceIte]
      exact Makes.pure _
    · simp only [hids, ne_eq, not_false_eq_true, ↓reduceIte]
      exact Makes.bind_right (Makes.report _) (Makes.pure _)

theorem Tour.makes {w w' : W} {fs : List Feed} {calls : List Call}
    {result : Except Failure (List Outcome)} (h : Tour reader simulate rules w fs calls w' result) :
    Makes (visitAll reader.recorded simulate rules fs) (visitAll reader simulate rules fs) w calls
      w' (result.map Outcome.total) := by
  induction h with
  | done => exact Makes.pure _
  | failed visit => exact Makes.bind_left visit.makes (Makes.pure _)
  | @next _ _ _ _ _ _ _ o result visit rest ih =>
    refine Makes.bind visit.makes (Makes.bind_left ih ?_)
    cases result with
    | error x => exact Makes.pure _
    | ok os => exact Makes.pure _

/-- A tour is summed up by its feeds that some rule selects, those of them that were not fetched,
and the entries killed. -/
theorem Tour.map_total {w w' : W} {fs : List Feed} {calls : List Call}
    {result : Except Failure (List Outcome)} (h : Tour reader simulate rules w fs calls w' result) :
    result.map Outcome.total = result.map fun os =>
      ⟨fs.countP fun f => rules.any (·.selects f), os.count .unfetched,
        (os.flatMap Outcome.ids).length⟩ := by
  induction h with
  | done => rfl
  | failed visit => rfl
  | @next _ _ _ f fs _ _ o result visit rest ih =>
    cases result with
    | error x => rfl
    | ok os =>
      have hos := Except.ok.inj ih
      refine congrArg Except.ok ?_
      rw [Outcome.total, List.map_cons, List.foldr_cons, ← Outcome.total, hos]
      cases visit with
      | unselected leaves =>
        have hf : ¬ ∃ r ∈ rules, r.selects f = true := by simpa using leaves
        simp [hf, Outcome.summary, Outcome.ids, Summary.add]
      | unfetched selects answer =>
        simp [selects, Outcome.summary, Outcome.ids, Summary.add, Nat.add_comm]
      | killed selects answer list killing =>
        simp [selects, Outcome.summary, Outcome.ids, Summary.add, Nat.add_comm]

variable (reader simulate rules)

theorem exists_killing (w : W) (ids : List Int) :
    ∃ calls w' result, Killing reader simulate w ids calls w' result := by
  induction ids generalizing w with
  | nil => exact ⟨[], w, .ok (), .done⟩
  | cons id ids ih =>
    rcases h : reader.answer (killCall simulate id) w with ⟨x | a, v, log⟩
    · exact ⟨_, v, .error x, .failed h⟩
    · obtain ⟨calls, w', result, rest⟩ := ih v
      exact ⟨_, w', result, .next h rest⟩

theorem exists_visit (w : W) (f : Feed) :
    ∃ calls w' result, Visit reader simulate rules f w calls w' result := by
  by_cases hf : ∃ r ∈ rules, r.selects f = true
  · rcases h : reader.answer (.unreadEntries f.id) w with ⟨x | es, v, log⟩
    · exact ⟨_, v, .ok .unfetched, .unfetched hf h⟩
    · have list := Rule.killList_iff.mpr (rfl : Rule.killed rules f es = _)
      obtain ⟨calls, w', x | _, killing⟩ :=
        exists_killing reader simulate v (Rule.killed rules f es)
      · exact ⟨_, w', .error x, .failed hf h list killing⟩
      · exact ⟨_, w', .ok (.killed _), .killed hf h list killing⟩
  · exact ⟨[], w, .ok .unselected, .unselected (by simpa using hf)⟩

theorem exists_tour (w : W) (fs : List Feed) :
    ∃ calls w' result, Tour reader simulate rules w fs calls w' result := by
  induction fs generalizing w with
  | nil => exact ⟨[], w, .ok [], .done⟩
  | cons f fs ih =>
    obtain ⟨calls, v, x | o, visit⟩ := exists_visit reader simulate rules w f
    · exact ⟨calls, v, .error x, .failed visit⟩
    · obtain ⟨calls', w', result, rest⟩ := ih v
      exact ⟨calls ++ calls', w', result.map (o :: ·), .next visit rest⟩

theorem exists_trace (w : W) :
    ∃ calls w' result, Trace reader simulate rules w calls w' result := by
  rcases h : reader.answer .feeds w with ⟨x | fs, v, log⟩
  · exact ⟨[.feeds], v, .error x, .unlisted h⟩
  · obtain ⟨calls, w', x | os, tour⟩ := exists_tour reader simulate rules v fs
    · exact ⟨.feeds :: calls, w', .error x, .aborted h tour⟩
    · exact ⟨.feeds :: calls, w', .ok _, .finished h tour⟩

variable {reader simulate rules}

/-- A pass does what its trace says, whether or not a record is kept. A record that was begun before
is continued. -/
theorem Trace.makes {w w' : W} {calls : List Call} {result : Except Failure Summary}
    (h : Trace reader simulate rules w calls w' result) :
    ∃ log : Log, Pass.run reader simulate rules w = (result, w', log) ∧
      ∀ l, Pass.run reader.recorded simulate rules (w, l) = (result, (w', l ++ calls), log) := by
  cases h with
  | unlisted answer => simp [Pass.run, answer]
  | aborted answer tour =>
    obtain ⟨_, -, _, hplain, hrecorded⟩ := tour.makes [] PatternCache.faithful_nil
    simp [Pass.run, answer, hplain, hrecorded, Except.map]
  | finished answer tour =>
    obtain ⟨_, -, _, hplain, hrecorded⟩ := tour.makes [] PatternCache.faithful_nil
    rw [tour.map_total] at hplain hrecorded
    simp [Pass.run, answer, hplain, hrecorded, Except.map]

theorem Trace.run {w w' : W} {calls : List Call} {result : Except Failure Summary}
    (h : Trace reader simulate rules w calls w' result) :
    (run reader simulate rules w).1 = result ∧ (run reader simulate rules w).2.1 = w' ∧
      (run reader.recorded simulate rules (w, [])).2.1 = (w', calls) := by
  obtain ⟨log, hplain, hrecorded⟩ := h.makes
  rw [hplain, hrecorded]
  exact ⟨rfl, rfl, rfl⟩

variable (reader simulate rules)

/-- A pass ends as its trace says after the calls of its trace, and it has just one: the feeds in
order, for each that some rule selects its unread entries, and for those the ids of a fresh kill set
in ascending order up to the first call that fails. -/
theorem run_exact (w : W) (calls : List Call) (w' : W) (result : Except Failure Summary) :
    ((run reader simulate rules w).1 = result ∧ (run reader simulate rules w).2.1 = w' ∧
      (run reader.recorded simulate rules (w, [])).2.1 = (w', calls)) ↔
    Trace reader simulate rules w calls w' result := by
  constructor
  · rintro ⟨rfl, rfl, hcalls⟩
    -- Some trace begins here, and the pass does what it says, so it is the one in question.
    obtain ⟨calls', w', result, h⟩ := exists_trace reader simulate rules w
    obtain ⟨rfl, rfl, hcalls'⟩ := h.run
    obtain rfl : calls' = calls := congrArg Prod.snd (hcalls'.symm.trans hcalls)
    exact h
  · exact Trace.run

end Pass

end Killfile

import Killfile.Proofs.Simulation

/-! A live pass made again. Entries only ever turn from unread to read, so a list that is fetched
the second time is part of the one fetched the first time, and all that was killed in that one is
read by now. Nothing has to be told apart for this: feeds and ids may be repeated, and feeds may be
broken. -/

namespace Killfile

namespace Memory

/-- The second memory is the first one with the entries of some ids marked as read. -/
def Precedes (m m' : Memory) : Prop :=
  ∃ ids : List Int, m' = m.markRead fun _ e => decide (e.id ∈ ids)

variable {m m' m'' : Memory}

theorem Precedes.refl (m : Memory) : Precedes m m := ⟨[], by simp⟩

theorem markRead_ids (m : Memory) (ids ids' : List Int) :
    ((m.markRead fun _ e => decide (e.id ∈ ids)).markRead fun _ e => decide (e.id ∈ ids')) =
      m.markRead fun _ e => decide (e.id ∈ ids ++ ids') := by
  rw [markRead_markRead m _ fun _ _ _ => rfl]
  simp

theorem Precedes.trans (h : Precedes m m') (h' : Precedes m' m'') : Precedes m m'' := by
  obtain ⟨ids, rfl⟩ := h
  obtain ⟨ids', rfl⟩ := h'
  exact ⟨ids ++ ids', markRead_ids m ids ids'⟩

/-- Marking entries changes neither the feeds nor what fails. -/
theorem Precedes.unchanged (h : Precedes m m') :
    m'.feeds = m.feeds ∧ m'.feedsFail = m.feedsFail ∧ m'.brokenFeeds = m.brokenFeeds := by
  obtain ⟨ids, rfl⟩ := h
  exact ⟨rfl, rfl, rfl⟩

theorem answer_feeds (h : m.feedsFail = false) : reader.answer .feeds m = (.ok m.feeds, m, []) := by
  rw [answer_question rfl, reply, h]
  rfl

/-- After the killed entries of a feed have been marked, the feed has none to be killed, however
much is marked later. -/
theorem Precedes.killed_unread {rules : List Rule} {f : Feed}
    (h : Precedes
      (m.markRead fun _ e => decide (e.id ∈ Rule.killed rules f (m.unreadOf f.id))) m') :
    Rule.killed rules f (m'.unreadOf f.id) = [] := by
  obtain ⟨ids, rfl⟩ := h
  rw [markRead_ids, unreadOf_markRead, List.eq_nil_iff_forall_not_mem]
  intro n hn
  obtain ⟨e, he, hid, hkills⟩ := Rule.mem_killed.mp hn
  simp only [List.mem_filter, Bool.not_eq_true', decide_eq_false_iff_not, List.mem_append,
    not_or] at he
  -- The entry is unread now, so it was unread at first, and then its id was among the killed ones.
  obtain ⟨hfirst, hleft, -⟩ := he
  have hkilled : e.id ∈ Rule.killed rules f (m.unreadOf f.id) :=
    Rule.mem_killed.mpr ⟨e, hfirst, rfl, hkills⟩
  exact hleft hkilled

end Memory

namespace Pass

open Memory (reader Precedes)

/-- What comes of a feed when there is nothing left to be killed. -/
def Outcome.spent : Outcome → Outcome
  | .killed _ => .killed []
  | o => o

theorem count_spent (os : List Outcome) :
    (os.map Outcome.spent).count .unfetched = os.count .unfetched := by
  induction os with
  | nil => rfl
  | cons o os ih =>
    have hhead : (o.spent == .unfetched) = (o == .unfetched) := by cases o <;> rfl
    rw [List.map_cons, List.count_cons, List.count_cons, ih, hhead]

theorem ids_spent (os : List Outcome) : (os.map Outcome.spent).flatMap Outcome.ids = [] := by
  rw [List.flatMap_eq_nil_iff]
  intro o ho
  obtain ⟨o', -, rfl⟩ := List.mem_map.mp ho
  cases o' <;> rfl

theorem questions_killCalls (ids : List Int) :
    (ids.map (killCall false)).filter Call.isQuestion = [] := by
  rw [List.filter_eq_nil_iff]
  intro c hc
  obtain ⟨n, -, rfl⟩ := List.mem_map.mp hc
  exact Bool.false_ne_true

variable {m w w' : Memory} {rules : List Rule} {calls : List Call}

/-- The visit that is made of a feed once more, at any time after the first. -/
theorem Visit.again {f : Feed} {o : Outcome}
    (visit : Visit reader false rules f w calls w' (.ok o)) :
    Precedes w w' ∧ ∀ m, Precedes w' m →
      Visit reader false rules f m (calls.filter Call.isQuestion) m (.ok o.spent) := by
  cases visit with
  | unselected leaves => exact ⟨Precedes.refl w, fun m _ => .unselected leaves⟩
  | unfetched selects answer =>
    obtain ⟨hbroken, rfl⟩ := Memory.of_unreadEntries_error answer
    refine ⟨Precedes.refl w', fun m hm => ?_⟩
    rw [← hm.unchanged.2.2] at hbroken
    exact .unfetched selects (answer_unreadEntries_of_broken hbroken)
  | killed selects answer list killing =>
    obtain ⟨hbroken, rfl, rfl⟩ := Memory.of_unreadEntries_ok answer
    obtain rfl := Rule.killList_iff.mp list
    obtain ⟨done, rest, hids, -, rfl, ⟨rfl, -, rfl⟩ | ⟨n, rest, x, -, -, hx, -⟩⟩ := killing.live
    · rw [List.append_nil] at hids
      refine ⟨⟨done, rfl⟩, fun m hm => ?_⟩
      have hopen : f.id ∉ m.brokenFeeds := by
        rw [hm.unchanged.2.2]
        exact hbroken
      have hnone : Rule.KillList rules f (m.unreadOf f.id) [] := by
        rw [← hids] at hm
        exact Rule.killList_iff.mpr hm.killed_unread.symm
      have hcalls : (Call.unreadEntries f.id :: done.map (killCall false)).filter Call.isQuestion =
          [.unreadEntries f.id] := by
        rw [List.filter_cons_of_pos rfl, questions_killCalls]
      rw [hcalls]
      exact .killed selects (answer_unreadEntries hopen) hnone .done
    · cases hx

/-- The tour that is made of feeds once more, at any time after the first. -/
theorem Tour.again {fs : List Feed} {result : Except Failure (List Outcome)}
    (tour : Tour reader false rules w fs calls w' result) :
    ∀ os, result = .ok os → Precedes w w' ∧ ∀ m, Precedes w' m →
      Tour reader false rules m fs (calls.filter Call.isQuestion) m
        (.ok (os.map Outcome.spent)) := by
  induction tour with
  | done =>
    rintro os ⟨⟩
    exact ⟨Precedes.refl _, fun m _ => .done⟩
  | failed visit => exact nofun
  | @next _ _ _ _ _ _ _ o result visit rest ih =>
    intro os hos
    cases result with
    | error x => cases hos
    | ok os' =>
      obtain rfl : o :: os' = os := Except.ok.inj hos
      obtain ⟨hfirst, visit'⟩ := visit.again
      obtain ⟨hrest, tour'⟩ := ih os' rfl
      refine ⟨hfirst.trans hrest, fun m hm => ?_⟩
      rw [List.filter_append]
      exact .next (visit' m (hrest.trans hm)) (tour' m hm)

theorem Trace.again {s : Summary} (trace : Trace reader false rules m calls w' (.ok s)) :
    Trace reader false rules w' (calls.filter Call.isQuestion) w'
      (.ok ⟨s.checked, s.failed, 0⟩) := by
  cases trace with
  | finished answer tour =>
    obtain ⟨hlisted, rfl, rfl⟩ := Memory.of_feeds_ok answer
    obtain ⟨hprecedes, tour'⟩ := tour.again _ rfl
    obtain ⟨hsame, hfails, -⟩ := hprecedes.unchanged
    have hfeeds : reader.answer .feeds w' = (.ok w'.feeds, w', []) :=
      Memory.answer_feeds (hfails.trans hlisted)
    rw [hsame] at hfeeds
    have again := Trace.finished hfeeds (tour' w' (Precedes.refl w'))
    rw [count_spent, ids_spent] at again
    exact again

/-- A live pass that succeeds has nothing to do when it is made again. The second pass finds the
same feeds selected and broken, kills nothing and leaves the memory as it is. Its calls are the
questions that the first pass asked, without its orders. -/
theorem run_live_again (m : Memory) (rules : List Rule) (s : Summary)
    (h : (run reader false rules m).1 = .ok s) :
    (run reader false rules (run reader false rules m).2.1).1 = .ok ⟨s.checked, s.failed, 0⟩ ∧
    (run reader false rules (run reader false rules m).2.1).2.1 =
      (run reader false rules m).2.1 ∧
    (run reader.recorded false rules ((run reader false rules m).2.1, [])).2.1.2 =
      (run reader.recorded false rules (m, [])).2.1.2.filter Call.isQuestion ∧
    ∀ ids status, .updateEntries ids status ∉
      (run reader.recorded false rules ((run reader false rules m).2.1, [])).2.1.2 := by
  obtain ⟨calls, w', result, trace⟩ := exists_trace reader false rules m
  obtain ⟨hresult, hmemory, hcalls⟩ := trace.run
  obtain rfl : result = .ok s := hresult.symm.trans h
  obtain ⟨hresult', hmemory', hcalls'⟩ := trace.again.run
  rw [hmemory, hcalls, hresult', hmemory', hcalls']
  refine ⟨rfl, rfl, rfl, fun ids status hc => ?_⟩
  exact Bool.false_ne_true (List.mem_filter.mp hc).2

/-- A feed is listed twice, one id is used for three entries, and one feed is broken. -/
def tangledMemory : Memory where
  feeds := [Rule.sampleFeed, { id := 8, url := "http://other.org/a.xml" },
    { Rule.sampleFeed with url := "http://other.org/b.xml" },
    { id := 9, url := "http://example.com/c.xml" }]
  entries := [(7, [Rule.moonEntry, Rule.sunEntry]),
    (8, [Rule.moonEntry, { id := 1, title := "Sky" }]), (9, [{ id := 5, title := "Moon rise" }])]
  brokenFeeds := [9]

/-- The entry on the sun is killed when its feed comes up a second time. In the second pass nothing
is left. -/
theorem run_live_again_tangled :
    (run reader false Rule.sampleRules tangledMemory).1 = .ok ⟨4, 1, 2⟩ ∧
    (run reader false Rule.sampleRules (run reader false Rule.sampleRules tangledMemory).2.1).1 =
      .ok ⟨4, 1, 0⟩ ∧
    (run reader.recorded false Rule.sampleRules
      ((run reader false Rule.sampleRules tangledMemory).2.1, [])).2.1.2 =
      [.feeds, .unreadEntries 7, .unreadEntries 8, .unreadEntries 7, .unreadEntries 9] := by
  have hok : (run reader false Rule.sampleRules tangledMemory).1 = .ok ⟨4, 1, 2⟩ := by
    decide +kernel
  obtain ⟨hresult, -, hcalls, -⟩ := run_live_again tangledMemory Rule.sampleRules _ hok
  refine ⟨hok, hresult, ?_⟩
  rw [hcalls]
  decide +kernel

end Pass

end Killfile

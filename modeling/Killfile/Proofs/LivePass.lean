import Killfile.Proofs.Memory

/-! What a live pass leaves in memory. Every call that kills an entry changes what later feeds are
read from, but it only ever turns an unread entry into a read one, so that the memory at any point of
the pass is told by the feeds that are done. -/

namespace Killfile

namespace Rule

/-- Some rule matches the entry that selects the feed itself or comes after one that does. -/
def Kills (rules : List Rule) (f : Feed) (e : Entry) : Prop :=
  ∃ i j : Fin rules.length, i ≤ j ∧ (rules.get i).selects f = true ∧ (rules.get j).HoldsOf e

instance (rules : List Rule) (f : Feed) (e : Entry) : Decidable (Kills rules f e) :=
  inferInstanceAs (Decidable (∃ _ _ : Fin rules.length, _))

theorem Kills.selects {rules : List Rule} {f : Feed} {e : Entry} (h : Kills rules f e) :
    ∃ r ∈ rules, r.selects f = true := by
  obtain ⟨i, -, -, hi, -⟩ := h
  exact ⟨rules.get i, List.get_mem rules i, hi⟩

end Rule

namespace Pass

open Memory (reader)

/-- An unread entry that is killed for one of the feeds, if it is stored under the id of that feed and
the entries of this id can be fetched. -/
def Doomed (m : Memory) (rules : List Rule) (fs : List Feed) (k : Int) (e : Entry) : Prop :=
  e.status = .unread ∧ k ∉ m.brokenFeeds ∧ ∃ f ∈ fs, f.id = k ∧ Rule.Kills rules f e

instance (m : Memory) (rules : List Rule) (fs : List Feed) (k : Int) (e : Entry) :
    Decidable (Doomed m rules fs k e) := inferInstanceAs (Decidable (_ ∧ _))

variable {m m' m'' : Memory} {rules : List Rule}

theorem doomed_nil {k : Int} {e : Entry} : ¬ Doomed m rules [] k e := by
  rintro ⟨-, -, f, hf, -⟩
  exact absurd hf (by simp)

theorem doomed_cons {f : Feed} {fs : List Feed} {k : Int} {e : Entry} :
    Doomed m rules (f :: fs) k e ↔ Doomed m rules [f] k e ∨ Doomed m rules fs k e := by
  simp only [Doomed, List.mem_cons, List.not_mem_nil, or_false]
  grind

theorem doomed_singleton {f : Feed} {k : Int} {e : Entry} :
    Doomed m rules [f] k e ↔
      e.status = .unread ∧ k ∉ m.brokenFeeds ∧ f.id = k ∧ Rule.Kills rules f e := by
  simp [Doomed]

/-- From the memory in which `p` is marked, calls lead to the one in which `q` is marked as well. The
entries that they order to be marked are those newly marked, and none of these orders fails. -/
structure Marks (m : Memory) (p : Int → Entry → Bool) (calls : List Call) (m' : Memory)
    (q : Int → Entry → Bool) : Prop where
  memory : m' = m.markRead fun k e => p k e || q k e
  updates : ∀ s ∈ m.stored, .updateEntries [s.2.id] .read ∈ calls ↔
    q s.1 s.2 = true ∧ p s.1 s.2 = false
  succeed : ∀ n, .updateEntries [n] .read ∈ calls → n ∉ m.failingUpdates

namespace Marks

variable {p q q' : Int → Entry → Bool} {calls calls' : List Call}

theorem congr (h : Marks m p calls m' q) (hq : ∀ s ∈ m.stored, q s.1 s.2 = q' s.1 s.2) :
    Marks m p calls m' q' where
  memory := h.memory.trans (Memory.markRead_congr fun s hs => by rw [hq s hs])
  updates s hs := by rw [h.updates s hs, hq s hs]
  succeed := h.succeed

theorem trans (h : Marks m p calls m' q)
    (h' : Marks m (fun k e => p k e || q k e) calls' m'' q') :
    Marks m p (calls ++ calls') m'' fun k e => q k e || q' k e where
  memory := by simpa only [Bool.or_assoc] using h'.memory
  updates s hs := by
    rw [List.mem_append, h.updates s hs, h'.updates s hs]
    cases p s.1 s.2 <;> cases q s.1 s.2 <;> cases q' s.1 s.2 <;> simp
  succeed n hn := by
    rcases List.mem_append.mp hn with hn | hn
    · exact h.succeed n hn
    · exact h'.succeed n hn

/-- A call that orders nothing to be marked may come first. -/
theorem cons {c : Call} (h : Marks m p calls m' q) (hc : ∀ n, c ≠ .updateEntries [n] .read) :
    Marks m p (c :: calls) m' q where
  memory := h.memory
  updates s hs := by
    rw [← h.updates s hs, List.mem_cons, or_iff_right (hc s.2.id).symm]
  succeed n hn := h.succeed n (List.mem_of_ne_of_mem (hc n).symm hn)

/-- Without any orders nothing is marked. -/
theorem nil (hq : ∀ s ∈ m.stored, q s.1 s.2 = false) : Marks m p [] (m.markRead p) q where
  memory := Memory.markRead_congr fun s hs => by rw [hq s hs, Bool.or_false]
  updates s hs := by simp [hq s hs]
  succeed n hn := absurd hn (by simp)

theorem mem_map_killCall {ids : List Int} {n : Int} :
    .updateEntries [n] .read ∈ ids.map (killCall false) ↔ n ∈ ids := by
  simp [killCall]

/-- Orders for these ids mark the entries with these ids. -/
theorem ofIds {ids : List Int} (hids : ∀ n ∈ ids, n ∉ m.failingUpdates)
    (h : ∀ s ∈ m.stored, s.2.id ∈ ids ↔ q s.1 s.2 = true ∧ p s.1 s.2 = false) :
    Marks m p (ids.map (killCall false))
      ((m.markRead p).markRead fun _ e => decide (e.id ∈ ids)) q where
  memory := by
    rw [Memory.markRead_markRead m p fun _ _ _ => rfl]
    refine Memory.markRead_congr fun s hs => ?_
    have hs := h s hs
    cases hp : p s.1 s.2 <;> simp_all
  updates s hs := by rw [← h s hs, mem_map_killCall]
  succeed n hn := hids n (mem_map_killCall.mp hn)

end Marks

/-- How a stretch of a live pass over some feeds ends. Either all that is doomed for the feeds is
marked, or an update fails, and then all that is doomed for the feeds before this one is marked, and
of what is doomed for this one the entries with smaller ids. -/
inductive Ends (m : Memory) (rules : List Rule) (fs : List Feed) (p : Int → Entry → Bool)
    (calls : List Call) (m' : Memory) {α : Type} : Except Failure α → Prop where
  | completed {a : α} (marks : Marks m p calls m' fun k e => Doomed m rules fs k e) :
      Ends m rules fs p calls m' (.ok a)
  | aborted {before after : List Feed} {f : Feed} {n : Int} {done : List Call} {x : Failure}
      (feeds : fs = before ++ f :: after) (fails : n ∈ m.failingUpdates)
      (victim : ∃ e, (f.id, e) ∈ m.stored ∧ e.id = n ∧ Doomed m rules [f] f.id e ∧
        ¬ Doomed m rules before f.id e ∧ p f.id e = false)
      (last : calls = done ++ [.updateEntries [n] .read])
      (marks : Marks m p done m' fun k e =>
        Doomed m rules before k e ∨ Doomed m rules [f] k e ∧ e.id < n) :
      Ends m rules fs p calls m' (.error x)

/-- The ids that are killed for a feed are those of its doomed entries that are not marked yet. -/
theorem mem_killed_unread {f : Feed} (hf : f.id ∉ m.brokenFeeds) (p : Int → Entry → Bool) {n : Int} :
    n ∈ Rule.killed rules f ((m.markRead p).unreadOf f.id) ↔
      ∃ e, (f.id, e) ∈ m.stored ∧ e.id = n ∧ Doomed m rules [f] f.id e ∧ p f.id e = false := by
  rw [Memory.unreadOf_markRead, Rule.mem_killed]
  simp only [List.mem_filter, Memory.mem_unreadOf, Bool.not_eq_true', doomed_singleton]
  constructor
  · rintro ⟨e, ⟨⟨he, hunread⟩, hp⟩, hid, hkills⟩
    exact ⟨e, he, hid, ⟨hunread, hf, trivial, hkills⟩, hp⟩
  · rintro ⟨e, he, hid, ⟨hunread, -, -, hkills⟩, hp⟩
    exact ⟨e, ⟨⟨he, hunread⟩, hp⟩, hid, hkills⟩

theorem id_mem_killed_unread (hm : (m.allEntries.map (·.id)).Nodup) {f : Feed}
    (hf : f.id ∉ m.brokenFeeds) (p : Int → Entry → Bool) {s : Int × Entry} (hs : s ∈ m.stored) :
    s.2.id ∈ Rule.killed rules f ((m.markRead p).unreadOf f.id) ↔
      Doomed m rules [f] s.1 s.2 ∧ p s.1 s.2 = false := by
  rw [mem_killed_unread hf]
  constructor
  · rintro ⟨e, he, hid, hdoomed⟩
    obtain rfl := Memory.eq_of_id_eq hm he hs hid
    exact hdoomed
  · rintro ⟨hdoomed, hp⟩
    obtain ⟨k, e⟩ := s
    obtain rfl := (doomed_singleton.mp hdoomed).2.2.1
    exact ⟨e, hs, rfl, hdoomed, hp⟩

/-- The part of an ascending list before one of its members holds the smaller members. -/
theorem mem_of_pairwise_lt {done rest : List Int} {n k : Int}
    (h : (done ++ n :: rest).Pairwise (· < ·)) : k ∈ done ↔ k ∈ done ++ n :: rest ∧ k < n := by
  obtain ⟨-, hrest, hdone⟩ := List.pairwise_append.mp h
  constructor
  · exact fun hk => ⟨List.mem_append_left _ hk, hdone k hk n List.mem_cons_self⟩
  · rintro ⟨hk, hlt⟩
    rcases List.mem_append.mp hk with hk | hk
    · exact hk
    · rcases List.mem_cons.mp hk with rfl | hk
      · exact absurd hlt (lt_irrefl k)
      · exact absurd ((List.pairwise_cons.mp hrest).1 k hk) (lt_asymm hlt)

theorem Visit.ends (hm : (m.allEntries.map (·.id)).Nodup) {p : Int → Entry → Bool} {f : Feed}
    {calls : List Call} {result : Except Failure Outcome}
    (h : Visit reader false rules f (m.markRead p) calls m' result) :
    Ends m rules [f] p calls m' result := by
  cases h with
  | unselected leaves =>
    refine .completed (Marks.nil fun s _ => decide_eq_false fun hd => ?_)
    obtain ⟨r, hr, hselects⟩ := (doomed_singleton.mp hd).2.2.2.selects
    exact Bool.false_ne_true ((leaves r hr).symm.trans hselects)
  | unfetched selects answer =>
    obtain ⟨hf, rfl⟩ := Memory.of_unreadEntries_error answer
    refine .completed (Marks.cons (Marks.nil fun s _ => decide_eq_false fun hd => ?_) nofun)
    obtain ⟨-, hk, hid, -⟩ := doomed_singleton.mp hd
    exact hk (hid ▸ hf)
  | failed selects answer list killing =>
    obtain ⟨hf, rfl, rfl⟩ := Memory.of_unreadEntries_ok answer
    rw [Memory.brokenFeeds_markRead] at hf
    obtain rfl := Rule.killList_iff.mp list
    obtain ⟨done, rest, hids, hdone, rfl, ⟨-, hok, -⟩ | ⟨n, rest, x, rfl, hn, -, rfl⟩⟩ :=
      killing.live
    · cases hok
    · have hfeeds : [f] = [] ++ f :: [] := rfl
      have hcalls : .unreadEntries f.id :: (done.map (killCall false) ++ [killCall false n]) =
          (.unreadEntries f.id :: done.map (killCall false)) ++ [.updateEntries [n] .read] := rfl
      have hvictim : n ∈ done ++ n :: rest := by simp
      rw [← hids, mem_killed_unread hf] at hvictim
      obtain ⟨e, he, hid, hdoomed, hp⟩ := hvictim
      refine .aborted hfeeds hn ⟨e, he, hid, hdoomed, doomed_nil, hp⟩ hcalls
        (Marks.cons (Marks.ofIds hdone fun s hs => ?_) nofun)
      have hsorted := Rule.pairwise_killed rules f ((m.markRead p).unreadOf f.id)
      rw [hids] at hsorted
      rw [mem_of_pairwise_lt hsorted, ← hids, id_mem_killed_unread hm hf p hs]
      simp only [decide_eq_true_eq, doomed_nil, false_or]
      exact and_right_comm
  | killed selects answer list killing =>
    obtain ⟨hf, rfl, rfl⟩ := Memory.of_unreadEntries_ok answer
    rw [Memory.brokenFeeds_markRead] at hf
    obtain rfl := Rule.killList_iff.mp list
    obtain ⟨done, rest, hids, hdone, rfl, ⟨rfl, -, rfl⟩ | ⟨n, rest, x, rfl, hn, hx, -⟩⟩ :=
      killing.live
    · rw [List.append_nil] at hids
      refine .completed (Marks.cons (Marks.ofIds hdone fun s hs => ?_) nofun)
      rw [← hids, id_mem_killed_unread hm hf p hs, decide_eq_true_eq]
    · cases hx

theorem Tour.ends (hm : (m.allEntries.map (·.id)).Nodup) {w : Memory} {fs : List Feed}
    {calls : List Call} {result : Except Failure (List Outcome)}
    (h : Tour reader false rules w fs calls m' result) {p : Int → Entry → Bool}
    (hw : w = m.markRead p) : Ends m rules fs p calls m' result := by
  induction h generalizing p with
  | done =>
    subst hw
    exact .completed (Marks.nil fun s _ => decide_eq_false doomed_nil)
  | failed visit =>
    subst hw
    cases visit.ends hm with
    | aborted feeds fails victim last marks =>
      exact .aborted (by rw [← List.singleton_append, feeds, List.append_assoc, List.cons_append])
        fails victim last marks
  | @next _ _ _ f fs _ _ _ _ visit rest ih =>
    subst hw
    cases visit.ends hm with
    | completed marks =>
      cases ih marks.memory with
      | completed marks' =>
        refine .completed ((marks.trans marks').congr fun s _ => ?_)
        rw [← Bool.decide_or, decide_eq_decide]
        exact doomed_cons.symm
      | @aborted before after g _ _ _ feeds fails victim last marks' =>
        have hfeeds : f :: fs = (f :: before) ++ g :: after := congrArg (List.cons f) feeds
        obtain ⟨e, he, hid, hdoomed, hbefore, hp⟩ := victim
        rw [Bool.or_eq_false_iff, decide_eq_false_iff_not] at hp
        have hvictim : ¬ Doomed m rules (f :: before) g.id e := fun hd =>
          (doomed_cons.mp hd).elim hp.2 hbefore
        refine .aborted hfeeds fails ⟨e, he, hid, hdoomed, hvictim, hp.1⟩
          (by rw [last, List.append_assoc]) ((marks.trans marks').congr fun s _ => ?_)
        rw [← Bool.decide_or, decide_eq_decide, ← or_assoc]
        exact or_congr_left doomed_cons.symm

theorem Trace.ends (hm : (m.allEntries.map (·.id)).Nodup) {calls : List Call}
    {result : Except Failure Summary} (h : Trace reader false rules m calls m' result) :
    (m.feedsFail = true ∧ m' = m ∧ ∃ x, result = .error x) ∨
      Ends m rules m.feeds (fun _ _ => false) calls m' result := by
  have hfirst : ∀ n, Call.feeds ≠ .updateEntries [n] .read := nofun
  cases h with
  | unlisted answer =>
    obtain ⟨hfail, rfl⟩ := Memory.of_feeds_error answer
    exact .inl ⟨hfail, rfl, _, rfl⟩
  | aborted answer tour =>
    obtain ⟨-, rfl, rfl⟩ := Memory.of_feeds_ok answer
    cases tour.ends hm (Memory.markRead_false _).symm with
    | aborted feeds fails victim last marks =>
      exact .inr (.aborted feeds fails victim (congrArg (List.cons _) last) (marks.cons hfirst))
  | finished answer tour =>
    obtain ⟨-, rfl, rfl⟩ := Memory.of_feeds_ok answer
    cases tour.ends hm (Memory.markRead_false _).symm with
    | completed marks => exact .inr (.completed (marks.cons hfirst))

/-- A live pass over a memory in which no id occurs twice marks as read, if it succeeds, just the
unread entries that the rules kill for a feed under whose id they are stored and can be fetched. If
an update fails, it marks just those whose updates came before: all there are for earlier feeds,
and for the feed of that update the ones with smaller ids. Nothing else of the memory changes. -/
theorem run_live_exact (m : Memory) (rules : List Rule) (hm : (m.allEntries.map (·.id)).Nodup) :
    (∀ s, (run reader false rules m).1 = .ok s →
      (run reader false rules m).2.1 = m.markRead fun k e => Doomed m rules m.feeds k e) ∧
    ∀ x, (run reader false rules m).1 = .error x →
      (m.feedsFail = true ∧ (run reader false rules m).2.1 = m) ∨
      ∃ before f after n done, m.feeds = before ++ f :: after ∧
        (run reader.recorded false rules (m, [])).2.1.2 = done ++ [.updateEntries [n] .read] ∧
        n ∈ m.failingUpdates ∧ (∀ k, .updateEntries [k] .read ∈ done → k ∉ m.failingUpdates) ∧
        (∃ e, (f.id, e) ∈ m.stored ∧ e.id = n ∧ Doomed m rules [f] f.id e ∧
          ¬ Doomed m rules before f.id e) ∧
        (run reader false rules m).2.1 = (m.markRead fun k e =>
          Doomed m rules before k e ∨ Doomed m rules [f] k e ∧ e.id < n) ∧
        ∀ k e, (k, e) ∈ m.stored → (.updateEntries [e.id] .read ∈ done ↔
          Doomed m rules before k e ∨ Doomed m rules [f] k e ∧ e.id < n) := by
  obtain ⟨calls, m', result, trace⟩ := exists_trace reader false rules m
  obtain ⟨hresult, hmemory, hcalls⟩ := trace.run
  rw [hresult, hmemory, hcalls]
  rcases trace.ends hm with ⟨hfail, rfl, x, rfl⟩ | ends
  · exact ⟨nofun, fun _ _ => .inl ⟨hfail, rfl⟩⟩
  · cases ends with
    | completed marks => exact ⟨fun _ _ => by simpa using marks.memory, nofun⟩
    | @aborted before after f n done _ feeds fails victim last marks =>
      obtain ⟨e, he, hid, hdoomed, hbefore, -⟩ := victim
      refine ⟨nofun, fun _ _ => .inr ⟨before, f, after, n, done, feeds, last, fails, marks.succeed,
        ⟨e, he, hid, hdoomed, hbefore⟩, by simpa using marks.memory, fun k e he => ?_⟩⟩
      simpa using marks.updates (k, e) he

/-- Two feeds, the second with two entries that are killed, and the updates that are to fail. -/
def moonMemory (failing : List Int) : Memory where
  feeds := [Rule.sampleFeed, { id := 8, url := "http://example.com/moon.xml" }]
  entries := [(7, [Rule.moonEntry, Rule.sunEntry]),
    (8, [{ id := 4, title := "Full Moon" }, { id := 3, title := "Moon rise" }])]
  failingUpdates := failing

/-- Without failures all entries on the moon are marked. When the update of the last one fails, the
ones before it are marked all the same. -/
theorem run_live_exact_moon :
    ((moonMemory []).allEntries.map (·.id)).Nodup ∧
    (run reader false Rule.sampleRules (moonMemory [])).1 = .ok ⟨2, 0, 3⟩ ∧
    (run reader false Rule.sampleRules (moonMemory [])).2.1 = ((moonMemory []).markRead fun k e =>
      Doomed (moonMemory []) Rule.sampleRules (moonMemory []).feeds k e) ∧
    ((moonMemory [4]).allEntries.map (·.id)).Nodup ∧
    (run reader false Rule.sampleRules (moonMemory [4])).1 = .error (.api 500 "boom") ∧
    ∃ before f after n, (moonMemory [4]).feeds = before ++ f :: after ∧ n ∈ [4] ∧
      (run reader false Rule.sampleRules (moonMemory [4])).2.1 = (moonMemory [4]).markRead fun k e =>
        Doomed (moonMemory [4]) Rule.sampleRules before k e ∨
          Doomed (moonMemory [4]) Rule.sampleRules [f] k e ∧ e.id < n := by
  have hok : (run reader false Rule.sampleRules (moonMemory [])).1 = .ok ⟨2, 0, 3⟩ := by
    decide +kernel
  have herror : (run reader false Rule.sampleRules (moonMemory [4])).1 =
      .error (.api 500 "boom") := by
    decide +kernel
  have hnodup : ((moonMemory []).allEntries.map (·.id)).Nodup := by decide
  have hnodup' : ((moonMemory [4]).allEntries.map (·.id)).Nodup := by decide
  refine ⟨hnodup, hok, (run_live_exact _ _ hnodup).1 _ hok, hnodup', herror, ?_⟩
  rcases (run_live_exact _ _ hnodup').2 _ herror with ⟨hfail, -⟩ |
    ⟨before, f, after, n, -, hfeeds, -, hn, -, -, hmemory, -⟩
  · exact absurd hfail (by decide)
  · exact ⟨before, f, after, n, hfeeds, hn, hmemory⟩

end Pass

end Killfile

import Killfile.Proofs.LivePass

/-! Simulated passes. A simulation only asks questions, and what it finds is what a live pass would do:
the orders of the live pass change no feed that comes after the one they are made for, so its later
feeds are read as if nothing had been changed. -/

namespace Killfile

/-- The call does not order anything. -/
def Call.isQuestion : Call → Bool
  | .updateEntries _ _ => false
  | _ => true

/-- What a simulation asks where a live pass makes a call. -/
def Call.simulated : Call → Call
  | .updateEntries [id] .read => .entry id
  | c => c

/-- Questions leave the reader as it is. -/
def Reader.KeptByQuestions {W : Type} (reader : Reader W) : Prop :=
  ∀ (c : Call) (w : W), c.isQuestion = true → (reader.answer c w).2.1 = w

theorem Memory.answer_question {c : Call} (hc : c.isQuestion = true) (m : Memory) :
    Memory.reader.answer c m = (m.reply c, m, []) := by
  cases c with
  | updateEntries ids status => exact absurd hc Bool.false_ne_true
  | me => rfl
  | feeds => rfl
  | unreadEntries feed => rfl
  | entry id => rfl

theorem Memory.keptByQuestions : Memory.reader.KeptByQuestions := fun c m hc => by
  rw [Memory.answer_question hc]

namespace Pass

section

variable {W : Type} {reader : Reader W} {rules : List Rule} {w w' : W} {calls : List Call}

/-- Calls that are all questions, so that they keep a reader that questions keep. -/
def Asks (reader : Reader W) (w : W) (calls : List Call) (w' : W) : Prop :=
  (∀ c ∈ calls, c.isQuestion = true) ∧ (reader.KeptByQuestions → w' = w)

namespace Asks

theorem nil : Asks reader w [] w := ⟨by simp, fun _ => rfl⟩

theorem one {c : Call} {a : Except Failure c.Answer} {log : Log} (hc : c.isQuestion = true)
    (answer : reader.answer c w = (a, w', log)) : Asks reader w [c] w' :=
  ⟨by simpa using hc, fun h => by rw [← h c w hc, answer]⟩

theorem append {w'' : W} {calls' : List Call} (h : Asks reader w calls w')
    (h' : Asks reader w' calls' w'') : Asks reader w (calls ++ calls') w'' :=
  ⟨fun c hc => (List.mem_append.mp hc).elim (h.1 c) (h'.1 c),
    fun kept => (h'.2 kept).trans (h.2 kept)⟩

end Asks

theorem Killing.asks {ids : List Int} {result : Except Failure Unit}
    (h : Killing reader true w ids calls w' result) : Asks reader w calls w' := by
  induction h with
  | done => exact Asks.nil
  | failed answer => exact Asks.one rfl answer
  | next answer rest ih => exact (Asks.one rfl answer).append ih

theorem Visit.asks {f : Feed} {result : Except Failure Outcome}
    (h : Visit reader true rules f w calls w' result) : Asks reader w calls w' := by
  cases h with
  | unselected leaves => exact Asks.nil
  | unfetched selects answer => exact Asks.one rfl answer
  | failed selects answer list killing => exact (Asks.one rfl answer).append killing.asks
  | killed selects answer list killing => exact (Asks.one rfl answer).append killing.asks

theorem Tour.asks {fs : List Feed} {result : Except Failure (List Outcome)}
    (h : Tour reader true rules w fs calls w' result) : Asks reader w calls w' := by
  induction h with
  | done => exact Asks.nil
  | failed visit => exact visit.asks
  | next visit rest ih => exact visit.asks.append ih

theorem Trace.asks {result : Except Failure Summary}
    (h : Trace reader true rules w calls w' result) : Asks reader w calls w' := by
  cases h with
  | unlisted answer => exact Asks.one rfl answer
  | aborted answer tour => exact (Asks.one rfl answer).append tour.asks
  | finished answer tour => exact (Asks.one rfl answer).append tour.asks

end

open Memory (reader)

/-- A memory that a simulation can predict: all feeds have ids of their own, no id of an entry is used
under two feeds, and no killed entry fails to be updated or looked up. -/
structure Predictable (m : Memory) (rules : List Rule) : Prop where
  feeds_distinct : (m.feeds.map (·.id)).Nodup
  entries_apart : ∀ s ∈ m.stored, ∀ t ∈ m.stored, s.2.id = t.2.id → s.1 = t.1
  succeeds : ∀ s ∈ m.stored, Doomed m rules m.feeds s.1 s.2 →
    s.2.id ∉ m.failingUpdates ∧ s.2.id ∉ m.failingEntries

/-- As far as some feeds are concerned, a memory answers like another. -/
structure Agrees (m w : Memory) (fs : List Feed) : Prop where
  brokenFeeds : w.brokenFeeds = m.brokenFeeds
  failingUpdates : w.failingUpdates = m.failingUpdates
  entriesOf : ∀ f ∈ fs, w.entriesOf f.id = m.entriesOf f.id

theorem Agrees.refl (m : Memory) (fs : List Feed) : Agrees m m fs := ⟨rfl, rfl, fun _ _ => rfl⟩

variable {m w w' : Memory} {rules : List Rule} {calls : List Call}

theorem Agrees.tail {f : Feed} {fs : List Feed} (h : Agrees m w (f :: fs)) : Agrees m w fs :=
  ⟨h.brokenFeeds, h.failingUpdates, fun g hg => h.entriesOf g (List.mem_cons_of_mem f hg)⟩

/-- What is marked under other feeds is not seen. -/
theorem Agrees.markRead {fs : List Feed} (h : Agrees m w fs) {p : Int → Entry → Bool}
    (hp : ∀ f ∈ fs, ∀ e ∈ m.entriesOf f.id, p f.id e = false) : Agrees m (w.markRead p) fs where
  brokenFeeds := h.brokenFeeds
  failingUpdates := h.failingUpdates
  entriesOf f hf := by
    rw [Memory.entriesOf_markRead, h.entriesOf f hf]
    refine (List.map_congr_left fun e he => ?_).trans (List.map_id _)
    rw [hp f hf e he]
    rfl

theorem exists_reply_entry {k n : Int} {e : Entry} (he : (k, e) ∈ m.stored) (hid : e.id = n)
    (hn : n ∉ m.failingEntries) : ∃ e', m.reply (.entry n) = .ok e' := by
  have hsome : (m.allEntries.find? fun e => e.id = n).isSome = true := by
    rw [List.find?_isSome, Memory.allEntries_eq]
    exact ⟨e, List.mem_map_of_mem he, by simpa using hid⟩
  obtain ⟨e', he'⟩ := Option.isSome_iff_exists.mp hsome
  exact ⟨e', by rw [Memory.reply, if_neg hn, he']⟩

theorem killing_simulated {ids : List Int} (h : ∀ n ∈ ids, ∃ e, m.reply (.entry n) = .ok e) :
    Killing reader true m ids (ids.map (killCall true)) m (.ok ()) := by
  induction ids with
  | nil => exact .done
  | cons n ids ih =>
    obtain ⟨⟨e, he⟩, h⟩ := List.forall_mem_cons.mp h
    have answer : reader.answer (.entry n) m = (.ok e, m, []) := by
      rw [Memory.answer_question rfl, he]
    exact .next answer (ih h)

theorem answer_unreadEntries {k : Int} (hk : k ∉ m.brokenFeeds) :
    reader.answer (.unreadEntries k) m = (.ok (m.unreadOf k), m, []) := by
  rw [Memory.answer_question rfl, Memory.reply, if_neg hk, Memory.unreadOf]

theorem answer_unreadEntries_of_broken {k : Int} (hk : k ∈ m.brokenFeeds) :
    reader.answer (.unreadEntries k) m = (.error (.other "feed unavailable"), m, []) := by
  rw [Memory.answer_question rfl, Memory.reply, if_pos hk]

/-- The ids that are killed for a feed. -/
theorem exists_stored_of_mem_killed {f : Feed} (hf : f ∈ m.feeds) (hbroken : f.id ∉ m.brokenFeeds)
    {n : Int} (hn : n ∈ Rule.killed rules f (m.unreadOf f.id)) :
    ∃ e, (f.id, e) ∈ m.stored ∧ e.id = n ∧ Doomed m rules m.feeds f.id e := by
  rw [← m.markRead_false, mem_killed_unread hbroken] at hn
  obtain ⟨e, he, hid, hdoomed, -⟩ := hn
  obtain ⟨hunread, -, -, hkills⟩ := doomed_singleton.mp hdoomed
  exact ⟨e, he, hid, hunread, hbroken, f, hf, rfl, hkills⟩

theorem map_simulated_killCall (ids : List Int) :
    (ids.map (killCall false)).map Call.simulated = ids.map (killCall true) := by
  rw [List.map_map]
  rfl

/-- Where a live pass updates the killed entries of a feed, a simulation looks all of them up. -/
theorem Killing.simulated (h : Predictable m rules) {f : Feed} {fs : List Feed} (hf : f ∈ m.feeds)
    (hfs : ∀ g ∈ fs, f.id ≠ g.id) (agrees : Agrees m w fs) (hbroken : f.id ∉ m.brokenFeeds)
    {ids : List Int} {result : Except Failure Unit}
    (hids : ids = Rule.killed rules f (m.unreadOf f.id))
    (killing : Killing reader false w ids calls w' result) :
    result = .ok () ∧ Agrees m w' fs ∧
      Killing reader true m ids (calls.map Call.simulated) m (.ok ()) := by
  have hstored : ∀ n ∈ ids, ∃ e, (f.id, e) ∈ m.stored ∧ e.id = n ∧ n ∉ m.failingUpdates ∧
      n ∉ m.failingEntries := by
    intro n hn
    obtain ⟨e, he, rfl, hdoomed⟩ := exists_stored_of_mem_killed hf hbroken (hids ▸ hn)
    exact ⟨e, he, rfl, h.succeeds _ he hdoomed⟩
  obtain ⟨done, rest, rfl, -, rfl, ⟨rfl, rfl, rfl⟩ | ⟨n, rest, x, rfl, hn, -, -⟩⟩ := killing.live
  · rw [List.append_nil] at hstored ⊢
    refine ⟨rfl, agrees.markRead fun g hg e he => decide_eq_false fun hid => ?_, ?_⟩
    · obtain ⟨e', he', hid', -⟩ := hstored e.id hid
      exact hfs g hg (h.entries_apart _ he' _ (Memory.mem_entriesOf.mp he) hid')
    · rw [map_simulated_killCall]
      refine killing_simulated fun n hn => ?_
      obtain ⟨e, he, hid, -, hlookup⟩ := hstored n hn
      exact exists_reply_entry he hid hlookup
  · obtain ⟨-, -, -, hupdate, -⟩ := hstored n (by simp)
    rw [agrees.failingUpdates] at hn
    exact absurd hn hupdate

/-- The visit that a simulation makes where a live pass makes its own. -/
theorem Visit.simulated (h : Predictable m rules) {f : Feed} {fs : List Feed} (hf : f ∈ m.feeds)
    (hfs : ∀ g ∈ fs, f.id ≠ g.id) (agrees : Agrees m w (f :: fs)) {result : Except Failure Outcome}
    (visit : Visit reader false rules f w calls w' result) :
    ∃ o, result = .ok o ∧ Agrees m w' fs ∧
      Visit reader true rules f m (calls.map Call.simulated) m (.ok o) := by
  have hentries : w.unreadOf f.id = m.unreadOf f.id := by
    rw [Memory.unreadOf, Memory.unreadOf, agrees.entriesOf f List.mem_cons_self]
  cases visit with
  | unselected leaves => exact ⟨_, rfl, agrees.tail, .unselected leaves⟩
  | unfetched selects answer =>
    obtain ⟨hbroken, rfl⟩ := Memory.of_unreadEntries_error answer
    rw [agrees.brokenFeeds] at hbroken
    exact ⟨_, rfl, agrees.tail, .unfetched selects (answer_unreadEntries_of_broken hbroken)⟩
  | failed selects answer list killing =>
    obtain ⟨hbroken, rfl, rfl⟩ := Memory.of_unreadEntries_ok answer
    rw [agrees.brokenFeeds] at hbroken
    rw [hentries] at list
    cases (killing.simulated h hf hfs agrees.tail hbroken (Rule.killList_iff.mp list)).1
  | killed selects answer list killing =>
    obtain ⟨hbroken, rfl, rfl⟩ := Memory.of_unreadEntries_ok answer
    rw [agrees.brokenFeeds] at hbroken
    rw [hentries] at list
    obtain ⟨-, agrees', killing'⟩ :=
      killing.simulated h hf hfs agrees.tail hbroken (Rule.killList_iff.mp list)
    exact ⟨_, rfl, agrees', .killed selects (answer_unreadEntries hbroken) list killing'⟩

theorem Tour.simulated (h : Predictable m rules) {fs : List Feed} {calls : List Call}
    {result : Except Failure (List Outcome)} (tour : Tour reader false rules w fs calls w' result)
    (hfs : ∀ f ∈ fs, f ∈ m.feeds) (hdistinct : (fs.map (·.id)).Nodup) (agrees : Agrees m w fs) :
    ∃ os, result = .ok os ∧ Tour reader true rules m fs (calls.map Call.simulated) m (.ok os) := by
  have apart : ∀ {f : Feed} {fs : List Feed}, ((f :: fs).map (·.id)).Nodup →
      ∀ g ∈ fs, f.id ≠ g.id := fun hd g hg hid =>
    (List.nodup_cons.mp hd).1 (List.mem_map.mpr ⟨g, hg, hid.symm⟩)
  induction tour with
  | done => exact ⟨[], rfl, .done⟩
  | failed visit =>
    obtain ⟨o, ho, -⟩ := visit.simulated h (hfs _ List.mem_cons_self) (apart hdistinct) agrees
    cases ho
  | next visit rest ih =>
    obtain ⟨o, ho, agrees', visit'⟩ :=
      visit.simulated h (hfs _ List.mem_cons_self) (apart hdistinct) agrees
    obtain rfl := Except.ok.inj ho
    obtain ⟨os, rfl, tour'⟩ := ih (List.forall_mem_cons.mp hfs).2
      (List.nodup_cons.mp hdistinct).2 agrees'
    rw [List.map_append]
    exact ⟨_, rfl, .next visit' tour'⟩

/-- The trace that a simulation has where a live pass has its own. No live pass ends early. -/
theorem Trace.simulated (h : Predictable m rules) {result : Except Failure Summary}
    (trace : Trace reader false rules m calls w' result) :
    Trace reader true rules m (calls.map Call.simulated) m result ∧
      ((∃ s, result = .ok s) ↔ m.feedsFail = false) := by
  cases trace with
  | unlisted answer =>
    obtain ⟨hfail, rfl⟩ := Memory.of_feeds_error answer
    exact ⟨.unlisted answer, by simp [hfail]⟩
  | aborted answer tour =>
    obtain ⟨-, rfl, rfl⟩ := Memory.of_feeds_ok answer
    obtain ⟨os, hos, -⟩ :=
      tour.simulated h (fun _ => id) h.feeds_distinct (Agrees.refl _ _)
    cases hos
  | finished answer tour =>
    obtain ⟨hlisted, rfl, rfl⟩ := Memory.of_feeds_ok answer
    obtain ⟨os, hos, tour'⟩ :=
      tour.simulated h (fun _ => id) h.feeds_distinct (Agrees.refl _ _)
    obtain rfl := Except.ok.inj hos
    exact ⟨.finished answer tour', by simp [hlisted]⟩

/-- Over a memory that can be predicted, a simulation has the result of a live pass, and its calls are
those of the live pass with a question for each order. Over any reader it gives no orders, and it
leaves every reader as it is that questions leave so, in particular every memory. -/
theorem run_simulated_exact (rules : List Rule) :
    (∀ m : Memory, Predictable m rules →
      (run reader true rules m).1 = (run reader false rules m).1 ∧
      ((∃ s, (run reader true rules m).1 = .ok s) ↔ m.feedsFail = false) ∧
      (run reader.recorded true rules (m, [])).2.1.2 =
        (run reader.recorded false rules (m, [])).2.1.2.map Call.simulated) ∧
    (∀ (W : Type) (r : Reader W) (w : W),
      (∀ ids status, .updateEntries ids status ∉ (run r.recorded true rules (w, [])).2.1.2) ∧
      (r.KeptByQuestions → (run r true rules w).2.1 = w)) ∧
    ∀ m : Memory, (run reader true rules m).2.1 = m := by
  have asks : ∀ (W : Type) (r : Reader W) (w : W),
      Asks r w (run r.recorded true rules (w, [])).2.1.2 (run r true rules w).2.1 := by
    intro W r w
    obtain ⟨calls, w', result, trace⟩ := exists_trace r true rules w
    obtain ⟨-, hstate, hcalls⟩ := trace.run
    rw [hstate, hcalls]
    exact trace.asks
  refine ⟨fun m h => ?_, fun W r w => ⟨fun ids status hc => ?_, (asks W r w).2⟩,
    fun m => (asks Memory reader m).2 Memory.keptByQuestions⟩
  · obtain ⟨calls, w', result, trace⟩ := exists_trace reader false rules m
    obtain ⟨trace', hfails⟩ := trace.simulated h
    obtain ⟨hresult, -, hcalls⟩ := trace.run
    obtain ⟨hresult', -, hcalls'⟩ := trace'.run
    rw [hresult, hresult', hcalls, hcalls']
    exact ⟨rfl, hfails, rfl⟩
  · exact absurd ((asks W r w).1 _ hc) Bool.false_ne_true

/-- Only the entry on the sun cannot be updated, and it is not killed. So the simulation finds what the
live pass does, and it looks up the three entries that the live pass marks. -/
theorem run_simulated_exact_moon :
    Predictable (moonMemory [2]) Rule.sampleRules ∧ reader.KeptByQuestions ∧
    (run reader true Rule.sampleRules (moonMemory [2])).1 =
      (run reader false Rule.sampleRules (moonMemory [2])).1 ∧
    (run reader true Rule.sampleRules (moonMemory [2])).1 = .ok ⟨2, 0, 3⟩ ∧
    (run reader.recorded false Rule.sampleRules (moonMemory [2], [])).2.1.2.map Call.simulated =
      [.feeds, .unreadEntries 7, .entry 1, .unreadEntries 8, .entry 3, .entry 4] ∧
    (run reader true Rule.sampleRules (moonMemory [2])).2.1 = moonMemory [2] := by
  have h : Predictable (moonMemory [2]) Rule.sampleRules := ⟨by decide, by decide, by decide +kernel⟩
  obtain ⟨predicted, kept, -⟩ := run_simulated_exact Rule.sampleRules
  obtain ⟨hresult, -, hcalls⟩ := predicted (moonMemory [2]) h
  refine ⟨h, Memory.keptByQuestions, hresult, by decide +kernel, ?_,
    (kept Memory reader (moonMemory [2])).2 Memory.keptByQuestions⟩
  rw [← hcalls]
  decide +kernel

end Pass

end Killfile

import Killfile.Proofs.IdleFeeds
import Killfile.Proofs.Schedule

/-! A single pass beside the first pass of a daemon. Both ask whom the key belongs to, read the
killfile and make a pass with its rules. The single pass is not begun when there are no rules, and it
tells its failures, while those of a daemon end no more than a pass. -/

namespace Killfile

namespace RuleSet

theorem ofContents_singleton (content : Except Failure String) :
    ofContents [content] = reloaded [] content := ofContents_append [] content

end RuleSet

namespace Pass

variable {W : Type} (reader : Reader W) (simulate : Bool)

theorem tour_of_no_rules (w : W) (fs : List Feed) :
    Tour reader simulate [] w fs [] w (.ok (fs.map fun _ => .unselected)) := by
  induction fs with
  | nil => exact .done
  | cons f fs ih => exact .next (.unselected (by simp)) ih

/-- Without rules a pass asks for the feeds and for nothing else. -/
theorem exists_trace_of_no_rules (w : W) :
    ∃ result, Trace reader simulate [] w [.feeds] (reader.answer .feeds w).2.1 result := by
  rcases h : reader.answer .feeds w with ⟨x | fs, v, log⟩
  · exact ⟨_, .unlisted h⟩
  · exact ⟨_, .of_tour h (tour_of_no_rules reader simulate v fs)⟩

end Pass

namespace Task

/-- What is seen of a command: how it ends, the state in which it leaves the reader, and its calls. -/
structure Seen (W α : Type) where
  result : α
  state : W
  calls : List Call

section

variable {W : Type} (reader : Reader W) (reading : Reading W) (interval : String)
  (runOnStart simulate : Bool) (w : W)

/-- A single pass. -/
def Seen.ofRun : Seen W (Outcome Summary) where
  result := (run reader reading simulate w).1
  state := (run reader reading simulate w).2.1
  calls := (run reader.recorded reading.onFst simulate (w, [])).2.1.2

/-- A daemon that is stopped after its first pass. -/
def Seen.ofDaemon : Seen W (Except Failure Unit) where
  result := (daemon reader [reading] interval runOnStart simulate w).1
  state := (daemon reader [reading] interval runOnStart simulate w).2.1
  calls := (daemon reader.recorded [reading.onFst] interval runOnStart simulate (w, [])).2.1.2

/-- A single pass beside the first pass of a daemon. A key that is refused ends both. Without rules the
single pass is over, and the other one asks for the feeds. Otherwise the calls are the same, and a
failure is told by the single pass alone, which then prints nothing. -/
inductive Beside : Seen W (Outcome Summary) → Seen W (Except Failure Unit) → Prop
  | refused {v : W} {x : Failure} {log : Log} (answer : reader.answer .me w = (.error x, v, log)) :
      Beside ⟨{ result := .error x }, v, [.me]⟩ ⟨.error x, v, [.me]⟩
  | unruled {v v' : W} {u : User} {content : Except Failure String} {log log' : Log}
      (answer : reader.answer .me w = (.ok u, v, log)) (reads : reading v = (content, v', log'))
      (rules : RuleSet.ofContents [content] = []) :
      Beside ⟨{ result := .ok {} }, v', [.me]⟩
        ⟨.ok (), (reader.answer .feeds v').2.1, [.me, .feeds]⟩
  | passed {v v' w' : W} {u : User} {content : Except Failure String} {log log' : Log}
      {calls : List Call} {s : Summary} (answer : reader.answer .me w = (.ok u, v, log))
      (reads : reading v = (content, v', log')) (rules : RuleSet.ofContents [content] ≠ [])
      (trace : Pass.Trace reader simulate (RuleSet.ofContents [content]) v' calls w' (.ok s)) :
      Beside ⟨{ result := .ok s, output := summaryLine simulate s }, w', .me :: calls⟩
        ⟨.ok (), w', .me :: calls⟩
  | aborted {v v' w' : W} {u : User} {content : Except Failure String} {log log' : Log}
      {calls : List Call} {x : Failure} (answer : reader.answer .me w = (.ok u, v, log))
      (reads : reading v = (content, v', log')) (rules : RuleSet.ofContents [content] ≠ [])
      (trace : Pass.Trace reader simulate (RuleSet.ofContents [content]) v' calls w' (.error x)) :
      Beside ⟨{ result := .error x }, w', .me :: calls⟩ ⟨.ok (), w', .me :: calls⟩

/-- The key is accepted, and the killfile that is read then brings no rules. -/
def Unruled : Prop :=
  (∃ u, (reader.answer .me w).1 = .ok u) ∧
    RuleSet.ofContents [(reading (reader.answer .me w).2.1).1] = []

end

variable {W : Type} {reader : Reader W} {reading : Reading W} {interval : String}
  {runOnStart simulate : Bool} {w v v' w' : W} {u : User} {content : Except Failure String}
  {log log' : Log} {calls : List Call}

theorem Seen.ofRun_of_refused {x : Failure} (answer : reader.answer .me w = (.error x, v, log)) :
    Seen.ofRun reader reading simulate w = ⟨{ result := .error x }, v, [.me]⟩ := by
  simp [Seen.ofRun, run, verify, answer]

theorem Seen.ofRun_of_unruled (answer : reader.answer .me w = (.ok u, v, log))
    (reads : reading v = (content, v', log')) (rules : RuleSet.ofContents [content] = []) :
    Seen.ofRun reader reading simulate w = ⟨{ result := .ok {} }, v', [.me]⟩ := by
  rw [RuleSet.ofContents_singleton] at rules
  have reads' : (reading.onFst : Reading (W × List Call)) (v, [.me]) =
      (content, (v', [.me]), log') := by
    simp [reads]
  simp [Seen.ofRun, run, verify, answer, RuleSet.load_apply reads, RuleSet.load_apply reads', rules]

theorem Seen.ofRun_of_trace {result : Except Failure Summary}
    (answer : reader.answer .me w = (.ok u, v, log)) (reads : reading v = (content, v', log'))
    (rules : RuleSet.ofContents [content] ≠ [])
    (trace : Pass.Trace reader simulate (RuleSet.ofContents [content]) v' calls w' result) :
    Seen.ofRun reader reading simulate w =
      ⟨match result with
        | .error x => { result := .error x }
        | .ok s => { result := .ok s, output := summaryLine simulate s }, w', .me :: calls⟩ := by
  rw [RuleSet.ofContents_singleton] at rules trace
  have reads' : (reading.onFst : Reading (W × List Call)) (v, [.me]) =
      (content, (v', [.me]), log') := by
    simp [reads]
  obtain ⟨_, hplain, hrecorded⟩ := trace.makes
  cases result <;> simp [Seen.ofRun, run, verify, answer, RuleSet.load_apply reads,
    RuleSet.load_apply reads', rules, hplain, hrecorded]

theorem Service.seen {result : Except Failure Unit}
    (h : Service reader interval simulate w [reading] calls w' result) :
    Seen.ofDaemon reader reading interval runOnStart simulate w = ⟨result, w', calls⟩ := by
  obtain ⟨hresult, hstate, hcalls⟩ := h.daemon runOnStart
  rw [Seen.ofDaemon, hresult, hstate, Seen.mk.injEq]
  exact ⟨rfl, rfl, congrArg Prod.snd hcalls⟩

theorem Seen.ofDaemon_of_trace {n : Nat} {result : Except Failure Summary}
    (valid : Interval.parse? interval = some n) (answer : reader.answer .me w = (.ok u, v, log))
    (reads : reading v = (content, v', log'))
    (trace : Pass.Trace reader simulate (RuleSet.ofContents [content]) v' calls w' result) :
    Seen.ofDaemon reader reading interval runOnStart simulate w = ⟨.ok (), w', .me :: calls⟩ := by
  obtain ⟨_, -, hrecorded⟩ := trace.makes
  have service := Service.served valid answer (.pass reads (hrecorded []) .ended)
  simpa using service.seen

theorem beside {n : Nat} (valid : Interval.parse? interval = some n) :
    Beside reader reading simulate w (.ofRun reader reading simulate w)
      (.ofDaemon reader reading interval runOnStart simulate w) := by
  rcases answer : reader.answer .me w with ⟨x | u, v, log⟩
  · have service : Service reader interval simulate w [reading] [.me] v (.error x) :=
      .refused valid answer
    rw [Seen.ofRun_of_refused answer, service.seen]
    exact .refused answer
  · rcases reads : reading v with ⟨content, v', log'⟩
    by_cases rules : RuleSet.ofContents [content] = []
    · obtain ⟨_, trace⟩ := Pass.exists_trace_of_no_rules reader simulate v'
      rw [← rules] at trace
      rw [Seen.ofRun_of_unruled answer reads rules, Seen.ofDaemon_of_trace valid answer reads trace]
      exact .unruled answer reads rules
    · obtain ⟨calls, w', result, trace⟩ :=
        Pass.exists_trace reader simulate (RuleSet.ofContents [content]) v'
      rw [Seen.ofRun_of_trace answer reads rules trace, Seen.ofDaemon_of_trace valid answer reads trace]
      cases result with
      | error x => exact .aborted answer reads rules trace
      | ok s => exact .passed answer reads rules trace

theorem Beside.calls_eq {once : Seen W (Outcome Summary)} {first : Seen W (Except Failure Unit)}
    (h : Beside reader reading simulate w once first) :
    once.calls.filter Call.isAboutEntries = first.calls.filter Call.isAboutEntries := by
  cases h <;> rfl

theorem unruled_iff (answer : reader.answer .me w = (.ok u, v, log))
    (reads : reading v = (content, v', log')) :
    Unruled reader reading w ↔ RuleSet.ofContents [content] = [] := by
  simp [Unruled, answer, reads]

theorem not_unruled_of_refused {x : Failure} (answer : reader.answer .me w = (.error x, v, log)) :
    ¬ Unruled reader reading w := by
  simp [Unruled, answer]

/-- Without rules the daemon leaves the reader as its call for the feeds does. Otherwise both leave it
in the same state. -/
theorem Beside.state {once : Seen W (Outcome Summary)} {first : Seen W (Except Failure Unit)}
    (h : Beside reader reading simulate w once first) :
    (Unruled reader reading w → first.state = (reader.answer .feeds once.state).2.1) ∧
      (¬ Unruled reader reading w → first.state = once.state) := by
  cases h with
  | refused answer => exact ⟨fun h => absurd h (not_unruled_of_refused answer), fun _ => rfl⟩
  | unruled answer reads rules =>
    exact ⟨fun _ => rfl, fun h => absurd ((unruled_iff answer reads).mpr rules) h⟩
  | passed answer reads rules trace =>
    exact ⟨fun h => absurd ((unruled_iff answer reads).mp h) rules, fun _ => rfl⟩
  | aborted answer reads rules trace =>
    exact ⟨fun h => absurd ((unruled_iff answer reads).mp h) rules, fun _ => rfl⟩

/-- A single pass and a daemon that is stopped after its first pass, over the same reader and killfile,
give the same orders and look up the same entries. They leave the reader in the same state, unless no
rules were loaded. Then the daemon lists the feeds in the state in which the single pass ends, and leaves
the reader as this does. All else that is seen of them is what `Beside` says. -/
theorem run_beside_daemon {W : Type} (reader : Reader W) (reading : Reading W) (interval : String)
    (n : Nat) (valid : Interval.parse? interval = some n) (runOnStart simulate : Bool) (w : W) :
    Beside reader reading simulate w (.ofRun reader reading simulate w)
      (.ofDaemon reader reading interval runOnStart simulate w) ∧
    (Seen.ofRun reader reading simulate w).calls.filter Call.isAboutEntries =
      (Seen.ofDaemon reader reading interval runOnStart simulate w).calls.filter
        Call.isAboutEntries ∧
    (Unruled reader reading w → (Seen.ofDaemon reader reading interval runOnStart simulate w).state =
      (reader.answer .feeds (Seen.ofRun reader reading simulate w).state).2.1) ∧
    (¬ Unruled reader reading w →
      (Seen.ofDaemon reader reading interval runOnStart simulate w).state =
        (Seen.ofRun reader reading simulate w).state) :=
  ⟨beside valid, (beside valid).calls_eq, (beside valid).state⟩

/-- A killfile of one rule, with an update that fails. The daemon makes the orders of the single pass,
leaves the reader in the same state, and does not tell the failure. From a killfile whose only line is
rejected no rules come, and the daemon asks once more than the single pass does. -/
theorem run_beside_daemon_moon :
    Interval.parse? "1h" = some 3600 ∧
    ¬ Unruled Memory.reader (.ofFile (.ok "ignore-article * \"title # Moon\"")) (Pass.moonMemory [4]) ∧
    (Seen.ofRun Memory.reader (.ofFile (.ok "ignore-article * \"title # Moon\"")) false
      (Pass.moonMemory [4])).result.result = .error (.api 500 "boom") ∧
    (Seen.ofDaemon Memory.reader (.ofFile (.ok "ignore-article * \"title # Moon\"")) "1h" true false
      (Pass.moonMemory [4])).result = .ok () ∧
    (Seen.ofDaemon Memory.reader (.ofFile (.ok "ignore-article * \"title # Moon\"")) "1h" true false
      (Pass.moonMemory [4])).calls.filter Call.isAboutEntries =
      [.updateEntries [1] .read, .updateEntries [3] .read, .updateEntries [4] .read] ∧
    (Seen.ofDaemon Memory.reader (.ofFile (.ok "ignore-article * \"title # Moon\"")) "1h" true false
      (Pass.moonMemory [4])).state =
      (Seen.ofRun Memory.reader (.ofFile (.ok "ignore-article * \"title # Moon\"")) false
        (Pass.moonMemory [4])).state ∧
    Unruled Memory.reader (.ofFile (.ok "# no rule")) (Pass.moonMemory []) ∧
    (Seen.ofRun Memory.reader (.ofFile (.ok "# no rule")) false (Pass.moonMemory [])).calls = [.me] ∧
    (Seen.ofDaemon Memory.reader (.ofFile (.ok "# no rule")) "1h" true false
      (Pass.moonMemory [])).calls = [.me, .feeds] ∧
    (Seen.ofDaemon Memory.reader (.ofFile (.ok "# no rule")) "1h" true false
      (Pass.moonMemory [])).state = Pass.moonMemory [] := by
  have valid : Interval.parse? "1h" = some 3600 := by decide +kernel
  have ruled : ¬ Unruled Memory.reader (.ofFile (.ok "ignore-article * \"title # Moon\""))
      (Pass.moonMemory [4]) := by
    rw [unruled_iff rfl rfl]
    decide +kernel
  have unruled : Unruled Memory.reader (.ofFile (.ok "# no rule")) (Pass.moonMemory []) := by
    rw [unruled_iff rfl rfl]
    decide +kernel
  obtain ⟨-, hcalls, -, hstate⟩ := run_beside_daemon Memory.reader
    (.ofFile (.ok "ignore-article * \"title # Moon\"")) "1h" 3600 valid true false
    (Pass.moonMemory [4])
  obtain ⟨-, -, hlisted, -⟩ := run_beside_daemon Memory.reader (.ofFile (.ok "# no rule")) "1h" 3600
    valid true false (Pass.moonMemory [])
  refine ⟨valid, ruled, by decide +kernel, by decide +kernel, ?_, hstate ruled, unruled,
    by decide +kernel, by decide +kernel, ?_⟩
  · rw [← hcalls]
    decide +kernel
  · rw [hlisted unruled]
    rfl

/-- A reader with killfiles, of which the first is taken away when the feeds are listed. -/
def turningReader {W : Type} (reader : Reader W) : Reader (W × List String) where
  answer
    | .feeds => fun s =>
      let (a, v, l) := reader.answer .feeds s.1
      (a, (v, s.2.tail), l)
    | c => (reader.answer c).onFst

/-- Reads the first of some killfiles. -/
def firstKillfile {W : Type} : Reading (W × List String) := fun s => (.ok (s.2.headD ""), s, [])

def turningKillfiles : List String := ["", "ignore-article * \"title # Moon\""]

/-- A user and a list without feeds. -/
def listingScript : Http.Script where
  responses := [
    { body := Text.Utf8.encode "\x7b\"id\":1,\"username\":\"admin\"\x7d" },
    { body := Text.Utf8.encode "[]" }]

/-- Listing the feeds may change the reader, and without rules only the daemon lists them. A server is
left with one response less than by the single pass. A reader is left with another killfile, and a
second pass of the daemon kills by that. -/
theorem run_beside_daemon_turning :
    Interval.parse? "1h" = some 3600 ∧
    (Seen.ofRun Pass.scriptReader (.ofFile (.ok "")) false listingScript).state.responses.length = 1 ∧
    (Seen.ofDaemon Pass.scriptReader (.ofFile (.ok "")) "1h" true false
      listingScript).state.responses.length = 0 ∧
    (Seen.ofRun (turningReader Memory.reader) firstKillfile false
      (Pass.moonMemory [], turningKillfiles)).state.2 = turningKillfiles ∧
    (Seen.ofDaemon (turningReader Memory.reader) firstKillfile "1h" true false
      (Pass.moonMemory [], turningKillfiles)).state.2 = turningKillfiles.tail ∧
    (daemon (turningReader Memory.reader).recorded [firstKillfile.onFst, firstKillfile.onFst] "1h" true
      false ((Pass.moonMemory [], turningKillfiles), [])).2.1.2 =
      [.me, .feeds, .feeds, .unreadEntries 7, .updateEntries [1] .read, .unreadEntries 8,
        .updateEntries [3] .read, .updateEntries [4] .read] := by
  refine ⟨?_, ?_, ?_, ?_, ?_, ?_⟩
  all_goals decide +kernel

end Task

end Killfile

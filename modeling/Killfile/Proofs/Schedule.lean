import Killfile.Proofs.LivePass
import Killfile.Proofs.Reading

/-! Passes one after the other. Each reads the killfile before it asks anything of the reader, and
it works with the rules of the last text that was read. Nothing else goes from one pass to the next
but the state of the reader, so a pass that ends with an error ends alone. -/

namespace Killfile

namespace RuleSet

/-- The rules of the last of some contents that is a text, none if there is no text among them. -/
def ofContents (contents : List (Except Failure String)) : RuleSet :=
  ((contents.filterMap Except.toOption).getLast?.map fun text => (Document.read text).rules).getD []

@[simp] theorem ofContents_nil : ofContents [] = [] := rfl

theorem ofContents_append (past : List (Except Failure String)) (content : Except Failure String) :
    ofContents (past ++ [content]) = reloaded (ofContents past) content := by
  cases content with
  | ok text => simp [ofContents, reloaded, Except.toOption]
  | error x => simp [ofContents, reloaded, Except.toOption]

end RuleSet

/-- A pass with a record that was begun before does what it does with a new one. -/
theorem Pass.run_recorded {W : Type} {reader : Reader W} {simulate : Bool} {rules : List Rule}
    {w w' : W} {calls : List Call} {result : Except Failure Summary} {log : Log}
    (h : run reader.recorded simulate rules (w, []) = (result, (w', calls), log)) :
    run reader simulate rules w = (result, w', log) ∧
      ∀ l, run reader.recorded simulate rules (w, l) = (result, (w', l ++ calls), log) := by
  obtain ⟨_, _, _, trace⟩ := exists_trace reader simulate rules w
  obtain ⟨_, hplain, hrecorded⟩ := trace.makes
  have hnew := hrecorded []
  rw [h, List.nil_append, Prod.mk.injEq, Prod.mk.injEq, Prod.mk.injEq] at hnew
  obtain ⟨rfl, ⟨rfl, rfl⟩, rfl⟩ := hnew
  exact ⟨hplain, hrecorded⟩

namespace Schedule

/-- The calls of passes, one list for each pass, when some contents of the killfile have been seen
before. A pass reads the killfile and works with the rules of the last text seen. The next pass
begins where it ended, with whatever result. -/
inductive Course {W : Type} (reader : Reader W) (simulate : Bool) :
    List (Except Failure String) → W → List (Reading W) → List (List Call) → W → Prop where
  | ended {past : List (Except Failure String)} {w : W} : Course reader simulate past w [] [] w
  | pass {past : List (Except Failure String)} {w v v' w' : W} {reading : Reading W}
      {readings : List (Reading W)} {content : Except Failure String}
      {result : Except Failure Summary} {calls : List Call} {later : List (List Call)}
      {log log' : Log} (reads : reading w = (content, v, log))
      (makes : Pass.run reader.recorded simulate (RuleSet.ofContents (past ++ [content])) (v, []) =
        (result, (v', calls), log'))
      (rest : Course reader simulate (past ++ [content]) v' readings later w') :
      Course reader simulate past w (reading :: readings) (calls :: later) w'

variable {W : Type} {reader : Reader W} {simulate : Bool}

theorem pass_state {reading : Reading W} {w v v' : W} {content : Except Failure String}
    {rules : RuleSet} {result : Except Failure Summary} {log log' : Log}
    (reads : reading w = (content, v, log))
    (makes : Pass.run reader simulate (RuleSet.reloaded rules content) v = (result, v', log')) :
    (pass reader simulate reading (w, rules)).2.1 = (v', RuleSet.reloaded rules content) := by
  cases result <;> simp [pass, RuleSet.load_apply reads, makes]

theorem passes_cons_state (reading : Reading W) (readings : List (Reading W)) (s : W × RuleSet) :
    (passes reader simulate (reading :: readings) s).2.1 =
      (passes reader simulate readings (pass reader simulate reading s).2.1).2.1 := rfl

/-- Passes make the calls of their course, whether or not a record is kept. -/
theorem Course.passes_state {past : List (Except Failure String)} {w w' : W}
    {readings : List (Reading W)} {calls : List (List Call)}
    (h : Course reader simulate past w readings calls w') :
    (passes reader simulate readings (w, RuleSet.ofContents past)).2.1.1 = w' ∧
    ∀ l, (passes reader.recorded simulate (readings.map Logged.onFst)
      ((w, l), RuleSet.ofContents past)).2.1.1 = (w', l ++ calls.flatten) := by
  induction h with
  | ended => exact ⟨rfl, fun l => by simp [passes]⟩
  | @pass past w v v' w' reading readings content result calls later log log' reads makes rest ih =>
    obtain ⟨hplain, hrecorded⟩ := Pass.run_recorded makes
    rw [RuleSet.ofContents_append] at hplain hrecorded ih
    refine ⟨?_, fun l => ?_⟩
    · rw [passes_cons_state, pass_state reads hplain]
      exact ih.1
    · have reads' : (reading.onFst : Reading (W × List Call)) (w, l) = (content, (v, l), log) := by
        simp [reads]
      rw [List.map_cons, passes_cons_state, pass_state reads' (hrecorded l), ih.2,
        List.flatten_cons, List.append_assoc]

variable (reader simulate)

theorem exists_course (past : List (Except Failure String)) (w : W) (readings : List (Reading W)) :
    ∃ calls w', Course reader simulate past w readings calls w' := by
  induction readings generalizing past w with
  | nil => exact ⟨[], w, .ended⟩
  | cons reading readings ih =>
    rcases reads : reading w with ⟨content, v, log⟩
    rcases makes : Pass.run reader.recorded simulate (RuleSet.ofContents (past ++ [content]))
      (v, []) with ⟨result, ⟨v', calls⟩, log'⟩
    obtain ⟨later, w', rest⟩ := ih (past ++ [content]) v'
    exact ⟨calls :: later, w', .pass reads makes rest⟩

end Schedule

namespace Task

open Schedule (Course)

/-- The calls of a daemon and how it ends. With an interval that is none it asks nothing, and one
that is refused asks nothing more. Any other makes its passes, and no error of theirs is its own. -/
inductive Service {W : Type} (reader : Reader W) (interval : String) (simulate : Bool) (w : W)
    (readings : List (Reading W)) : List Call → W → Except Failure Unit → Prop where
  | unscheduled (invalid : Interval.parse? interval = none) :
      Service reader interval simulate w readings [] w (.error (.settings (.ofInterval interval)))
  | refused {n : Nat} {w' : W} {x : Failure} {log : Log} (valid : Interval.parse? interval = some n)
      (answer : reader.answer .me w = (.error x, w', log)) :
      Service reader interval simulate w readings [.me] w' (.error x)
  | served {n : Nat} {v w' : W} {u : User} {log : Log} {calls : List (List Call)}
      (valid : Interval.parse? interval = some n) (answer : reader.answer .me w = (.ok u, v, log))
      (course : Course reader simulate [] v readings calls w') :
      Service reader interval simulate w readings (.me :: calls.flatten) w' (.ok ())

section

variable {W : Type} {reader : Reader W} {interval : String} {simulate : Bool} {w w' : W}
  {readings : List (Reading W)} {calls : List Call} {result : Except Failure Unit}

/-- A daemon does what its service says, whether or not a record is kept. -/
theorem Service.daemon (h : Service reader interval simulate w readings calls w' result)
    (runOnStart : Bool) :
    (Task.daemon reader readings interval runOnStart simulate w).1 = result ∧
    (Task.daemon reader readings interval runOnStart simulate w).2.1 = w' ∧
    (Task.daemon reader.recorded (readings.map Logged.onFst) interval runOnStart simulate
      (w, [])).2.1 = (w', calls) := by
  cases h with
  | unscheduled invalid => simp [Task.daemon, invalid]
  | refused valid answer => simp [Task.daemon, verify, valid, answer]
  | served valid answer course =>
    obtain ⟨hplain, hrecorded⟩ := course.passes_state
    rw [RuleSet.ofContents_nil] at hplain
    have hcalls := hrecorded [.me]
    rw [RuleSet.ofContents_nil, List.singleton_append] at hcalls
    simp [Task.daemon, verify, valid, answer, Schedule.run, hplain, hcalls]

variable (reader interval simulate w readings)

theorem exists_service :
    ∃ calls w' result, Service reader interval simulate w readings calls w' result := by
  cases hinterval : Interval.parse? interval with
  | none => exact ⟨_, _, _, .unscheduled hinterval⟩
  | some n =>
    rcases hme : reader.answer .me w with ⟨x | u, v, log⟩
    · exact ⟨_, _, _, .refused hinterval hme⟩
    · obtain ⟨calls, w', course⟩ := Schedule.exists_course reader simulate [] v readings
      exact ⟨_, _, _, .served hinterval hme course⟩

end

/-- A daemon ends as its service says after the calls of its service, and it has just one: `me`, and
then pass by pass what a pass asks that begins where the one before ended and has the rules of the
last text that the killfile held when some pass up to this one began. -/
theorem daemon_exact {W : Type} (reader : Reader W) (readings : List (Reading W))
    (interval : String) (runOnStart simulate : Bool) (w w' : W) (calls : List Call)
    (result : Except Failure Unit) :
    ((daemon reader readings interval runOnStart simulate w).1 = result ∧
      (daemon reader readings interval runOnStart simulate w).2.1 = w' ∧
      (daemon reader.recorded (readings.map Logged.onFst) interval runOnStart simulate
        (w, [])).2.1 = (w', calls)) ↔
    Service reader interval simulate w readings calls w' result := by
  constructor
  · rintro ⟨rfl, rfl, hcalls⟩
    obtain ⟨calls', w', result, h⟩ := exists_service reader interval simulate w readings
    obtain ⟨rfl, rfl, hcalls'⟩ := h.daemon runOnStart
    obtain rfl : calls' = calls := congrArg Prod.snd (hcalls'.symm.trans hcalls)
    exact h
  · exact fun h => h.daemon runOnStart

/-- A memory beside a killfile that is exchanged whenever the feeds are listed. -/
def shiftingReader : Reader (Memory × List (Except FileError String)) where
  answer c := fun s =>
    ((s.1.reply c), (s.1.after c, if c = .feeds then s.2.tail else s.2), [])

def shiftingReading : Reading (Memory × List (Except FileError String)) := fun s =>
  (((s.2.head?).getD (.error .notFound)).mapError .file, s, [])

/-- The first pass stops at an update that fails, and its rules stay for the second, which finds a
directory in place of the killfile. The third has other rules. -/
example : (daemon shiftingReader.recorded (List.replicate 3 shiftingReading.onFst) "1h" true false
    ((Pass.moonMemory [4], [.ok "ignore-article * \"title # Moon\"", .error .isDirectory,
      .ok "ignore-article * \"title # Sun\""]), [])).2.1.2 =
    [.me,
      .feeds, .unreadEntries 7, .updateEntries [1] .read, .unreadEntries 8,
        .updateEntries [3] .read, .updateEntries [4] .read,
      .feeds, .unreadEntries 7, .unreadEntries 8, .updateEntries [4] .read,
      .feeds, .unreadEntries 7, .updateEntries [2] .read, .unreadEntries 8] := by
  decide +kernel

end Task

end Killfile

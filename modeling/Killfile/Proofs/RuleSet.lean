import Killfile.Proofs.Document
import Killfile.Proofs.Reading

/-! The life of a set of rules. A step puts a whole set in force or changes nothing, so the rules
are at any time those of the last step that put any in force. A load that fails to read is no such
step, while one that reads a text without rules is. -/

namespace Killfile

namespace RuleSet

variable {W : Type}

namespace Step

/-- The rules that a step puts in force, if it does so. -/
def installs (w : W) : Step W → Option RuleSet
  | .loadText text => some (Document.read text).rules
  | .load reading => (reading w).1.toOption.map fun text => (Document.read text).rules
  | .replace rules => some rules

/-- What a step leaves of the world outside of the rules. -/
def world (w : W) : Step W → W
  | .load reading => (reading w).2.1
  | _ => w

/-- What a step tells and what it reports. Of a text that is loaded the numbers of rules and of skipped
lines are told. An error is reported for each line that is skipped, with its number, and then each rule
as it is written. A text that is read comes to its numbers in the end, and a failure to read is one
error. -/
inductive Tells (w : W) : Step W → Option LoadSummary → Log → Prop where
  | text (text : String) : Tells w (.loadText text)
      (some ⟨(Document.read text).rules.length, (Document.read text).rejected.length⟩)
      (((Document.read text).rejected.map fun r => ⟨.error, "skipping killfile line",
          [("line", .int r.lineNumber), ("expression", .text r.line)]⟩) ++
        (Document.read text).rules.map fun r =>
          ⟨.debug, "parsed rule", [("rule", .text r.render)]⟩)
  | loaded {reading : Reading W} {text : String} {v : W} {log : Log}
      (reads : reading w = (.ok text, v, log)) : Tells w (.load reading) none
      (log ++ (((Document.read text).rejected.map fun r => ⟨.error, "skipping killfile line",
          [("line", .int r.lineNumber), ("expression", .text r.line)]⟩) ++
        ((Document.read text).rules.map fun r =>
          ⟨.debug, "parsed rule", [("rule", .text r.render)]⟩) ++
        [⟨.info, "loaded killfile", [("parsed", .int (Document.read text).rules.length),
          ("skipped", .int (Document.read text).rejected.length)]⟩]))
  | unreadable {reading : Reading W} {x : Failure} {v : W} {log : Log}
      (fails : reading w = (.error x, v, log)) : Tells w (.load reading) none
      (log ++ [⟨.error, "failed to read killfile, keeping current rules", []⟩])
  | replaced (rules : RuleSet) : Tells w (.replace rules) none []

theorem take_loadText (text : String) (w : W) (rules : RuleSet) :
    (Step.loadText text).take (w, rules) =
      (some ⟨(Document.read text).rules.length, (Document.read text).rejected.length⟩,
        (w, (Document.read text).rules), textEvents (Document.read text)) := by
  simp [take]

theorem take_load {reading : Reading W} {w v : W} {content : Except Failure String} {log : Log}
    (h : reading w = (content, v, log)) (rules : RuleSet) : (Step.load reading).take (w, rules) =
      (none, (v, reloaded rules content), log ++ readingEvents content) := by
  simp [take, load_apply h]

theorem take_state (step : Step W) (w : W) (rules : RuleSet) :
    (step.take (w, rules)).2.1 = (step.world w, (step.installs w).getD rules) := by
  cases step with
  | loadText text => rfl
  | replace rules' => rfl
  | load reading =>
    rcases h : reading w with ⟨content, v, log⟩
    rw [take_load h]
    cases content <;> simp [world, installs, h, reloaded, Except.toOption]

theorem tells_take (step : Step W) (w : W) (rules : RuleSet) :
    step.Tells w (step.take (w, rules)).1 (step.take (w, rules)).2.2 := by
  cases step with
  | loadText text =>
    rw [take_loadText]
    exact Tells.text text
  | replace rules' => exact Tells.replaced rules'
  | load reading =>
    rcases h : reading w with ⟨content, v, log⟩
    rw [take_load h]
    cases content with
    | ok text => exact Tells.loaded h
    | error x => exact Tells.unreadable h

/-- The lines that a step shows have the numbers that it tells, and nothing else is different. -/
theorem run_eq (step : Step W) (s : W × RuleSet) :
    step.run s = (step.document?, (step.take s).2) ∧
      (step.take s).1 = step.document?.map fun d => ⟨d.rules.length, d.rejected.length⟩ := by
  refine ⟨by simp [run], ?_⟩
  cases step <;> rfl

end Step

/-- What is known after a step: the rules in force, what the step told, and its events. -/
structure Record where
  rules : RuleSet
  told : Option LoadSummary
  log : Log

/-- Takes steps one after the other. -/
def history : List (Step W) → W × RuleSet → List Record
  | [], _ => []
  | step :: steps, s =>
    ⟨(step.take s).2.1.2, (step.take s).1, (step.take s).2.2⟩ :: history steps (step.take s).2.1

/-- The world after some steps. -/
def worldAfter (w : W) (steps : List (Step W)) : W := steps.foldl Step.world w

/-- The sets of rules that steps put in force, one after the other. -/
def installed : W → List (Step W) → List RuleSet
  | _, [] => []
  | w, step :: steps => (step.installs w).toList ++ installed (step.world w) steps

/-- The last set that steps put in force, or else the one that was there before. -/
def lastInstalled (rules : RuleSet) (w : W) (steps : List (Step W)) : RuleSet :=
  (installed w steps).getLast?.getD rules

theorem lastInstalled_cons (rules : RuleSet) (w : W) (step : Step W) (steps : List (Step W)) :
    lastInstalled rules w (step :: steps) =
      lastInstalled ((step.installs w).getD rules) (step.world w) steps := by
  rw [lastInstalled, lastInstalled, installed, List.getLast?_append]
  cases step.installs w <;> cases (installed (step.world w) steps).getLast? <;> rfl

theorem length_history (steps : List (Step W)) (s : W × RuleSet) :
    (history steps s).length = steps.length := by
  induction steps generalizing s with
  | nil => rfl
  | cons step steps ih => rw [history, List.length_cons, List.length_cons, ih]

theorem history_getElem? {steps : List (Step W)} {i : Nat} {step : Step W}
    (h : steps[i]? = some step) (w : W) (rules : RuleSet) :
    ∃ record, (history steps (w, rules))[i]? = some record ∧
      record.rules = ((step.installs (worldAfter w (steps.take i))).getD
        (lastInstalled rules w (steps.take i))) ∧
      record.rules = lastInstalled rules w (steps.take (i + 1)) ∧
      step.Tells (worldAfter w (steps.take i)) record.told record.log := by
  induction steps generalizing i w rules with
  | nil => cases h
  | cons first steps ih =>
    cases i with
    | zero =>
      obtain rfl : first = step := by simpa using h
      refine ⟨_, rfl, ?_, ?_, first.tells_take w rules⟩
      · rw [first.take_state]
        rfl
      · rw [first.take_state, List.take_succ_cons, lastInstalled_cons]
        rfl
    | succ i =>
      rw [List.getElem?_cons_succ] at h
      obtain ⟨record, hrecord, hrules, hlast, htells⟩ :=
        ih h (first.world w) ((first.installs w).getD rules)
      refine ⟨record, ?_, ?_, ?_, htells⟩
      · rw [history, List.getElem?_cons_succ, first.take_state, hrecord]
      · rw [List.take_succ_cons, lastInstalled_cons]
        exact hrules
      · rw [List.take_succ_cons, lastInstalled_cons]
        exact hlast

/-- At any point of a history the rules are those of the last step that replaced them, loaded a text
or read one, and there are none before the first such step. A step that fails to read leaves them as
they are. Each step tells and reports what it should: of a text that is loaded the rejected lines
come first and then the rules, both in the order of the lines, of one that is read their numbers
come last, and of a failure to read there is one event. Reading a file or a URL adds none to these. -/
theorem history_exact (w : W) (steps : List (Step W)) :
    (history steps (w, [])).length = steps.length ∧
    (∀ i step, steps[i]? = some step → ∃ record, (history steps (w, []))[i]? = some record ∧
      record.rules = lastInstalled [] w (steps.take (i + 1)) ∧
      (step.installs (worldAfter w (steps.take i)) = none →
        record.rules = lastInstalled [] w (steps.take i)) ∧
      step.Tells (worldAfter w (steps.take i)) record.told record.log) ∧
    (∀ text, (Document.read text).Lists (Document.lines text.toList)) ∧
    ∀ (read : String → Except FileError String) (t : Http.Transport W) (s : Source) (v : W),
      (∀ r v, (t.send r v).2.2 = []) → (s.reading read t v).2.2 = [] := by
  refine ⟨length_history steps _, fun i step h => ?_, Document.lists_read,
    fun read _ s v ht => Source.log_reading read ht s v⟩
  obtain ⟨record, hrecord, hkept, hlast, htells⟩ := history_getElem? h w []
  refine ⟨record, hrecord, hlast, fun hnone => ?_, htells⟩
  rw [hkept, hnone]
  rfl

/-- A text of a line that is no rule, a blank one and a rule. -/
def sampleText : String := "no rule\n\nignore-article * \"title # Moon\""

/-- The text, a missing file, a URL that is refused and then answered, a file with the text, and at
last no rules. -/
def sampleSteps : List (Step Http.Script) :=
  [.loadText sampleText, .load (.ofFile (.error .notFound)), .load Source.sampleReading,
    .load Source.sampleReading, .load (.ofFile (.ok sampleText)), .replace []]

def sampleScript : Http.Script :=
  { responses := [Source.sampleResponse 404, Source.sampleResponse 200] }

/-- The rules of the text stay until the URL is answered, and the refusal before is one event. The
text tells its numbers when it is loaded and reports them when it is read. -/
theorem history_exact_refused :
    (∀ r v, (Http.Script.transport.send r v).2.2 = []) ∧
    (history sampleSteps (sampleScript, [])).map Record.rules =
      [[Source.moonRule], [Source.moonRule], [Source.moonRule], [Source.sunRule],
        [Source.moonRule], []] ∧
    (∃ record, (history sampleSteps (sampleScript, []))[0]? = some record ∧
      record.told = some ⟨1, 1⟩ ∧ record.log =
        [⟨.error, "skipping killfile line", [("line", .int 1), ("expression", .text "no rule")]⟩,
          ⟨.debug, "parsed rule", [("rule", .text "ignore-article \"*\" \"title # Moon\"")]⟩]) ∧
    (∃ record, (history sampleSteps (sampleScript, []))[2]? = some record ∧
      record.rules = lastInstalled [] sampleScript (sampleSteps.take 2) ∧ record.told = none ∧
      record.log = [⟨.error, "failed to read killfile, keeping current rules", []⟩]) ∧
    ∃ record, (history sampleSteps (sampleScript, []))[4]? = some record ∧
      record.told = none ∧ record.log =
        [⟨.error, "skipping killfile line", [("line", .int 1), ("expression", .text "no rule")]⟩,
          ⟨.debug, "parsed rule", [("rule", .text "ignore-article \"*\" \"title # Moon\"")]⟩,
          ⟨.info, "loaded killfile", [("parsed", .int 1), ("skipped", .int 1)]⟩] := by
  have hread : Document.read sampleText =
      ⟨[Source.moonRule], [⟨1, "no rule", .malformed⟩]⟩ := by
    decide +kernel
  have hrender : Source.moonRule.render = "ignore-article \"*\" \"title # Moon\"" := by
    decide +kernel
  obtain ⟨-, hsteps, -, hquiet⟩ := history_exact sampleScript sampleSteps
  refine ⟨Http.Script.log_send, by decide +kernel, ?_, ?_, ?_⟩
  · obtain ⟨⟨rules, told, log⟩, hrecord, -, -, htells⟩ := hsteps 0 _ rfl
    refine ⟨⟨rules, told, log⟩, hrecord, ?_⟩
    dsimp only at htells ⊢
    cases htells with
    | text text => simp [hread, hrender]
  · obtain ⟨⟨rules, told, log⟩, hrecord, -, hkept, htells⟩ := hsteps 2 _ rfl
    have hlog := hquiet (fun _ => .error .notFound) Http.Script.transport (.url Source.sampleUrl)
      (worldAfter sampleScript (sampleSteps.take 2)) Http.Script.log_send
    refine ⟨⟨rules, told, log⟩, hrecord, hkept rfl, ?_⟩
    dsimp only at htells ⊢
    cases htells with
    | loaded reads => cases reads
    | unreadable fails =>
      obtain rfl := (congrArg (·.2.2) fails).symm.trans hlog
      exact ⟨rfl, rfl⟩
  · obtain ⟨⟨rules, told, log⟩, hrecord, -, -, htells⟩ := hsteps 4 _ rfl
    refine ⟨⟨rules, told, log⟩, hrecord, ?_⟩
    dsimp only at htells ⊢
    cases htells with
    | loaded reads =>
      cases reads
      simp [hread, hrender]
    | unreadable fails => cases fails

end RuleSet

end Killfile

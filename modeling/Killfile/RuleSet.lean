import Killfile.Document
import Killfile.Failure
import Killfile.Log

/-! The rules in force. They change as a whole, when a killfile has been read. -/

namespace Killfile

abbrev RuleSet := List Rule

/-- Reading the text of a killfile somewhere. -/
abbrev Reading (W : Type) := Logged W (Except Failure String)

/-- Reading a file that holds a text, or cannot be read. -/
def Reading.ofFile {W : Type} (text : Except FileError String) : Reading W :=
  fun w => (text.mapError .file, w, [])

namespace RuleSet

def rejectionEvent (r : Rejection) : Event :=
  ⟨.error, "skipping killfile line", [("line", .int r.lineNumber), ("expression", .text r.line)]⟩

def ruleEvent (r : Rule) : Event := ⟨.debug, "parsed rule", [("rule", .text r.render)]⟩

/-- The events of a text: lines that are no rules first, then rules. -/
def textEvents (d : Document) : Log := d.rejected.map rejectionEvent ++ d.rules.map ruleEvent

/-- How many rules a text has, and how many lines of it are skipped. -/
structure LoadSummary where
  parsed : Nat := 0
  skipped : Nat := 0
deriving DecidableEq, Repr

/-- Replaces the rules by those of a text. -/
def loadText (text : String) : Logged RuleSet LoadSummary := fun _ =>
  let d := Document.read text
  (⟨d.rules.length, d.rejected.length⟩, d.rules, textEvents d)

@[simp] theorem loadText_apply (text : String) (rules : RuleSet) :
    loadText text rules =
      (⟨(Document.read text).rules.length, (Document.read text).rejected.length⟩,
        (Document.read text).rules, textEvents (Document.read text)) := rfl

def loadedEvent (s : LoadSummary) : Event :=
  ⟨.info, "loaded killfile", [("parsed", .int s.parsed), ("skipped", .int s.skipped)]⟩

def unreadableEvent : Event := ⟨.error, "failed to read killfile, keeping current rules", []⟩

/-- Replaces the rules by those of a text that is read now. If it cannot be read the rules stay. -/
def load {W : Type} (reading : Reading W) : Logged (W × RuleSet) Unit := do
  match ← reading.onFst with
  | .ok text =>
    let s ← (loadText text).onSnd
    Logged.report (loadedEvent s)
  | .error _ => Logged.report unreadableEvent

/-- A step in the life of a set of rules. -/
inductive Step (W : Type) where
  | loadText (text : String)
  | load (reading : Reading W)
  | replace (rules : RuleSet)

namespace Step

variable {W : Type}

/-- Takes one step. Only of a text that is loaded the numbers are given back. -/
def take : Step W → Logged (W × RuleSet) (Option LoadSummary)
  | .loadText text => do pure (some (← (RuleSet.loadText text).onSnd))
  | .load reading => do
    RuleSet.load reading
    pure none
  | .replace rules => do
    (Logged.set rules).onSnd
    pure none

/-- The lines of a text that is loaded. -/
def document? : Step W → Option Document
  | .loadText text => some (Document.read text)
  | _ => none

/-- Takes one step and shows the lines that are counted, in place of their numbers. -/
def run (step : Step W) : Logged (W × RuleSet) (Option Document) := do
  let _ ← step.take
  pure step.document?

end Step

end RuleSet

end Killfile

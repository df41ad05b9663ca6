import Killfile.Pass
import Killfile.RuleSet

/-! Passes at an interval, each with the killfile as it is then. -/

namespace Killfile

/-- How passes are scheduled. -/
structure Schedule where
  /-- Seconds from one pass to the next. -/
  interval : Nat := 1800
  /-- The first pass comes at once, and not after an interval. -/
  runOnStart : Bool := true
  simulate : Bool := false
deriving DecidableEq, Repr

namespace Schedule

variable {W : Type} (reader : Reader W)

def startEvent (s : Schedule) : Event :=
  ⟨.info, "sidekick daemon started",
    [("interval", .text (Interval.render s.interval)), ("simulation", .flag s.simulate)]⟩

def completeEvent (s : Summary) : Event :=
  ⟨.info, "scheduled pass complete", [("killed", .int s.killed), ("failed_feeds", .int s.failed)]⟩

def abortEvent : Event := ⟨.error, "scheduled pass aborted", []⟩

def endEvent : Event := ⟨.info, "daemon shutting down", []⟩

/-- Reads the killfile, then makes a pass with the rules in force. A failure ends this pass alone. -/
def pass (simulate : Bool) (reading : Reading W) : Logged (W × RuleSet) Unit := do
  RuleSet.load reading
  let (_, rules) ← Logged.get
  match ← (Pass.run reader simulate rules).onFst with
  | .ok s => Logged.report (completeEvent s)
  | .error _ => Logged.report abortEvent

/-- Makes passes one after the other, each with its reading of the killfile. -/
def passes (simulate : Bool) : List (Reading W) → Logged (W × RuleSet) Unit
  | [] => pure ()
  | reading :: rest => do
    pass reader simulate reading
    passes simulate rest

/-- Makes passes from no rules on until it is told to end. -/
def run (s : Schedule) (readings : List (Reading W)) : Logged W Unit := do
  Logged.report s.startEvent
  (passes reader s.simulate readings).starting []
  Logged.report endEvent

end Schedule

end Killfile

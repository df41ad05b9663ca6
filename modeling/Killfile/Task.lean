import Killfile.Schedule

/-! What the commands do: one pass, passes at an interval, and a check of the killfile. -/

namespace Killfile

/-- How a command ends, and what it prints. -/
structure Outcome (α : Type) where
  result : Except Failure α
  output : String := ""
  errors : String := ""

namespace Task

variable {W : Type} (reader : Reader W)

def loginEvent (u : User) : Event :=
  ⟨.info, "user successfully logged in",
    [("username", .text u.username), ("user_id", .int u.id), ("is_admin", .flag u.isAdmin)]⟩

/-- Asks whom the key belongs to. -/
def verify : Logged W (Except Failure Unit) := do
  match ← reader.answer .me with
  | .error x => pure (.error x)
  | .ok u =>
    Logged.report (loginEvent u)
    pure (.ok ())

/-- The line that tells what a pass did. -/
def summaryLine (simulate : Bool) (s : Summary) : String :=
  let feeds := " (" ++ toString s.checked ++ " feeds checked)\n"
  if simulate then toString s.killed ++ " entries would be marked as read" ++ feeds
  else "Marked " ++ toString s.killed ++ " entries as read" ++ feeds

def noRulesEvent : Event := ⟨.info, "no rules loaded, nothing to do", []⟩

/-- Makes one pass, unless there are no rules. -/
def run (reading : Reading W) (simulate : Bool) : Logged W (Outcome Summary) := do
  match ← verify reader with
  | .error x => pure { result := .error x }
  | .ok _ =>
    let rules ← (do RuleSet.load reading; pure (← Logged.get).2 : Logged (W × RuleSet) _).starting []
    if rules = [] then
      Logged.report noRulesEvent
      pure { result := .ok {} }
    else
      match ← Pass.run reader simulate rules with
      | .error x => pure { result := .error x }
      | .ok s => pure { result := .ok s, output := summaryLine simulate s }

/-- Makes passes at an interval, from the readings of the killfile until it is told to end. The
interval is looked at before anything is asked of the reader. -/
def daemon (readings : List (Reading W)) (interval : String) (runOnStart simulate : Bool) :
    Logged W (Except Failure Unit) := do
  match Interval.parse? interval with
  | none => pure (.error (.settings (.ofInterval interval)))
  | some n =>
    match ← verify reader with
    | .error x => pure (.error x)
    | .ok _ =>
      Schedule.run reader ⟨n, runOnStart, simulate⟩ readings
      pure (.ok ())

def ruleLine (r : Rule) : String := r.render ++ "\n"

def rejectionLine (source : String) (r : Rejection) : String :=
  source ++ ":" ++ toString r.lineNumber ++ ": " ++ r.error.message ++ ": " ++ r.line ++ "\n"

def countLine (d : Document) : String :=
  "\n" ++ toString d.rules.length ++ " rules, " ++ toString d.rejected.length ++ " rejected lines\n"

/-- Prints the rules of a killfile and complains about the lines that are none. -/
def report (source : String) (d : Document) : Outcome Unit where
  result := if d.rejected = [] then .ok () else .error (.invalidKillfile d.rejected.length)
  output := String.join (d.rules.map ruleLine) ++ countLine d
  errors := String.join (d.rejected.map (rejectionLine source))

/-- Checks the killfile that is read. -/
def check (source : String) (reading : Reading W) : Logged W (Outcome Unit) := do
  match ← reading with
  | .error x => pure { result := .error x }
  | .ok text => pure (report source (Document.read text))

end Task

end Killfile

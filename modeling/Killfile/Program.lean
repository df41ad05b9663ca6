import Killfile.Client
import Killfile.CommandLine
import Killfile.Settings.File
import Killfile.Source
import Killfile.Task

/-! The whole program, from its arguments to what it prints and how it exits. -/

namespace Killfile

/-- What a program finds around it. -/
structure Surroundings (W : Type) where
  /-- The environment variables. -/
  env : String → Option String := fun _ => none
  /-- The texts of files. -/
  read : String → Except FileError String
  /-- The usual file of settings, if it is there. -/
  usualFile : Option String := none
  transport : Http.Transport W
  /-- Passes of a daemon until it is told to end. -/
  passes : Nat := 0

/-- How a program ends. The texts about its usage are not told here. -/
inductive Exit where
  | usage (error : UsageError)
  | done (code : Nat) (output errors : String)
deriving DecidableEq, Repr

namespace Program

/-- A cause behind a failure, indented, with its number if there are several. -/
def causeLine (number : Option Nat) (message : String) : String :=
  let margin := if number.isSome then "       " else "    "
  let lines := (Text.pieces '\n' message.toList).map String.ofList
  (match number with
    | some n => String.ofList (List.replicate (5 - (toString n).length) ' ') ++ toString n ++ ": "
    | none => "    ") ++ ("\n" ++ margin).intercalate lines

/-- What is printed of a failure and of the causes behind it. -/
def errorText (message : String) (causes : List String) : String :=
  let numbered := causes.zipIdx.map fun (m, n) =>
    causeLine (if causes.length = 1 then none else some n) m
  "Error: " ++ message ++
    (if causes = [] then "" else "\n\nCaused by:\n" ++ "\n".intercalate numbered) ++ "\n"

/-- An exit with a failure, after what has been printed. -/
def failed (f : Failure) (output errors : String) : Exit :=
  .done 1 output (errors ++ errorText f.message f.causes)

/-- The exit after a command. -/
def exitOf {α : Type} (o : Outcome α) : Exit :=
  match o.result with
  | .ok _ => .done 0 o.output o.errors
  | .error f => failed f o.output o.errors

variable {W : Type} (s : Surroundings W)

/-- The settings of the file that is named, or else of the usual one. -/
def fileSettings (named : Option String) : Except SettingsError Settings :=
  match named <|> s.usualFile with
  | some path => Settings.ofFile path (s.read path)
  | none => .ok {}

/-- The settings that an invocation works with. -/
def settings (i : Invocation) : Except SettingsError Settings :=
  (fileSettings s i.config).map fun file => file.overlay i.settings

/-- Carries out a command that talks to the feed reader. -/
def connected (settings : Settings)
    (command : Reader W → Reading W → Logged W Exit) : Logged W Exit :=
  match settings.connection with
  | .error e => pure (failed (.settings e) "" "")
  | .ok c => command (Client.reader s.transport c.credentials) (c.source.reading s.read s.transport)

/-- Carries out a command with the settings that it works with. -/
def execute (settings : Settings) : Command → Logged W Exit
  | .run simulate => connected s settings fun reader reading => do
    pure (exitOf (← Task.run reader reading simulate))
  | .daemon interval noInitialRun simulate => connected s settings fun reader reading => do
    let result ← Task.daemon reader (List.replicate s.passes reading)
      (interval.getD settings.interval) (!noInitialRun) simulate
    pure (exitOf { result })
  | .check =>
    match settings.source with
    | .error e => pure (failed (.settings e) "" "")
    | .ok source => do pure (exitOf (← Task.check source.render (source.reading s.read s.transport)))

/-- Runs the program. -/
def run (args : List String) : Logged W Exit :=
  match CommandLine.parse s.env args with
  | .error e => pure (.usage e)
  | .ok i =>
    match settings s i with
    | .error e => pure (.done 1 "" (errorText e.message e.causes))
    | .ok settings => execute s settings i.command

end Program

end Killfile

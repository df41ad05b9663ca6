import Killfile.Settings

/-! The command line: options for every command, three commands with options of their own, and
environment variables that stand in for options that are not given. -/

namespace Killfile

/-- Why a command line is not followed. -/
inductive UsageError where
  | help | helpWithoutCommand | unknownCommand | noCommand | unknownArgument | repeatedArgument
  | unusableValue | unwantedValue
deriving DecidableEq, Repr

/-- The code that the program ends with. Asking for help is no mistake. -/
def UsageError.code : UsageError → Nat
  | .help => 0
  | _ => 2

/-- Options, those of all commands first. -/
inductive Opt where
  | config | apiKey | apiEndpoint | killfilePath | killfileUrl | logLevel
  | interval | noInitialRun | simulate | help
deriving DecidableEq, Repr

namespace Opt

def takesValue : Opt → Bool
  | noInitialRun | simulate | help => false
  | _ => true

/-- The value is a path, which is never empty. -/
def isPath : Opt → Bool
  | config | killfilePath => true
  | _ => false

/-- The environment variable that stands in for an option. -/
def envName? : Opt → Option String
  | config => some "MF_CONFIG"
  | apiKey => some "MF_API_KEY"
  | apiEndpoint => some "MF_API_ENDPOINT"
  | killfilePath => some "MF_KILLFILE_PATH"
  | killfileUrl => some "MF_KILLFILE_URL"
  | logLevel => some "MF_LOG_LEVEL"
  | interval => some "MF_REFRESH_INTERVAL"
  | _ => none

def names : Opt → List String
  | config => ["config"]
  | apiKey => ["api-key"]
  | apiEndpoint => ["api-endpoint"]
  | killfilePath => ["killfile-path"]
  | killfileUrl => ["killfile-url"]
  | logLevel => ["log-level"]
  | interval => ["interval"]
  | noInitialRun => ["no-initial-run"]
  | simulate => ["simulate", "dry-run"]
  | help => ["help"]

def letter? : Opt → Option Char
  | interval => some 'i'
  | help => some 'h'
  | _ => none

/-- Options that every command has. -/
def shared : List Opt := [config, apiKey, apiEndpoint, killfilePath, killfileUrl, logLevel]

end Opt

namespace CommandLine

/-- Where an argument stands: before the command, or after it. -/
inductive Scope where
  | top | run | daemon | check
deriving DecidableEq, Repr

def Scope.options : Scope → List Opt
  | .top => Opt.shared ++ [.help]
  | .run => .simulate :: Opt.shared ++ [.help]
  | .daemon => [.interval, .noInitialRun, .simulate] ++ Opt.shared ++ [.help]
  | .check => Opt.shared ++ [.help]

/-- The scope behind the name of a command. -/
def Scope.ofCommand? : String → Option Scope
  | "run" => some .run
  | "daemon" => some .daemon
  | "check" => some .check
  | _ => none

/-- Options given so far, and one that has been named last but not been taken up yet. -/
structure Given where
  values : List (Opt × String) := []
  /-- The option named last, with its value once this is known. -/
  pending : Option (Opt × Option String) := none
deriving DecidableEq, Repr

namespace Given

/-- An option that still wants its value. -/
def wanting (g : Given) : Option Opt :=
  match g.pending with
  | some (o, none) => some o
  | _ => none

/-- Takes up an option with its value. -/
def take (g : Given) (o : Opt) (v : String) : Except UsageError Given :=
  if g.values.any fun p => p.1 = o then .error .repeatedArgument
  else if o.isPath ∧ v = "" then .error .unusableValue
  else .ok ⟨g.values ++ [(o, v)], none⟩

/-- Takes up the option that is pending. -/
def settle (g : Given) : Except UsageError Given :=
  match g.pending with
  | none => .ok g
  | some (_, none) => .error .unusableValue
  | some (o, some v) => take ⟨g.values, none⟩ o v

/-- Names an option, maybe with a value. -/
def name (g : Given) (o : Opt) (value : Option String) : Except UsageError Given := do
  if o.takesValue then
    let g ← g.settle
    match value with
    | some v => g.take o v
    | none => pure { g with pending := some (o, none) }
  else
    if value.isSome then throw .unwantedValue
    let g ← g.settle
    if o = .help then throw .help
    g.take o "true"

end Given

/-- Splits an option at its first equals sign. -/
def splitValue (s : List Char) : String × Option String :=
  (.ofList (s.takeWhile (· != '=')), (s.dropWhile (· != '=')).tail?.map String.ofList)

/-- An option by its name, after two dashes. -/
def readLong (scope : Scope) (g : Given) (s : List Char) : Except UsageError Given :=
  let (name, value) := splitValue s
  match scope.options.find? fun o => name ∈ o.names with
  | some o => g.name o value
  | none => .error .unknownArgument

/-- Options by their letters, after one dash. What follows the letter of an option with a value is
this value, with an equals sign before it or without one. -/
def readLetters (scope : Scope) (g : Given) : List Char → Except UsageError Given
  | [] => .ok g
  | c :: s =>
    match scope.options.find? fun o => o.letter? = some c with
    | none => .error .unknownArgument
    | some o =>
      if o.takesValue then
        match s with
        | [] => g.name o none
        | '=' :: v => g.name o (some (.ofList v))
        | v => g.name o (some (.ofList v))
      else do readLetters scope (← g.name o none) s

/-- What asking for help on commands gives. -/
def readHelp : List String → UsageError
  | [] => .help
  | [c] => if (Scope.ofCommand? c).isSome ∨ c = "help" then .help else .unknownCommand
  | _ => .unknownCommand

/-- An argument that is neither an option nor a value. Before the command it should have been one,
unless options have ended. -/
def strayArgument (scope : Scope) (ended : Bool) (a : String) : UsageError :=
  let isCommand := (Scope.ofCommand? a).isSome || a = "help"
  if scope = .top ∧ ¬(ended ∧ isCommand) then .unknownCommand else .unknownArgument

/-- Reads arguments up to the command, or to the end. The mark tells that options have ended. -/
def readArguments (scope : Scope) :
    Bool → Given → List String → Except UsageError (Given × Option (Scope × List String))
  | _, g, [] => .ok (g, none)
  | true, _, a :: _ => .error (strayArgument scope true a)
  | false, g, a :: rest =>
    match g.wanting, scope, Scope.ofCommand? a with
    | none, .top, some command => .ok (g, some (command, rest))
    | wanting, _, _ =>
      if wanting = none ∧ scope = .top ∧ a = "help" then .error (readHelp rest)
      else match a.toList with
        | ['-', '-'] => readArguments scope true g rest
        | '-' :: '-' :: s => do readArguments scope false (← readLong scope g s) rest
        | '-' :: c :: s => do readArguments scope false (← readLetters scope g (c :: s)) rest
        | _ =>
          match wanting with
          | some o => readArguments scope false { g with pending := some (o, some a) } rest
          | none => .error (strayArgument scope false a)

/-- A value of an option, and whether it was given on the command line. -/
structure Value where
  text : String
  isExplicit : Bool
deriving DecidableEq, Repr

/-- Adds what the environment holds for the options of a scope that are not given. -/
def addVariables (env : String → Option String) (values : List (Opt × String)) :
    List Opt → Except UsageError (List (Opt × Value))
  | [] => .ok (values.map fun p => (p.1, ⟨p.2, true⟩))
  | o :: os =>
    match if values.any fun p => p.1 = o then none else o.envName?.bind env with
    | none => addVariables env values os
    | some v =>
      if o.isPath ∧ v = "" then .error .unusableValue
      else (addVariables env values os).map fun vs => vs ++ [(o, ⟨v, false⟩)]

/-- All values of the options of a scope. -/
def complete (env : String → Option String) (scope : Scope) (g : Given) :
    Except UsageError (List (Opt × Value)) := do
  addVariables env (← g.settle).values scope.options

def find? (o : Opt) (values : List (Opt × Value)) : Option Value :=
  (values.find? fun p => p.1 = o).map (·.2)

/-- The value of an option that may stand before the command and after it. What is given comes before
what the environment holds, and what stands after the command before the rest. -/
def choose (before after : Option Value) : Option String :=
  match before, after with
  | some b, some a => some (if b.isExplicit ∧ ¬a.isExplicit then b.text else a.text)
  | b, a => (a <|> b).map (·.text)

end CommandLine

/-- A command with its options. -/
inductive Command where
  | run (simulate : Bool)
  | daemon (interval : Option String) (noInitialRun simulate : Bool)
  | check
deriving DecidableEq, Repr

/-- What a command line asks for. -/
structure Invocation where
  command : Command
  config : Option String
  settings : Settings
deriving DecidableEq, Repr

namespace CommandLine

/-- What the values before and after a command make. -/
def invocation (scope : Scope) (before after : List (Opt × Value)) : Invocation :=
  let text := fun o => choose (find? o before) (find? o after)
  let flag := fun o => (find? o after).isSome
  { command := match scope with
      | .daemon => .daemon (text .interval) (flag .noInitialRun) (flag .simulate)
      | .check => .check
      | _ => .run (flag .simulate)
    config := text .config
    settings := {
      apiEndpoint := text .apiEndpoint
      apiKey := text .apiKey
      killfilePath := text .killfilePath
      killfileUrl := text .killfileUrl
      logLevel := text .logLevel } }

/-- Reads a command line in an environment. The arguments of the command are looked at before what
the environment holds for those before it. -/
def parse (env : String → Option String) (args : List String) : Except UsageError Invocation := do
  let (g, command) ← readArguments .top false {} args
  match command with
  | some (scope, rest) =>
    let (h, _) ← readArguments scope false {} rest
    let after ← complete env scope h
    let before ← complete env .top g
    pure (invocation scope before after)
  | none =>
    let before ← complete env .top g
    if before = [] then throw .helpWithoutCommand
    throw .noCommand

end CommandLine

end Killfile

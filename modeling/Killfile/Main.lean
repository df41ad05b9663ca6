import Killfile.Files
import Killfile.Program

/-! The program at work. It reads the environment and the files that its settings name, and prints how
it ends. It has no network, so that no feed reader is reached. -/

namespace Killfile

/-- The environment variables that options have. -/
def readEnv : IO (List (String × String)) :=
  (Opt.interval :: Opt.shared).filterMapM fun o => do
    match o.envName? with
    | none => pure none
    | some name => pure ((← IO.getEnv name).map (name, ·))

/-- Why the system does not read a file. -/
def FileError.ofSystem : IO.Error → FileError
  | .noFileOrDirectory _ _ _ => .notFound
  | .inappropriateType _ 20 _ => .notDirectory
  | .inappropriateType _ 21 _ => .isDirectory
  | .permissionDenied _ n m => .other (m ++ " (os error " ++ toString n ++ ")")
  | e => .other (toString e)

/-- Reads the text of a file. -/
def readText (path : String) : IO (Except FileError String) := do
  if '\x00' ∈ path.toList then return .error .nulInName
  match ← (IO.FS.readBinFile path).toBaseIO with
  | .ok b => pure (FileContent.bytes b.toList).text
  | .error e => pure (.error (.ofSystem e))

/-- A file that has been read, and what reading it gave. -/
structure ReadFile where
  path : String
  text : Except FileError String

/-- Reads a file. -/
def ReadFile.ofPath (path : String) : IO ReadFile := do pure ⟨path, ← readText path⟩

/-- What surrounds a program that has read some files. -/
def Surroundings.ofFiles (env : List (String × String)) (usualFile : Option String)
    (files : List ReadFile) : Surroundings Unit where
  env name := env.lookup name
  read path := ((files.find? fun f => f.path = path).map (·.text)).getD (.error .notFound)
  usualFile := usualFile
  transport := .unreachable

/-- Reads the file of settings that the command line asks for, and then the killfile that the
settings name. -/
def readSurroundings (args : List String) : IO (Surroundings Unit) := do
  let env ← readEnv
  let usual := Settings.usualPath? (← IO.getEnv "XDG_CONFIG_HOME") (← IO.getEnv "HOME")
  let usual ← usual.toList.mapM ReadFile.ofPath
  let usual := usual.filter fun f => match f.text with
    | .error .notFound => false
    | _ => true
  let usualPath := (usual.map (·.path)).head?
  let named := (CommandLine.parse (fun n => env.lookup n) args).toOption.bind (·.config)
  let files := usual ++ (← named.toList.mapM ReadFile.ofPath)
  let s := Surroundings.ofFiles env usualPath files
  match (CommandLine.parse s.env args).toOption.map fun i =>
      (Program.settings s i).bind (·.source) with
  | some (.ok (.file path)) =>
    pure (.ofFiles env usualPath (files ++ [← ReadFile.ofPath path]))
  | _ => pure s

/-- What is told of the usage of the program. -/
def usageText : String := "Usage: sidekick [OPTIONS] <run|daemon|check>\n"

end Killfile

def main (args : List String) : IO UInt32 := do
  let surroundings ← Killfile.readSurroundings args
  match (Killfile.Program.run surroundings args ()).1 with
  | .usage e =>
    if e.code = 0 then IO.print Killfile.usageText else IO.eprint Killfile.usageText
    pure e.code.toUInt32
  | .done code output errors =>
    IO.print output
    IO.eprint errors
    pure code.toUInt32

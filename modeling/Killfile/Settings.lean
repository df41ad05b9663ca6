import Killfile.Failure
import Killfile.Log
import Killfile.Unicode.Case

/-! Settings in layers, and what they mean when they are put together. -/

namespace Killfile

/-- The settings of one layer. Each may be missing. -/
structure Settings where
  apiEndpoint : Option String := none
  apiKey : Option String := none
  killfilePath : Option String := none
  killfileUrl : Option String := none
  logLevel : Option String := none
  refreshInterval : Option String := none
deriving DecidableEq, Repr

/-- Where a killfile is read from. -/
inductive Source where
  | file (path : String)
  | url (u : Url)
deriving DecidableEq, Repr

def Source.render : Source → String
  | .file path => path
  | .url u => .ofList u.render

/-- Where the feed reader is, and the key that opens it. -/
structure Credentials where
  endpoint : Url
  key : String
deriving DecidableEq, Repr

namespace Settings

/-- The settings of a layer, with those of another on top of it. -/
def overlay (lower upper : Settings) : Settings where
  apiEndpoint := upper.apiEndpoint <|> lower.apiEndpoint
  apiKey := upper.apiKey <|> lower.apiKey
  killfilePath := upper.killfilePath <|> lower.killfilePath
  killfileUrl := upper.killfileUrl <|> lower.killfileUrl
  logLevel := upper.logLevel <|> lower.logLevel
  refreshInterval := upper.refreshInterval <|> lower.refreshInterval

/-- A text without blanks around it, if anything is left of it. -/
def nonBlank (s : Option String) : Option (List Char) :=
  s.bind fun s => if Text.trim s.toList = [] then none else some (Text.trim s.toList)

/-- Reads a setting that has to be a URL. -/
def readUrl (name : String) (s : List Char) : Except SettingsError Url :=
  match Url.parse s with
  | .ok u => .ok u
  | .error e => .error (.invalidUrl name e)

/-- The endpoint is asked for before the key, and read after both are there. -/
def credentials (s : Settings) : Except SettingsError Credentials :=
  match nonBlank s.apiEndpoint, nonBlank s.apiKey with
  | none, _ => .error (.missing "api_endpoint")
  | some _, none => .error (.missing "api_key")
  | some endpoint, some key => do
    let u ← readUrl "api_endpoint" endpoint
    pure ⟨u, .ofList key⟩

/-- A URL that is not blank comes before a path that is not empty. -/
def source (s : Settings) : Except SettingsError Source :=
  match nonBlank s.killfileUrl with
  | some u => (readUrl "killfile_url" u).map .url
  | none =>
    match s.killfilePath with
    | some path =>
      if path = "" then .error (.missing "killfile_path or killfile_url") else .ok (.file path)
    | none => .error (.missing "killfile_path or killfile_url")

def levelName (s : Settings) : String := s.logLevel.getD "info"

def interval (s : Settings) : String := s.refreshInterval.getD "30m"

/-- The least severe level that is reported. Case does not count in its name, and an unknown name
means errors alone. -/
def level (s : Settings) : Level :=
  match String.ofList (Unicode.lowercase s.levelName.toList) with
  | "trace" => .trace
  | "debug" => .debug
  | "info" => .info
  | "warn" => .warn
  | "warning" => .warn
  | _ => .error

/-- A key can be sent if it holds no control characters other than tabs. -/
def isSendable (key : String) : Bool :=
  key.toList.all fun c => (0x20 ≤ c.toNat && c.toNat != 0x7F) || c == '\t'

/-- What a command that talks to the feed reader works with. -/
structure Connection where
  credentials : Credentials
  source : Source
deriving DecidableEq, Repr

/-- Credentials are looked at before the source of the killfile. -/
def connection (s : Settings) : Except SettingsError Connection := do
  let c ← s.credentials
  if !isSendable c.key then throw .invalidKey
  pure ⟨c, ← s.source⟩

end Settings

end Killfile

import Killfile.Settings
import Killfile.Toml.Reader

/-! Settings from a file of TOML. -/

namespace Killfile.Settings

/-- A setting of a document. It may be missing and has to be a text. -/
def text? (ms : Toml.Members) (name : String) : Option (Option String) :=
  match Toml.find? name ms with
  | none => some none
  | some (.string s) => some (some s)
  | some _ => none

/-- The settings of a document. Other keys do not matter. -/
def ofToml? (ms : Toml.Members) : Option Settings := do
  some {
    apiEndpoint := ← text? ms "api_endpoint"
    apiKey := ← text? ms "api_key"
    killfilePath := ← text? ms "killfile_path"
    killfileUrl := ← text? ms "killfile_url"
    logLevel := ← text? ms "log_level"
    refreshInterval := ← text? ms "refresh_interval" }

/-- The settings of a file at a path, from what reading it gave. -/
def ofFile (path : String) (content : Except FileError String) : Except SettingsError Settings :=
  match content with
  | .error e => .error (.unreadable path e)
  | .ok text =>
    match (Toml.parse text.toList).bind ofToml? with
    | some s => .ok s
    | none => .error (.malformed path)

/-- Where the usual file of settings lies. The directory for settings has to be named from the root;
otherwise it is in the home of the user. -/
def usualPath? (configHome home : Option String) : Option String :=
  let fromRoot := configHome.filter fun d => d.toList.head? = some '/'
  let fromHome := (home.filter fun d => d ≠ "").map (· ++ "/.config")
  (fromRoot <|> fromHome).map (· ++ "/sidekick/config.toml")

end Killfile.Settings

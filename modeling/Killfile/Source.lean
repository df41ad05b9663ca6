import Killfile.Files
import Killfile.Http.Text
import Killfile.RuleSet
import Killfile.Settings

/-! Reading killfiles from files and over HTTP. -/

namespace Killfile.Source

variable {W : Type}

/-- Fetches a killfile. Any status that tells of no mistake will do. -/
def fetch (t : Http.Transport W) (u : Url) : Logged W (Except Failure String) := do
  let r : Http.Request := { method := .get, url := u }
  match ← t.exchange r with
  | .error e => pure (.error (.http e))
  | .ok a => pure (if a.isRefusal then .error (.http (.status r.shownUrl a.status)) else .ok a.text)

/-- Reads the killfile at a source. -/
def reading (read : String → Except FileError String) (t : Http.Transport W) (s : Source) :
    Reading W :=
  match s with
  | .file path => .ofFile (read path)
  | .url u => fetch t u

end Killfile.Source

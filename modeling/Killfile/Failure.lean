import Killfile.Interval
import Killfile.Url

/-! What can go wrong outside of killfiles, with the message of each failure and the failures behind
it. -/

namespace Killfile

/-- A file that cannot be read. -/
inductive FileError where
  | notFound | isDirectory | notDirectory | nameTooLong | nulInName | notText
  | other (message : String)
deriving DecidableEq, Repr

def FileError.message : FileError → String
  | .notFound => "No such file or directory (os error 2)"
  | .isDirectory => "Is a directory (os error 21)"
  | .notDirectory => "Not a directory (os error 20)"
  | .nameTooLong => "File name too long (os error 36)"
  | .nulInName => "file name contained an unexpected NUL byte"
  | .notText => "stream did not contain valid UTF-8"
  | .other m => m

/-- Settings that cannot be used. -/
inductive SettingsError where
  | unreadable (path : String) (error : FileError)
  | malformed (path : String)
  | missing (name : String)
  | invalidUrl (name : String) (error : UrlError)
  | invalidKey
  | invalidInterval (text : String)
deriving DecidableEq, Repr

namespace SettingsError

def message : SettingsError → String
  | unreadable path e => "Failed to read config file at " ++ path ++ ": " ++ e.message
  | malformed path => "Failed to parse config file at " ++ path ++ ": TOML parse error"
  | missing name => "Missing setting: " ++ name
  | invalidUrl name e => "Invalid URL for " ++ name ++ ": " ++ e.message
  | invalidKey => "API key is not a valid header value"
  | invalidInterval t =>
    "Invalid interval: " ++ t ++ ". Use a format like '30s', '15m', '1h' or '1d'"

/-- Messages of the failures behind one. -/
def causes : SettingsError → List String
  | unreadable _ e => [e.message]
  | malformed _ => ["TOML parse error"]
  | invalidUrl _ e => [e.message]
  | _ => []

/-- An interval that cannot be read is told in its normal form. -/
def ofInterval (text : String) : SettingsError :=
  invalidInterval (.ofList (Interval.normal text))

end SettingsError

/-- An exchange over HTTP that gives no answer, or a status that counts as none. -/
inductive HttpError where
  /-- The request cannot be made for such a URL. -/
  | unsupported (url : String)
  /-- The request or its answer is lost, for the reasons given from the general to the particular. -/
  | unanswered (url : String) (reasons : List String)
  /-- The answer has a status of failure. -/
  | status (url : String) (code : Nat)
deriving DecidableEq, Repr

namespace HttpError

def message : HttpError → String
  | unsupported url => "builder error for url (" ++ url ++ ")"
  | unanswered url _ => "error sending request for url (" ++ url ++ ")"
  | status url code =>
    "HTTP status " ++ (if code < 500 then "client" else "server") ++ " error (" ++ toString code ++
      ") for url (" ++ url ++ ")"

def causes : HttpError → List String
  | unsupported _ => ["URL scheme is not allowed"]
  | unanswered _ reasons => reasons
  | status _ _ => []

end HttpError

/-- Why work was given up. -/
inductive Failure where
  | http (error : HttpError)
  /-- The feed reader refused a request. -/
  | api (status : Nat) (message : String)
  /-- An answer of the feed reader makes no sense. -/
  | json
  | invalidUrl (error : UrlError)
  | file (error : FileError)
  | entryNotFound (id : Int)
  | settings (error : SettingsError)
  | invalidKillfile (rejected : Nat)
  | other (message : String)
deriving DecidableEq, Repr

namespace Failure

def message : Failure → String
  | http e => "HTTP error: " ++ e.message
  | api status m => "API error (" ++ toString status ++ "): " ++ m
  | json => "JSON error: malformed value"
  | invalidUrl e => "Invalid URL: " ++ e.message
  | file e => "IO error: " ++ e.message
  | entryNotFound id => "Entry not found: " ++ toString id
  | settings e => "Configuration error: " ++ e.message
  | invalidKillfile n => toString n ++ " killfile line(s) could not be parsed"
  | other m => m

/-- Messages of the failures behind one, from the nearest on. -/
def causes : Failure → List String
  | http e => e.message :: e.causes
  | json => ["malformed value"]
  | invalidUrl e => [e.message]
  | file e => [e.message]
  | settings e => e.message :: e.causes
  | _ => []

end Failure

end Killfile

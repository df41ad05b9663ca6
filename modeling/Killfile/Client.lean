import Killfile.Feed.Decoding
import Killfile.Http.Status
import Killfile.Json.Reader
import Killfile.Reader
import Killfile.Settings
import Killfile.Http

/-! The feed reader behind an API over HTTP. Each call is one request, and the answer to it is
classified by its status. -/

namespace Killfile

open Json (required? optional?)

namespace Client

/-- Ids between commas. -/
def renderIds (ids : List Int) : String := ",".intercalate (ids.map toString)

/-- The order to give entries a status, as an object of JSON. -/
def updateBody (ids : List Int) (status : EntryStatus) : String :=
  "\x7b\"entry_ids\":[" ++ renderIds ids ++ "],\"status\":\"" ++ status.name ++ "\"\x7d"

/-- The path of a call below the version of the API. -/
def path : Call → String
  | .me => "me"
  | .feeds => "feeds"
  | .unreadEntries feed => "feeds/" ++ toString feed ++ "/entries?status=" ++ EntryStatus.unread.name
  | .entry id => "entries/" ++ toString id
  | .updateEntries _ _ => "entries"

/-- The URL of a path. What the path of the endpoint begins with is kept, slashes at its end are
not. -/
def url (endpoint : Url) (path : String) : Except UrlError Url :=
  Url.parse ((endpoint.render.reverse.dropWhile (· == '/')).reverse ++ "/v1/".toList ++ path.toList)

/-- The request of a call. -/
def request (c : Credentials) (call : Call) : Except UrlError Http.Request := do
  let u ← url c.endpoint (path call)
  match call with
  | .updateEntries ids status =>
    pure ⟨.put, u, some c.key, some "application/json", updateBody ids status⟩
  | _ => pure { method := .get, url := u, token := some c.key }

/-- The message in an answer that refuses a request. -/
def refusalMessage? (body : List UInt8) : Option String := do
  let m ← (← Json.ofBytes body).record? ["error_message"]
  required? m "error_message" Json.text?

/-- A message for every status: that of the answer, else the usual phrase for the status. -/
def refusal (r : Http.Response) : Failure :=
  .api r.status ((refusalMessage? r.body).getD ((Http.phrase? r.status).getD "unexpected response"))

/-- Unread entries with their number as the server tells it. -/
structure EntryPage where
  total : Int
  entries : List Entry

def EntryPage.ofJson? (j : Json) : Option EntryPage := do
  let m ← j.record? ["total", "entries"]
  some ⟨← optional? m "total" 0 Json.int64?, ← optional? m "entries" [] (Json.list? Entry.ofJson?)⟩

/-- Decodes the body of an answer. -/
def decodeBody {α : Type} (ofJson? : Json → Option α) (r : Http.Response) : Except Failure α :=
  match (Json.ofBytes r.body).bind ofJson? with
  | some a => .ok a
  | none => .error .json

def pageEvent (feed : Int) (p : EntryPage) : Event :=
  ⟨.debug, "fetched unread entries", [("feed_id", .int feed), ("total", .int p.total)]⟩

/-- What an answer of success means, and what is reported of it. -/
def accept (r : Http.Response) : (call : Call) → Except Failure call.Answer × Log
  | .me => (decodeBody User.ofJson? r, [])
  | .feeds => (decodeBody (Json.list? Feed.ofJson?) r, [])
  | .unreadEntries feed =>
    match decodeBody EntryPage.ofJson? r with
    | .ok p => (.ok p.entries, [pageEvent feed p])
    | .error e => (.error e, [])
  | .entry _ => (decodeBody Entry.ofJson? r, [])
  | .updateEntries _ _ => (.ok (), [])

/-- What an answer that is none of success means. Only an entry can be not found. -/
def refuse (r : Http.Response) : Call → Failure
  | .entry id => if r.status = 404 then .entryNotFound id else refusal r
  | _ => refusal r

/-- What an answer means for a call. -/
def classify (call : Call) (r : Http.Response) : Except Failure call.Answer × Log :=
  if r.isSuccess then accept r call else (.error (refuse r call), [])

/-- The feed reader with these credentials. -/
def reader {W : Type} (t : Http.Transport W) (c : Credentials) : Reader W where
  answer call :=
    match request c call with
    | .error e => pure (.error (.invalidUrl e))
    | .ok r => do
      match ← t.exchange r with
      | .error e => pure (.error (.http e))
      | .ok a => fun w => ((classify call a).1, w, (classify call a).2)

end Client

end Killfile

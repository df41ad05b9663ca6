import Killfile.Failure
import Killfile.Log

/-! Requests and responses of HTTP, and what carries them. -/

namespace Killfile

namespace Http

inductive Method where
  | get | put
deriving DecidableEq, Repr

def Method.name : Method → String
  | .get => "GET"
  | .put => "PUT"

/-- A request. The token tells who asks. -/
structure Request where
  method : Method
  url : Url
  token : Option String := none
  contentType : Option String := none
  body : String := ""
deriving DecidableEq, Repr

namespace Request

/-- Path and query, as they are sent. -/
def target (r : Request) : String := .ofList (r.url.path ++ Url.renderQuery r.url.query)

/-- The URL as it is shown. Who asks is not told. -/
def shownUrl (r : Request) : String := .ofList { r.url with username := [], password := [] }.render

end Request

structure Response where
  status : Nat := 200
  contentType : Option String := none
  body : List UInt8 := []
deriving DecidableEq, Repr

namespace Response

def isSuccess (r : Response) : Bool := 200 ≤ r.status && r.status < 300

/-- The status tells of a mistake, be it of the one who asks or of the one who answers. -/
def isRefusal (r : Response) : Bool := 400 ≤ r.status && r.status < 600

end Response

/-- Carries requests to servers and brings back what they answer. -/
structure Transport (W : Type) where
  send : Request → Logged W (Except HttpError Response)

namespace Transport

variable {W : Type}

/-- Sends a request. No other URLs than those of the web are allowed. -/
def exchange (t : Transport W) (r : Request) : Logged W (Except HttpError Response) :=
  if r.url.scheme = "http".toList ∨ r.url.scheme = "https".toList then t.send r
  else pure (.error (.unsupported r.shownUrl))

/-- Why a host cannot be reached without a network. Names other than that of the machine itself
cannot even be looked up. -/
def unreachableReasons (host : Option Url.Host) : List String :=
  let byName := match host with
    | some (.domain d) => d != "localhost".toList
    | _ => false
  "client error (Connect)" :: (if byName then
    ["dns error", "failed to lookup address information: Temporary failure in name resolution"]
  else ["tcp connect error", "Network is unreachable (os error 101)"])

/-- A transport without a network. -/
def unreachable : Transport W where
  send r := pure (.error (.unanswered r.shownUrl (unreachableReasons r.url.host)))

end Transport

/-- A server that answers requests with responses prepared in order and keeps the requests. -/
structure Script where
  responses : List Response := []
  requests : List Request := []
deriving DecidableEq, Repr

namespace Script

/-- A response as it is sent. Two statuses allow no body. -/
def sent (r : Response) : Response :=
  if r.status = 204 ∨ r.status = 304 then { r with body := [] } else r

/-- When no response is left, the connection is closed without one. -/
def transport : Transport Script where
  send r := fun s =>
    match s.responses with
    | a :: rest => (.ok (sent a), ⟨rest, s.requests ++ [r]⟩, [])
    | [] =>
      (.error (.unanswered r.shownUrl ["client error (SendRequest)", "connection closed before message completed"]),
        ⟨[], s.requests ++ [r]⟩, [])

theorem requests_send (r : Request) (s : Script) :
    (transport.send r s).2.1.requests = s.requests ++ [r] := by
  obtain ⟨responses, requests⟩ := s
  cases responses <;> rfl

theorem log_send (r : Request) (s : Script) : (transport.send r s).2.2 = [] := by
  obtain ⟨responses, requests⟩ := s
  cases responses <;> rfl

end Script

end Http

end Killfile

import Killfile.Proofs.Json.Records
import Killfile.Proofs.Requests

/-! What the answers of a feed reader mean. Each call sends one request, with the key of the reader, and
what it comes to is told by the status of the answer alone: only an answer of success is taken for what
was asked, and every other is a refusal that tells the status and a message. Entries that are not found
are the one exception. -/

namespace Killfile

namespace Http

variable {W : Type}

/-- The same transport with a record of the requests it carried. -/
def Transport.recorded (t : Transport W) : Transport (W × List Request) where
  send r := fun w =>
    let (a, v, l) := t.send r w.1
    (a, (v, w.2 ++ [r]), l)

@[simp] theorem Transport.recorded_send (t : Transport W) (r : Request) (w : W × List Request) :
    t.recorded.send r w = ((t.send r w.1).1, ((t.send r w.1).2.1, w.2 ++ [r]),
      (t.send r w.1).2.2) := rfl

end Http

namespace Client

open Url (IsHttp)

section Classes

variable {a : Http.Response} {call : Call} {j : Json} {m : String} {body : List UInt8}

end Classes

section Exchanges

variable {W : Type} {c : Credentials} {call : Call} {r : Http.Request} {t : Http.Transport W}

/-- What a call comes to is told by the one response to its request. -/
theorem answer_of_send (hr : request c call = .ok r) (hweb : IsHttp r.url.scheme) (w : W) :
    ((reader t c).answer call w).2.1 = (t.send r w).2.1 ∧
    ((reader t c).answer call w).1 = match (t.send r w).1 with
      | .error e => .error (.http e)
      | .ok a => (classify call a).1 := by
  have hexchange : t.exchange r = t.send r := if_pos hweb
  simp only [reader, hr, hexchange, Logged.bind_apply]
  cases (t.send r w).1 with
  | error e => exact ⟨rfl, rfl⟩
  | ok a => exact ⟨rfl, rfl⟩

/-- A reader behind an address without a path. -/
def homeCredentials : Credentials where
  endpoint := { scheme := "http".toList, host := some (.domain "h".toList), path := "/".toList }
  key := "k"

end Exchanges

end Client

end Killfile

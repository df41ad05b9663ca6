import Killfile.Source
import Killfile.Task

/-! Reading a killfile, and what a load and a check make of it. A response stands for a failure when
its status tells of a mistake, from 400 to 599. Every other response is taken for a killfile, be its
status one of success or not. -/

namespace Killfile

namespace Source

variable {W : Type} (read : String → Except FileError String) {t : Http.Transport W} {u : Url}
  {w v : W} {log : Log}

theorem reading_of_response {a : Http.Response}
    (h : t.exchange { method := .get, url := u } w = (.ok a, v, log)) :
    reading read t (.url u) w = (if a.isRefusal
      then .error (.http (.status (Http.Request.shownUrl { method := .get, url := u }) a.status))
      else .ok a.text, v, log) := by
  simp [reading, fetch, h]

theorem reading_of_no_response {e : HttpError}
    (h : t.exchange { method := .get, url := u } w = (.error e, v, log)) :
    reading read t (.url u) w = (.error (.http e), v, log) := by
  simp [reading, fetch, h]

/-- Reading a file reports nothing, and reading a URL only what the transport reports. -/
theorem log_reading (ht : ∀ r w, (t.send r w).2.2 = []) (s : Source) (w : W) :
    (s.reading read t w).2.2 = [] := by
  cases s with
  | file path => rfl
  | url u =>
    have hlog : (t.exchange { method := .get, url := u } w).2.2 = [] := by
      unfold Http.Transport.exchange
      split
      · exact ht _ w
      · rfl
    rcases h : t.exchange { method := .get, url := u } w with ⟨e | a, v, log⟩
    · rw [reading_of_no_response read h, ← hlog, h]
    · rw [reading_of_response read h, ← hlog, h]

end Source

namespace RuleSet

variable {W : Type}

/-- The rules after a killfile was read: those of its text, or those before if it has none. -/
def reloaded (rules : RuleSet) : Except Failure String → RuleSet
  | .ok text => (Document.read text).rules
  | .error _ => rules

/-- The events after a killfile was read. -/
def readingEvents : Except Failure String → Log
  | .ok text =>
    let d := Document.read text
    textEvents d ++ [loadedEvent ⟨d.rules.length, d.rejected.length⟩]
  | .error _ => [unreadableEvent]

theorem load_apply {reading : Reading W} {w v : W} {content : Except Failure String} {log : Log}
    (h : reading w = (content, v, log)) (rules : RuleSet) :
    load reading (w, rules) = ((), (v, reloaded rules content), log ++ readingEvents content) := by
  cases content with
  | ok text => simp [load, h, reloaded, readingEvents]
  | error x => simp [load, h, reloaded, readingEvents]

end RuleSet

namespace Task

variable {W : Type}

theorem check_of_text {reading : Reading W} {w v : W} {text : String} {log : Log}
    (h : reading w = (.ok text, v, log)) (source : String) :
    check source reading w = (report source (Document.read text), v, log) := by
  simp [check, h]

theorem check_of_failure {reading : Reading W} {w v : W} {x : Failure} {log : Log}
    (h : reading w = (.error x, v, log)) (source : String) :
    check source reading w = ({ result := .error x }, v, log) := by
  simp [check, h]

end Task

namespace Source

/-- A response that a server gives to the request for a killfile is a failure exactly when its
status lies between 400 and 599. Then the rules stay and a check fails. For all other responses,
those with a status below 200, from 300 to 399 or from 600 on among them, the body is the killfile:
its rules take the place of the ones before, even if it has none, and a check reports on it. -/
theorem reading_url_exact {W : Type} (read : String → Except FileError String)
    (t : Http.Transport W) (u : Url) (w v : W) (a : Http.Response) (log : Log)
    (h : t.exchange { method := .get, url := u } w = (.ok a, v, log)) :
    ((∃ x, (reading read t (.url u) w).1 = .error x) ↔ 400 ≤ a.status ∧ a.status < 600) ∧
    (∀ x, (reading read t (.url u) w).1 = .error x →
      (∀ rules, (RuleSet.load (reading read t (.url u)) (w, rules)).2.1 = (v, rules)) ∧
      ∀ source, (Task.check source (reading read t (.url u)) w).1 = { result := .error x }) ∧
    (¬ (400 ≤ a.status ∧ a.status < 600) →
      reading read t (.url u) w = (.ok a.text, v, log) ∧
      (∀ rules, (RuleSet.load (reading read t (.url u)) (w, rules)).2.1 =
        (v, (Document.read a.text).rules)) ∧
      ∀ source, (Task.check source (reading read t (.url u)) w).1 =
        Task.report source (Document.read a.text)) := by
  have hreading := reading_of_response read h
  have hrefusal : a.isRefusal = true ↔ 400 ≤ a.status ∧ a.status < 600 := by
    simp [Http.Response.isRefusal]
  by_cases hstatus : 400 ≤ a.status ∧ a.status < 600
  · rw [if_pos (hrefusal.mpr hstatus)] at hreading
    refine ⟨by simp [hreading, hstatus], fun x hx => ?_, absurd hstatus⟩
    obtain rfl := Except.error.inj ((congrArg Prod.fst hreading).symm.trans hx)
    refine ⟨fun rules => ?_, fun source => ?_⟩
    · rw [RuleSet.load_apply hreading]
      rfl
    · rw [Task.check_of_failure hreading]
  · rw [if_neg (mt hrefusal.mp hstatus)] at hreading
    refine ⟨by simp [hreading, hstatus], ?_, fun _ => ⟨hreading, fun rules => ?_, fun source => ?_⟩⟩
    · rw [hreading]
      exact nofun
    · rw [RuleSet.load_apply hreading]
      rfl
    · rw [Task.check_of_text hreading]

def sampleUrl : Url where
  scheme := "http".toList
  host := some (.ipv4 0x7F000001)
  port := some 8080
  path := "/killfile".toList

def sampleRequest : Http.Request := { method := .get, url := sampleUrl }

/-- A response with a killfile of one rule as its body. -/
def sampleResponse (status : Nat) : Http.Response where
  status := status
  body := Text.Utf8.encode "ignore-article * \"title # Sun\""

/-- Reading a killfile from a server that has its responses prepared. -/
def sampleReading : Reading Http.Script :=
  reading (fun _ => .error .notFound) Http.Script.transport (.url sampleUrl)

def moonRule : Rule := .ofFields "ignore-article" "*" "title" "#" "Moon"

def sunRule : Rule := .ofFields "ignore-article" "*" "title" "#" "Sun"

/-- A killfile that is not found leaves the rules as they are, whatever comes with the response. A
killfile for which there are several choices brings a new rule. -/
theorem reading_url_exact_notFound :
    Http.Script.transport.exchange sampleRequest ⟨[sampleResponse 404], []⟩ =
      (.ok (sampleResponse 404), ⟨[], [sampleRequest]⟩, []) ∧
    (RuleSet.load sampleReading (⟨[sampleResponse 404], []⟩, [moonRule])).2.1 =
      (⟨[], [sampleRequest]⟩, [moonRule]) ∧
    Http.Script.transport.exchange sampleRequest ⟨[sampleResponse 300], []⟩ =
      (.ok (sampleResponse 300), ⟨[], [sampleRequest]⟩, []) ∧
    (RuleSet.load sampleReading (⟨[sampleResponse 300], []⟩, [moonRule])).2.1 =
      (⟨[], [sampleRequest]⟩, [sunRule]) := by
  have hfound : Http.Script.transport.exchange sampleRequest ⟨[sampleResponse 404], []⟩ =
      (.ok (sampleResponse 404), ⟨[], [sampleRequest]⟩, []) := rfl
  have hchoices : Http.Script.transport.exchange sampleRequest ⟨[sampleResponse 300], []⟩ =
      (.ok (sampleResponse 300), ⟨[], [sampleRequest]⟩, []) := rfl
  obtain ⟨hfails, hkept, -⟩ := reading_url_exact (fun _ => .error .notFound) _ _ _ _ _ _ hfound
  obtain ⟨-, -, htaken⟩ := reading_url_exact (fun _ => .error .notFound) _ _ _ _ _ _ hchoices
  obtain ⟨x, hx⟩ := hfails.mpr (by decide)
  have hsun : (Document.read (sampleResponse 300).text).rules = [sunRule] := by decide +kernel
  refine ⟨hfound, (hkept x hx).1 [moonRule], hchoices, ?_⟩
  rw [← hsun]
  exact (htaken (by decide)).2.1 [moonRule]

/-- A response with status 304 is none of success, but it is read as a killfile without rules. It
takes all rules out of force, and a check finds nothing wrong with it. -/
theorem reading_url_notModified :
    ¬ (200 ≤ (304 : Nat) ∧ (304 : Nat) < 300) ∧
    (Http.Script.transport.exchange sampleRequest ⟨[{ status := 304 }], []⟩).1 =
      .ok { status := 304 } ∧
    (sampleReading ⟨[{ status := 304 }], []⟩).1 = .ok "" ∧
    (RuleSet.load sampleReading (⟨[{ status := 304 }], []⟩, [moonRule])).2.1.2 = [] ∧
    (Task.check (Source.url sampleUrl).render sampleReading ⟨[{ status := 304 }], []⟩).1.result =
      .ok () := by
  have hread : sampleReading ⟨[{ status := 304 }], []⟩ = (.ok "", ⟨[], [sampleRequest]⟩, []) := rfl
  refine ⟨by decide, rfl, by rw [hread], ?_, ?_⟩
  · rw [RuleSet.load_apply hread]
    rfl
  · rw [Task.check_of_text hread]
    rfl

end Source

end Killfile

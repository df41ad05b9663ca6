import Killfile.Proofs.Answers
import Killfile.Proofs.Json.Printing
import Killfile.Proofs.Json.Texts
import Killfile.Proofs.Utf8

/-! The order to give entries a status. It is read back from the body of its request as it was given, so
no two orders have one body. -/

namespace Killfile.Client

open Json (IsText Printed ofChars)
open Url (IsHttp)

/-- A body orders a status for entries: it is an object with one member for the ids, one for the status
and no others. -/
def Orders (body : String) (ids : List Int) (status : EntryStatus) : Prop :=
  ∃ v w, Json.ofBytes (Text.Utf8.encode body) =
      some (.object [(some "entry_ids", v), (some "status", w)]) ∧
    Json.list? Json.int64? v = some ids ∧ EntryStatus.ofJson? w = some status

section Bodies

variable {ids ids' : List Int} {status status' : EntryStatus}

/-- Ids as values. -/
def idValues (ids : List Int) : List Json := ids.map fun id => .number (some id)

/-- The value of an order. -/
def updateValue (ids : List Int) (status : EntryStatus) : Json :=
  .object [(some "entry_ids", .array (idValues ids)), (some "status", .string (some status.name))]

theorem spells_toString (id : Int) :
    Json.Spells (ofChars (toString id).toList) (.value (.number (some id))) := by
  rw [toList_toString]
  exact Json.spells_int id

theorem renderIds_cons_cons (id id' : Int) (ids : List Int) :
    (renderIds (id :: id' :: ids)).toList =
      (toString id).toList ++ ',' :: (renderIds (id' :: ids)).toList := by
  simp only [renderIds, List.map_cons]
  rw [String.intercalate_cons_cons]
  simp

/-- Ids between commas are the items of an array, if there are any. -/
theorem spells_renderIds (id : Int) (ids : List Int) :
    Json.Spells (ofChars (renderIds (id :: ids)).toList) (.items (idValues (id :: ids))) := by
  induction ids generalizing id with
  | nil =>
    have hone : renderIds [id] = toString id := by simp [renderIds]
    rw [hone]
    exact .lastItem (spells_toString id).bare
  | cons id' ids ih =>
    rw [renderIds_cons_cons, Json.ofChars_append, Json.ofChars_cons]
    exact .item (spells_toString id).bare (ih id')

theorem spells_ids (ids : List Int) :
    Json.Spells (some '[' :: (ofChars (renderIds ids).toList ++ [some ']']))
      (.value (.array (idValues ids))) := by
  cases ids with
  | nil => exact .emptyArray (by simp [renderIds, Json.Blanks])
  | cons id ids => exact .array (spells_renderIds id ids)

theorem printed_name (status : EntryStatus) : Printed status.name.toList := by
  cases status <;> decide

theorem toList_updateBody (ids : List Int) (status : EntryStatus) :
    (updateBody ids status).toList = '\x7b' :: ('"' :: ("entry_ids".toList ++ '"' :: ':' ::
      ('[' :: ((renderIds ids).toList ++ [']']))) ++ ',' :: ('"' :: ("status".toList ++ '"' :: ':' ::
        ('"' :: (status.name.toList ++ ['"'])))) ++ ['\x7d']) := by
  have htext : updateBody ids status = "\x7b\"entry_ids\":[" ++ renderIds ids ++
      "],\"status\":\"" ++ status.name ++ "\"\x7d" := rfl
  rw [htext]
  simp

theorem isText_updateBody (ids : List Int) (status : EntryStatus) :
    IsText (ofChars (updateBody ids status).toList) (updateValue ids status) := by
  have hids := (show Printed "entry_ids".toList by decide).member (spells_ids ids)
  have hstatus := (show Printed "status".toList by decide).member (printed_name status).spells
  have hobject := (Json.Spells.object (.moreMembers hids (.lastMember hstatus))).bare
  rw [String.ofList_toList, String.ofList_toList, String.ofList_toList] at hobject
  rw [IsText, toList_updateBody, updateValue]
  simpa only [Json.ofChars_cons, Json.ofChars_append, Json.ofChars_nil] using hobject

theorem ofBytes_updateBody (ids : List Int) (status : EntryStatus) :
    Json.ofBytes (Text.Utf8.encode (updateBody ids status)) = some (updateValue ids status) := by
  rw [Json.ofBytes, Text.Utf8.decode_encode]
  exact Json.parse_eq_some_iff.mpr (isText_updateBody ids status)

theorem updateValue_inj (h : updateValue ids status = updateValue ids' status') :
    ids = ids' ∧ status = status' := by
  have hnumber : Function.Injective fun id : Int => Json.number (some id) := fun a b hab => by
    simpa using hab
  obtain ⟨hids, hname⟩ : idValues ids = idValues ids' ∧ status.name = status'.name := by
    simpa [updateValue] using h
  refine ⟨hnumber.list_map hids, ?_⟩
  rw [← Option.some_inj, ← EntryStatus.ofName?_name, hname, EntryStatus.ofName?_name]

/-- No two orders have one body. -/
theorem updateBody_inj (h : updateBody ids status = updateBody ids' status') :
    ids = ids' ∧ status = status' := by
  have hvalues := congrArg (fun body => Json.ofBytes (Text.Utf8.encode body)) h
  simp only [ofBytes_updateBody, Option.some_inj] at hvalues
  exact updateValue_inj hvalues

theorem list?_idValues (hids : ∀ id ∈ ids, -2 ^ 63 ≤ id ∧ id < 2 ^ 63) :
    Json.list? Json.int64? (.array (idValues ids)) = some ids := by
  rw [Json.list?, idValues, Url.mapM_eq_some_iff, List.forall₂_map_left_iff, List.forall₂_same]
  exact fun id hid => if_pos (hids id hid)

theorem orders_updateBody (hids : ∀ id ∈ ids, -2 ^ 63 ≤ id ∧ id < 2 ^ 63) (status : EntryStatus) :
    Orders (updateBody ids status) ids status :=
  ⟨_, _, ofBytes_updateBody ids status, list?_idValues hids, EntryStatus.ofName?_name status⟩

end Bodies

section Requests

variable {c : Credentials} {ids : List Int} {status : EntryStatus} {r : Http.Request}

theorem of_request_updateEntries (h : request c (.updateEntries ids status) = .ok r) :
    r.method = .put ∧ r.contentType = some "application/json" ∧ r.body = updateBody ids status := by
  cases hu : url c.endpoint (path (.updateEntries ids status)) with
  | error e =>
    rw [request, hu] at h
    cases h
  | ok u =>
    rw [request, hu] at h
    obtain rfl := Except.ok.inj h
    exact ⟨rfl, rfl, rfl⟩

/-- An update of entries of any 64-bit ids sends one request. Its body orders the status for the ids in
their order, and no other ids or status have this body. -/
theorem updates_exact {text : List Char} {c : Credentials} (hc : Url.parse text = .ok c.endpoint)
    (hweb : IsHttp c.endpoint.scheme) {ids : List Int} (hids : ∀ id ∈ ids, -2 ^ 63 ≤ id ∧ id < 2 ^ 63)
    (status : EntryStatus) : ∃ r, request c (.updateEntries ids status) = .ok r ∧
      (∀ {W : Type} (t : Http.Transport W) (w : W) (sent : List Http.Request),
        ((reader t.recorded c).answer (.updateEntries ids status) (w, sent)).2.1 =
          ((t.send r w).2.1, sent ++ [r])) ∧
      r.method = .put ∧ r.contentType = some "application/json" ∧ Orders r.body ids status ∧
      ∀ {c' : Credentials} {ids' : List Int} {status' : EntryStatus} {r' : Http.Request},
        request c' (.updateEntries ids' status') = .ok r' → r'.body = r.body →
          ids' = ids ∧ status' = status := by
  have hendpoint := Url.isWeb_of_parse hc hweb
  obtain ⟨r, hr, hurl⟩ := exists_request hendpoint (.updateEntries ids status)
  have hscheme : IsHttp r.url.scheme := by
    rw [hurl]
    exact (Url.isWeb_glue hendpoint (isCallPath _)).scheme
  obtain ⟨hmethod, htype, hbody⟩ := of_request_updateEntries hr
  refine ⟨r, hr, fun t w sent => ?_, hmethod, htype, hbody ▸ orders_updateBody hids status, ?_⟩
  · rw [(answer_of_send hr hscheme (w, sent)).1, Http.Transport.recorded_send]
  · intro c' ids' status' r' hr' hsame
    obtain ⟨-, -, hbody'⟩ := of_request_updateEntries hr'
    exact updateBody_inj (by rw [← hbody', hsame, hbody])

/-- The ids of an order with the extremes, one of them twice. -/
def extremeIds : List Int := [9223372036854775807, -9223372036854775808, 0, -9223372036854775808]

/-- Ids are told with their signs and in their order. -/
theorem updates_exact_extreme :
    Url.parse "http://h".toList = .ok homeCredentials.endpoint ∧
    IsHttp homeCredentials.endpoint.scheme ∧ (∀ id ∈ extremeIds, -2 ^ 63 ≤ id ∧ id < 2 ^ 63) ∧
    ∃ r, request homeCredentials (.updateEntries extremeIds .read) = .ok r ∧
      ((reader Http.Script.transport.recorded homeCredentials).answer (.updateEntries extremeIds .read)
        (⟨[], []⟩, [])).2.1 = (⟨[], [r]⟩, [r]) ∧
      r.method = .put ∧ Orders r.body extremeIds .read := by
  have hc : Url.parse "http://h".toList = .ok homeCredentials.endpoint := by rfl
  have hweb : IsHttp homeCredentials.endpoint.scheme := by decide
  have hids : ∀ id ∈ extremeIds, -2 ^ 63 ≤ id ∧ id < 2 ^ 63 := by decide
  obtain ⟨r, hr, hanswer, hmethod, -, horders, -⟩ := updates_exact hc hweb hids .read
  exact ⟨hc, hweb, hids, r, hr, hanswer Http.Script.transport ⟨[], []⟩ [], hmethod, horders⟩

end Requests

end Killfile.Client

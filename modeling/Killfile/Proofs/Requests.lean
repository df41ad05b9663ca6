import Killfile.Client
import Killfile.Proofs.Url.Web

/-! Where requests go. The path of a call is glued to the text of the endpoint, and what that makes of
the parts of the endpoint is told by the part that its text ends with. -/

namespace Killfile

namespace Url

/-- A URL with a path and a query glued to its text, without the slashes at the end of it. They belong
to the last part that the URL has. -/
def glue (u : Url) (path : List Char) (query : Option (List Char)) : Url :=
  match u.query, u.fragment with
  | none, none => { u with path := trimSlashes u.path ++ path, query }
  | some q, none => { u with query := some (trimSlashes q ++ path ++ renderQuery query) }
  | _, some f => { u with fragment := some (trimSlashes f ++ path ++ renderQuery query) }

/-- The characters of names and numbers in the paths of calls. -/
def wordChars : List Char := "abcdefghijklmnopqrstuvwxyz0123456789-".toList

/-- A name or a number in the path of a call. -/
def IsWord (s : List Char) : Prop := ∀ c ∈ s, c ∈ wordChars

instance (s : List Char) : Decidable (IsWord s) := inferInstanceAs (Decidable (∀ c ∈ s, _))

section Words

variable {s : List Char}

/-- Words are no dot segments, for those hold a stop or a percent sign. -/
theorem IsWord.not_dots (h : IsWord s) :
    isDoubleDot s = false ∧ isSingleDot s = false := by
  have hdots : ∀ t ∈ ["..", ".%2e", "%2e.", "%2e%2e", ".", "%2e"], '.' ∈ t.toList ∨ '%' ∈ t.toList := by
    decide
  have hword : ∀ c ∈ wordChars, c.toLower ≠ '.' ∧ c.toLower ≠ '%' := by decide
  have hnot : String.ofList (s.map Char.toLower) ∉ ["..", ".%2e", "%2e.", "%2e%2e", ".", "%2e"] := by
    intro hmem
    rcases hdots _ hmem with hmem | hmem
    · obtain ⟨c, hc, he⟩ := List.mem_map.mp (by simpa using hmem)
      exact (hword c (h c hc)).1 he
    · obtain ⟨c, hc, he⟩ := List.mem_map.mp (by simpa using hmem)
      exact (hword c (h c hc)).2 he
  constructor
  · refine Bool.eq_false_iff.mpr fun hd => hnot ?_
    exact List.mem_append_left ([".", "%2e"] : List String) (List.contains_iff_mem.mp hd)
  · refine Bool.eq_false_iff.mpr fun hd => hnot ?_
    exact List.mem_append_right ["..", ".%2e", "%2e.", "%2e%2e"] (List.contains_iff_mem.mp hd)

theorem IsWord.isSegment (h : IsWord s) : IsSegment s := by
  have hplain : Plain inPath wordChars := by decide
  obtain ⟨hdouble, hsingle⟩ := h.not_dots
  exact ⟨fun c hc => hplain c (h c hc), fun hc => absurd (h _ hc) (by decide),
    fun hc => absurd (h _ hc) (by decide), hdouble, hsingle⟩

end Words

section Gluing

variable {u : Url} {path : List Char} {query : Option (List Char)}

theorem getLast?_front (h : IsWeb u) {host : Host} (hhost : IsHost host) :
    (front u host).getLast? ≠ some '/' := by
  have hne : authorityText u host ≠ [] := by
    simp [authorityText, (isHostText_render hhost).nonempty]
  have hslash : '/' ∉ authorityText u host :=
    not_mem_authority h.username h.password (isHostText_render hhost) (by decide)
  have hlast : (front u host).getLast? = (authorityText u host).getLast? := by
    have hshape : front u host = (u.scheme ++ "://".toList) ++ authorityText u host := by simp [front]
    rw [hshape, List.getLast?_append_of_ne_nil _ hne]
  rw [hlast]
  exact fun he => hslash (List.mem_of_getLast? he)

/-- The text of a glued URL. -/
theorem render_glue (h : IsWeb u) :
    (u.glue path query).render = trimSlashes u.render ++ path ++ renderQuery query := by
  obtain ⟨host, hhost, hread⟩ := h.host
  have hfront := getLast?_front h hread
  have hglued : (u.glue path query).host = some host := by
    unfold glue
    split <;> exact hhost
  have hsame : front (u.glue path query) host = front u host := by
    unfold glue
    split <;> rfl
  rw [render_eq hhost, render_eq hglued, hsame]
  unfold glue
  split
  next hquery hfragment =>
    rw [hquery, hfragment, trimSlashes_append hfront]
    simp [renderQuery, renderFragment]
  next q hquery hfragment =>
    have hshape : front u host ++ (u.path ++ renderQuery (some q) ++ renderFragment none) =
        (front u host ++ u.path) ++ '?' :: q := by simp [renderQuery, renderFragment]
    rw [hquery, hfragment, hshape, trimSlashes_append_cons (by decide)]
    simp [renderQuery, renderFragment]
  next f hfragment =>
    have hshape : front u host ++ (u.path ++ renderQuery u.query ++ renderFragment (some f)) =
        (front u host ++ (u.path ++ renderQuery u.query)) ++ '#' :: f := by simp [renderFragment]
    rw [hfragment, hshape, trimSlashes_append_cons (by decide)]
    simp [renderFragment]

/-- What is glued to a web address: a path of words, and a query that stands for itself. -/
structure IsCallPath (path : List Char) (query : Option (List Char)) : Prop where
  words : ∃ l, l ≠ [] ∧ (∀ s ∈ l, IsWord s) ∧ path = renderSegments l
  query : ∀ q ∈ query, Plain inSpecialQuery q ∧ Plain inFragment q

theorem IsCallPath.plain (h : IsCallPath path query) :
    Plain inSpecialQuery (path ++ renderQuery query) ∧ Plain inFragment (path ++ renderQuery query) := by
  obtain ⟨l, -, hl, rfl⟩ := h.words
  have hall : ∀ set : Char → Bool, Plain set ('/' :: '?' :: wordChars) → (∀ q ∈ query, Plain set q) →
      Plain set (renderSegments l ++ renderQuery query) := by
    intro set hwords hquery
    refine plain_append.mpr ⟨fun c hc => ?_, ?_⟩
    · obtain ⟨s, hs, hc⟩ := List.mem_flatMap.mp hc
      refine hwords c ?_
      rcases List.mem_cons.mp hc with rfl | hc
      · exact List.mem_cons_self
      · exact List.mem_cons_of_mem _ (List.mem_cons_of_mem _ (hl s hs c hc))
    · cases query with
      | none => exact plain_nil
      | some q => exact plain_cons.mpr ⟨hwords '?' (by simp), hquery q rfl⟩
  exact ⟨hall _ (by decide) fun q hq => (h.query q hq).1, hall _ (by decide) fun q hq => (h.query q hq).2⟩

theorem isPath_trimSlashes {p : List Char} (hp : IsPath p) (h : IsCallPath path query) :
    IsPath (trimSlashes p ++ path) := by
  obtain ⟨l, -, hl, rfl⟩ := hp
  obtain ⟨l', hne, hl', rfl⟩ := h.words
  obtain ⟨m, hm, htrim⟩ := trimSlashes_renderSegments fun s hs => (hl s hs).slash
  refine ⟨m ++ l', by simp [hne], ?_, by rw [htrim, renderSegments_append]⟩
  exact List.forall_mem_append.mpr
    ⟨fun s hs => hl s (hm.subset hs), fun s hs => (hl' s hs).isSegment⟩

theorem plain_trimSlashes {set : Char → Bool} {s : List Char} (h : Plain set s) :
    Plain set (trimSlashes s) := fun c hc => h c (mem_of_mem_trimSlashes hc)

/-- A web address stays one with a path of words glued to it. -/
theorem isWeb_glue (h : IsWeb u) (hcall : IsCallPath path query) : IsWeb (u.glue path query) := by
  obtain ⟨hqueryPlain, hfragmentPlain⟩ := hcall.plain
  unfold glue
  split
  next hquery hfragment =>
    exact ⟨h.scheme, h.username, h.password, h.host, h.port, isPath_trimSlashes h.path hcall,
      fun q hq => (hcall.query q hq).1, h.fragment⟩
  next q hquery hfragment =>
    refine ⟨h.scheme, h.username, h.password, h.host, h.port, h.path, fun q' hq' => ?_, h.fragment⟩
    obtain rfl := Option.some.inj hq'
    rw [List.append_assoc]
    exact plain_append.mpr ⟨plain_trimSlashes (h.query q hquery), hqueryPlain⟩
  next f hfragment =>
    refine ⟨h.scheme, h.username, h.password, h.host, h.port, h.path, h.query, fun f' hf' => ?_⟩
    obtain rfl := Option.some.inj hf'
    rw [List.append_assoc]
    exact plain_append.mpr ⟨plain_trimSlashes (h.fragment f hfragment), hfragmentPlain⟩

/-- The text of a web address with a path of words glued to it is read as it stands. -/
theorem parse_glue (h : IsWeb u) (hcall : IsCallPath path query) :
    parse (trimSlashes u.render ++ path ++ renderQuery query) = .ok (u.glue path query) := by
  rw [← render_glue h]
  exact parse_render (isWeb_glue h hcall)

/-- What is trimmed from the end of a text is slashes. -/
theorem slash_of_trimSlashes {s t : List Char} (h : s = trimSlashes s ++ t) : ∀ c ∈ t, c = '/' := by
  have hsplit : s = trimSlashes s ++ (s.reverse.takeWhile (· == '/')).reverse := by
    rw [trimSlashes, ← List.reverse_append, List.takeWhile_append_dropWhile, List.reverse_reverse]
  have ht : t = (s.reverse.takeWhile (· == '/')).reverse := List.append_cancel_left (h.symm.trans hsplit)
  intro c hc
  rw [ht, List.mem_reverse] at hc
  simpa using List.mem_takeWhile_imp hc

/-- A path with more than slashes in it stands behind the path of the URL, and its query is the one
that is glued, unless the URL has a query or a fragment. -/
theorem glue_fits_iff (hpath : ∃ c ∈ path, c ≠ '/') :
    ((u.glue path query).path = trimSlashes u.path ++ path ∧ (u.glue path query).query = query) ↔
      u.query = none ∧ u.fragment = none := by
  obtain ⟨c, hc, hne⟩ := hpath
  have hkept : u.path ≠ trimSlashes u.path ++ path := fun h => hne (slash_of_trimSlashes h c hc)
  unfold glue
  split
  next hquery hfragment => simp [hquery, hfragment]
  next q hquery hfragment => simp [hquery, hkept]
  next f hfragment => simp [hfragment, hkept]

end Gluing

end Url

namespace Client

open Url (IsHttp IsWord IsCallPath trimSlashes renderSegments renderQuery)

/-- The path of a call in the API. -/
def apiPath : Call → String
  | .me => "/v1/me"
  | .feeds => "/v1/feeds"
  | .unreadEntries feed => "/v1/feeds/" ++ toString feed ++ "/entries"
  | .entry id => "/v1/entries/" ++ toString id
  | .updateEntries _ _ => "/v1/entries"

/-- The query of a call in the API. -/
def apiQuery : Call → Option String
  | .unreadEntries _ => some "status=unread"
  | _ => none

section

variable {c : Credentials} {call : Call} {r : Http.Request}

/-- An id as it is written. -/
theorem toList_toString (id : Int) :
    (toString id).toList = (if id < 0 then ['-'] else []) ++ Nat.toDigits 10 id.natAbs := by
  cases id with
  | ofNat n => simp [toString, Int.repr, Nat.repr]
  | negSucc n => simp [toString, Int.repr, Nat.repr, Int.negSucc_lt_zero]

theorem isWord_toString (id : Int) : IsWord (toString id).toList := by
  rw [toList_toString]
  refine List.forall_mem_append.mpr ⟨?_, fun c hc => ?_⟩
  · split <;> decide
  · exact Unicode.of_isDigit (by decide) (Url.isDigit_toDigits _ c hc)

/-- The segments of the path of a call are words. -/
theorem exists_words (call : Call) : ∃ l, l ≠ [] ∧ (∀ s ∈ l, IsWord s) ∧
    (apiPath call).toList = renderSegments l := by
  have hid (id : Int) : ∀ s ∈ [(toString id).toList], IsWord s := by
    simpa using isWord_toString id
  cases call with
  | me => exact ⟨["v1".toList, "me".toList], by decide, by decide, by decide⟩
  | feeds => exact ⟨["v1".toList, "feeds".toList], by decide, by decide, by decide⟩
  | unreadEntries feed =>
    refine ⟨["v1".toList, "feeds".toList] ++ [(toString feed).toList] ++ ["entries".toList], by simp, ?_,
      by simp [apiPath, renderSegments]⟩
    exact List.forall_mem_append.mpr ⟨List.forall_mem_append.mpr ⟨by decide, hid feed⟩, by decide⟩
  | entry id =>
    refine ⟨["v1".toList, "entries".toList] ++ [(toString id).toList], by simp, ?_,
      by simp [apiPath, renderSegments]⟩
    exact List.forall_mem_append.mpr ⟨by decide, hid id⟩
  | updateEntries ids status =>
    refine ⟨["v1".toList, "entries".toList], by decide, by decide, ?_⟩
    rw [apiPath]
    decide

theorem isCallPath (call : Call) :
    IsCallPath (apiPath call).toList ((apiQuery call).map String.toList) := by
  refine ⟨exists_words call, fun q hq => ?_⟩
  cases call with
  | unreadEntries feed =>
    obtain rfl := Option.some.inj hq
    decide
  | _ => cases hq

theorem text_eq (call : Call) : "/v1/".toList ++ (path call).toList =
    (apiPath call).toList ++ renderQuery ((apiQuery call).map String.toList) := by
  cases call <;> simp [path, apiPath, apiQuery, renderQuery, EntryStatus.name]

/-- The URL of a call is that of the endpoint with the path and the query of the call glued to it. -/
theorem url_eq {endpoint : Url} (h : endpoint.IsWeb) (call : Call) : url endpoint (path call) =
    .ok (endpoint.glue (apiPath call).toList ((apiQuery call).map String.toList)) := by
  have htext : (endpoint.render.reverse.dropWhile (· == '/')).reverse ++ "/v1/".toList ++
      (path call).toList = trimSlashes endpoint.render ++ (apiPath call).toList ++
        renderQuery ((apiQuery call).map String.toList) := by
    rw [List.append_assoc, text_eq, ← List.append_assoc, trimSlashes]
  rw [url, htext, Url.parse_glue h (isCallPath call)]

theorem exists_request (h : c.endpoint.IsWeb) (call : Call) : ∃ r, request c call = .ok r ∧
    r.url = c.endpoint.glue (apiPath call).toList ((apiQuery call).map String.toList) := by
  rw [request, url_eq h]
  cases call <;> exact ⟨_, rfl, rfl⟩

/-- A call of a web address sends one request. -/
theorem requests_answer (hr : request c call = .ok r) (hweb : IsHttp r.url.scheme) (w : Http.Script) :
    ((reader Http.Script.transport c).answer call w).2.1.requests = w.requests ++ [r] := by
  have hexchange : Http.Script.transport.exchange r = Http.Script.transport.send r := if_pos hweb
  simp only [reader, hr, hexchange, Logged.bind_apply]
  rw [← Http.Script.requests_send r w]
  rcases Http.Script.transport.send r w with ⟨x | a, s, log⟩
  · rfl
  · rfl

/-- An endpoint that has been read. -/
theorem isWeb_of_credentials {s : Settings} (h : s.credentials = .ok c) (hweb : IsHttp c.endpoint.scheme) :
    c.endpoint.IsWeb := by
  unfold Settings.credentials at h
  split at h
  · cases h
  · cases h
  next endpoint key _ _ =>
    simp only [Settings.readUrl, bind, Except.bind, pure, Except.pure] at h
    split at h
    · cases h
    next u hread =>
      obtain rfl := Except.ok.inj h
      split at hread
      next hparse =>
        obtain rfl := Except.ok.inj hread
        exact Url.isWeb_of_parse hparse hweb
      · cases hread

end

/-- Every call of a web address sends one request, to the URL of the endpoint with the path and the
query of the call glued to it. Its path is that of the endpoint with the path of the call behind it,
and its query that of the call, for the endpoints without query and fragment and for no others. -/
theorem requests_exact {s : Settings} {c : Credentials} (hc : s.credentials = .ok c)
    (hweb : IsHttp c.endpoint.scheme) (call : Call) : ∃ r, request c call = .ok r ∧
      (∀ w, ((reader Http.Script.transport c).answer call w).2.1.requests = w.requests ++ [r]) ∧
      r.url = c.endpoint.glue (apiPath call).toList ((apiQuery call).map String.toList) ∧
      ((r.url.path = trimSlashes c.endpoint.path ++ (apiPath call).toList ∧
          r.url.query = (apiQuery call).map String.toList) ↔
        c.endpoint.query = none ∧ c.endpoint.fragment = none) := by
  have hendpoint := isWeb_of_credentials hc hweb
  obtain ⟨r, hr, hurl⟩ := exists_request hendpoint call
  have hscheme : IsHttp r.url.scheme := by
    rw [hurl]
    exact (Url.isWeb_glue hendpoint (isCallPath call)).scheme
  have hpath : ∃ d ∈ (apiPath call).toList, d ≠ '/' :=
    ⟨'v', by cases call <;> simp [apiPath], by decide⟩
  refine ⟨r, hr, requests_answer hr hscheme, hurl, ?_⟩
  rw [hurl]
  exact Url.glue_fits_iff hpath

/-- An endpoint with a user, a port and a path with slashes at its end. -/
def prefixedSettings : Settings where
  apiEndpoint := some "https://me@Host:8443/my flux//"
  apiKey := some "key"

def prefixedCredentials : Credentials where
  endpoint :=
    { scheme := "https".toList
      username := "me".toList
      host := some (.domain "host".toList)
      port := some 8443
      path := "/my%20flux//".toList }
  key := "key"

theorem requests_exact_prefixed : prefixedSettings.credentials = .ok prefixedCredentials ∧
    IsHttp prefixedCredentials.endpoint.scheme ∧
    ∃ r, request prefixedCredentials (.unreadEntries 3) = .ok r ∧
      r.target = "/my%20flux/v1/feeds/3/entries?status=unread" := by
  have hc : prefixedSettings.credentials = .ok prefixedCredentials := by rfl
  have hweb : IsHttp prefixedCredentials.endpoint.scheme := by decide
  obtain ⟨r, hr, -, hurl, -⟩ := requests_exact hc hweb (.unreadEntries 3)
  refine ⟨hc, hweb, r, hr, ?_⟩
  rw [Http.Request.target, hurl]
  decide

/-- An endpoint with a query. -/
def queriedSettings : Settings where
  apiEndpoint := some "http://h/mf?x=1"
  apiKey := some "k"

def queriedCredentials : Credentials where
  endpoint :=
    { scheme := "http".toList
      host := some (.domain "h".toList)
      path := "/mf".toList
      query := some "x=1".toList }
  key := "k"

/-- The path of a call becomes a part of the query. -/
theorem request_queried : queriedSettings.credentials = .ok queriedCredentials ∧
    IsHttp queriedCredentials.endpoint.scheme ∧
    ∃ r, request queriedCredentials .me = .ok r ∧ r.target = "/mf?x=1/v1/me" ∧
      r.url.path ≠ trimSlashes queriedCredentials.endpoint.path ++ (apiPath .me).toList ∧
      r.url.query ≠ (apiQuery .me).map String.toList :=
  ⟨by rfl, by decide, _, by rfl, by rfl, by decide, by decide⟩

end Client

end Killfile

import Killfile.Proofs.Url.Host
import Killfile.Proofs.Url.Path

/-! Web addresses. What has been read is encoded in every part, and what is encoded in every part is
read back from the text that is written for it. -/

namespace Killfile.Url

/-- A web address that is encoded in every part. -/
structure IsWeb (u : Url) : Prop where
  scheme : IsHttp u.scheme
  username : Plain inUserinfo u.username
  password : Plain inUserinfo u.password
  host : ∃ h, u.host = some h ∧ IsHost h
  port : IsPort u.scheme u.port
  path : IsPath u.path
  query : ∀ q ∈ u.query, Plain inSpecialQuery q
  fragment : ∀ f ∈ u.fragment, Plain inFragment f

theorem schemeKind_of_isHttp {scheme : List Char} (h : IsHttp scheme) : schemeKind scheme = .web := by
  obtain rfl | rfl := h
  · decide
  · decide

section Reading

variable {kind : SchemeKind} {scheme s : List Char} {u : Url} {port : Option Nat}

theorem readAuthority_ok (h : readAuthority kind scheme s = .ok u) :
    ∃ userinfo hostText host digits port t,
      (if kind.isSpecial then readDomain hostText else readOpaque hostText) = .ok host ∧
      readPort scheme digits = .ok port ∧
      u = withPath kind ⟨scheme, (readUserinfo userinfo).1, (readUserinfo userinfo).2, some host, port,
        [], none, none⟩ t := by
  simp only [readAuthority, bind, Except.bind, throw, throwThe, MonadExceptOf.throw, pure,
    Except.pure] at h
  split at h
  · cases h
  · split at h
    · cases h
    · split at h
      all_goals
        rename_i hkind
        split at h
        · cases h
        next host hhost =>
          split at h
          · cases h
          · split at h
            · cases h
            next port hport =>
              split at h
              · cases h
              · exact ⟨_, _, host, _, port, _, by simpa [hkind] using hhost, hport,
                  (Except.ok.inj h).symm⟩

theorem isPort_of_readPort {digits : List Char} (h : readPort scheme digits = .ok port) :
    IsPort scheme port := by
  unfold readPort at h
  split at h
  next hdigits =>
    split at h
    · obtain rfl := Except.ok.inj h
      exact fun n hn => absurd hn (by simp)
    next hwritten =>
      obtain rfl := Except.ok.inj h
      rw [not_or] at hwritten
      intro n hn
      obtain rfl := Option.some.inj hn
      exact ⟨hdigits.2, hwritten.2⟩
  · cases h

theorem isWeb_of_readAuthority (hs : IsHttp scheme) (h : readAuthority .web scheme s = .ok u) :
    IsWeb u := by
  obtain ⟨userinfo, hostText, host, digits, port, t, hhost, hport, rfl⟩ := readAuthority_ok h
  refine ⟨hs, plain_encode plain_inUserinfo, plain_encode plain_inUserinfo,
    ⟨host, rfl, isHost_of_readDomain hhost⟩, isPort_of_readPort hport, isPath_readSegments _,
    fun q hq => ?_, fun f hf => ?_⟩
  · obtain ⟨q, -, rfl⟩ := Option.map_eq_some_iff.mp hq
    exact plain_encode plain_inSpecialQuery
  · obtain ⟨f, -, rfl⟩ := Option.map_eq_some_iff.mp hf
    exact plain_encode plain_inFragment

theorem scheme_readFile (h : readFile scheme s = .ok u) : u.scheme = scheme := by
  simp only [readFile, bind, Except.bind, pure, Except.pure] at h
  split at h
  · split at h
    · split at h
      · exact Except.ok.inj h ▸ rfl
      · split at h
        · cases h
        · exact Except.ok.inj h ▸ rfl
    · exact Except.ok.inj h ▸ rfl
  · exact Except.ok.inj h ▸ rfl

theorem scheme_readOther (h : readOther scheme s = .ok u) : u.scheme = scheme := by
  unfold readOther at h
  split at h
  · obtain ⟨_, _, _, _, _, _, -, -, rfl⟩ := readAuthority_ok h
    rfl
  · exact Except.ok.inj h ▸ rfl
  · exact Except.ok.inj h ▸ rfl

/-- What has been read as a web address is encoded in every part. -/
theorem isWeb_of_parse (h : parse s = .ok u) (hs : IsHttp u.scheme) : IsWeb u := by
  unfold parse at h
  split at h
  · cases h
  next scheme r hscheme =>
    split at h
    next hkind =>
      rw [scheme_readFile h] at hs
      simp [schemeKind_of_isHttp hs] at hkind
    next hkind =>
      refine isWeb_of_readAuthority ?_ h
      obtain ⟨_, _, _, _, _, _, -, -, rfl⟩ := readAuthority_ok h
      exact hs
    next hkind =>
      rw [scheme_readOther h] at hs
      simp [schemeKind_of_isHttp hs] at hkind

end Reading

section Written

variable {scheme p : List Char} {query fragment : Option (List Char)} {u : Url}

theorem not_mem_path (hp : IsPath p) {c : Char} (hc : inPath c = true) (hslash : c ≠ '/') : c ∉ p := by
  obtain ⟨l, -, hl, rfl⟩ := hp
  intro hmem
  obtain ⟨s, hs, hmem⟩ := List.mem_flatMap.mp hmem
  exact (hl s hs).plain.not_mem hc ((List.mem_cons.mp hmem).resolve_left hslash)

theorem head?_path (hp : IsPath p) : p.head? = some '/' := by
  obtain ⟨l, hne, -, rfl⟩ := hp
  obtain ⟨s, l, rfl⟩ := List.exists_cons_of_ne_nil hne
  rfl

/-- Path, query and fragment are split where they were put together. -/
theorem splitQuery_written (hp : IsPath p) (hquery : ∀ q ∈ query, Plain inSpecialQuery q) :
    splitQuery (p ++ renderQuery query ++ renderFragment fragment) = (p, query, fragment) := by
  have hpath {c : Char} (hc : inPath c = true) (hslash : c ≠ '/') : ∀ d ∈ p, (d != c) = true :=
    fun d hd => bne_iff_ne.mpr fun he => not_mem_path hp hc hslash (he ▸ hd)
  have hbefore : ∀ d ∈ p ++ renderQuery query, (d != '#') = true := by
    intro d hd
    rcases List.mem_append.mp hd with hd | hd
    · exact hpath (by decide) (by decide) d hd
    · cases query with
      | none => cases hd
      | some q =>
        rcases List.mem_cons.mp hd with rfl | hd
        · rfl
        · exact bne_iff_ne.mpr fun he => (hquery q rfl).not_mem (by decide) (he ▸ hd)
  have hfragment : ∀ d ∈ (renderFragment fragment).head?, (d != '#') = false := by
    cases fragment <;> simp [renderFragment]
  have hmark : ∀ d ∈ (renderQuery query).head?, (d != '?') = false := by
    cases query <;> simp [renderQuery]
  obtain ⟨htake, hdrop⟩ := span_iff.mpr ⟨rfl, hbefore, hfragment⟩
  obtain ⟨htake', hdrop'⟩ := span_iff.mpr ⟨rfl, hpath (c := '?') (by decide) (by decide), hmark⟩
  simp only [splitQuery, htake, hdrop, htake', hdrop']
  cases query <;> cases fragment <;> rfl

/-- Encoded text behind a mark stays as it is. -/
theorem map_encode {set : Char → Bool} {o : Option (List Char)} (h : ∀ s ∈ o, Plain set s) :
    o.map (encode set) = o := by
  cases o with
  | none => rfl
  | some s => exact congrArg some (encode_of_plain (h s rfl))

/-- What stands after the authority is read back. -/
theorem withPath_written (h : IsWeb u) :
    withPath .web ⟨u.scheme, u.username, u.password, u.host, u.port, [], none, none⟩
      (u.path ++ renderQuery u.query ++ renderFragment u.fragment) = u := by
  obtain ⟨l, hne, hl, hpath⟩ := h.path
  have hsame : renderPath .web (readSegments .web u.path) = u.path := by
    rw [hpath, readSegments_renderSegments hne hl]
    rfl
  simp only [withPath, splitQuery_written h.path h.query, hsame, SchemeKind.isSpecial, if_true,
    map_encode h.query, map_encode h.fragment]
  rfl

/-- User, host and port as they are written. -/
def authorityText (u : Url) (host : Host) : List Char :=
  renderUserinfo u.username u.password ++ (host.render ++ renderPort u.port)

/-- What is written before the path. -/
def front (u : Url) (host : Host) : List Char :=
  u.scheme ++ ':' :: '/' :: '/' :: authorityText u host

theorem render_eq {host : Host} (h : u.host = some host) :
    u.render = front u host ++ (u.path ++ renderQuery u.query ++ renderFragment u.fragment) := by
  simp [render, renderAuthority, h, front, authorityText]

theorem solid_path (hp : IsPath p) : Solid p := by
  obtain ⟨l, -, hl, rfl⟩ := hp
  intro c hc
  obtain ⟨s, hs, hc⟩ := List.mem_flatMap.mp hc
  rcases List.mem_cons.mp hc with rfl | hc
  · decide
  · exact (hl s hs).plain.solid (by decide) c hc

theorem solid_front (h : IsWeb u) {host : Host} (hhost : IsHost host) : Solid (front u host) := by
  have hscheme : Solid u.scheme := by
    obtain he | he := h.scheme
    · rw [he]
      decide
    · rw [he]
      decide
  have hauthority : Solid (authorityText u host) :=
    solid_append.mpr ⟨solid_renderUserinfo h.username h.password,
      solid_append.mpr ⟨(isHostText_render hhost).solid, solid_renderPort⟩⟩
  have hmarks : Solid "://".toList := by decide
  have hshape : front u host = u.scheme ++ "://".toList ++ authorityText u host := by simp [front]
  rw [hshape]
  exact solid_append.mpr ⟨solid_append.mpr ⟨hscheme, hmarks⟩, hauthority⟩

theorem solid_render (h : IsWeb u) : Solid u.render := by
  obtain ⟨host, hhost, hread⟩ := h.host
  have hquery : Solid (renderQuery u.query) := by
    cases hq : u.query with
    | none => exact solid_nil
    | some q => exact solid_cons.mpr ⟨by decide, (h.query q hq).solid (by decide)⟩
  have hfragment : Solid (renderFragment u.fragment) := by
    cases hf : u.fragment with
    | none => exact solid_nil
    | some f => exact solid_cons.mpr ⟨by decide, (h.fragment f hf).solid (by decide)⟩
  rw [render_eq hhost]
  exact solid_append.mpr ⟨solid_front h hread,
    solid_append.mpr ⟨solid_append.mpr ⟨solid_path h.path, hquery⟩, hfragment⟩⟩

theorem readScheme?_written (h : IsHttp scheme) (r : List Char) :
    readScheme? (scheme ++ ':' :: r) = some (scheme, r) := by
  obtain rfl | rfl := h
  · rfl
  · rfl

/-- The slashes before an authority are dropped, and nothing of it. -/
theorem dropWhile_slashes {host : Host} (h : IsWeb u) (hhost : IsHost host) (t : List Char) :
    ('/' :: '/' :: (authorityText u host ++ t)).dropWhile (fun c => c == '/' || c == '\\') =
      authorityText u host ++ t := by
  obtain ⟨c, r, hc⟩ : ∃ c r, authorityText u host = c :: r :=
    List.exists_cons_of_ne_nil (by simp [authorityText, (isHostText_render hhost).nonempty])
  have hends {d : Char} (hd : d ∈ authorityEnds) : c ≠ d := by
    have hnot : d ∉ authorityText u host :=
      not_mem_authority h.username h.password (isHostText_render hhost) hd
    rintro rfl
    exact hnot (hc ▸ List.mem_cons_self)
  have hslash : c ≠ '/' := hends (by decide)
  have hback : c ≠ '\\' := hends (by decide)
  rw [hc, List.cons_append, List.dropWhile_cons_of_pos (by decide), List.dropWhile_cons_of_pos (by decide),
    List.dropWhile_cons_of_neg (by simp [hslash, hback])]

/-- A web address that is encoded in every part is read back from its text. -/
theorem parse_render (h : IsWeb u) : parse u.render = .ok u := by
  obtain ⟨host, hhost, hread⟩ := h.host
  have hshape : u.render = u.scheme ++ ':' :: '/' :: '/' :: (authorityText u host ++
      (u.path ++ renderQuery u.query ++ renderFragment u.fragment)) := by
    simp [render_eq hhost, front]
  have hhead : ∀ c ∈ (u.path ++ renderQuery u.query ++ renderFragment u.fragment).head?,
      c ∈ authorityEnds := by
    intro c hc
    rw [List.append_assoc, List.head?_append, head?_path h.path] at hc
    obtain rfl := Option.some.inj hc
    decide
  rw [parse, clean_of_solid (solid_render h), hshape, readScheme?_written h.scheme]
  simp only [schemeKind_of_isHttp h.scheme, dropWhile_slashes h hread]
  rw [authorityText, readAuthority_written h.username h.password (isHostText_render hread) h.port hhead,
    readDomain_render hread, Except.map, ← hhost]
  exact congrArg Except.ok (withPath_written h)

end Written

end Killfile.Url

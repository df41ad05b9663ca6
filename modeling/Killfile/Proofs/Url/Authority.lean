import Killfile.Proofs.Line
import Killfile.Proofs.Url.Percent
import Killfile.Url

/-! The authority of a web address as it is written, and how it is read back. -/

namespace Killfile.Url

/-- Text without spaces, tabs, line ends and other control characters. -/
def Solid (s : List Char) : Prop := ∀ c ∈ s, 0x20 < c.toNat

/-- Text that may stand as the host of a web address. Colons are allowed in square brackets alone. -/
structure IsHostText (s : List Char) : Prop where
  nonempty : s ≠ []
  solid : Solid s
  fits : ∀ c ∈ "/?#\\@".toList, c ∉ s
  brackets : (':' ∉ s ∧ '[' ∉ s) ∨ ∃ r, s = '[' :: r ++ [']'] ∧ '[' ∉ r ∧ ']' ∉ r

/-- The ports that are written: numbers of 16 bits, save the usual one of the scheme. -/
def IsPort (scheme : List Char) (port : Option Nat) : Prop :=
  ∀ n ∈ port, n < 65536 ∧ some n ≠ defaultPort? scheme

/-- The schemes of HTTP. -/
def IsHttp (scheme : List Char) : Prop := scheme = "http".toList ∨ scheme = "https".toList

instance (scheme : List Char) : Decidable (IsHttp scheme) := inferInstanceAs (Decidable (_ ∨ _))

section Text

variable {s t : List Char} {set : Char → Bool}

instance : Decidable (Solid s) := inferInstanceAs (Decidable (∀ c ∈ s, _))

theorem solid_nil : Solid [] := fun _ hc => absurd hc List.not_mem_nil

theorem solid_append : Solid (s ++ t) ↔ Solid s ∧ Solid t := List.forall_mem_append

theorem solid_cons {c : Char} : Solid (c :: s) ↔ 0x20 < c.toNat ∧ Solid s := List.forall_mem_cons

theorem Plain.solid (h : Plain set s) (hset : ∀ n ≤ 0x20, set (Char.ofNat n) = true) : Solid s := by
  intro c hc
  refine Nat.lt_of_not_le fun hle => ?_
  have hsame := hset c.toNat hle
  rw [Char.ofNat_toNat, (h c hc).2] at hsame
  cases hsame

theorem clean_of_solid (h : Solid s) : clean s = s := by
  have hhead {l : List Char} (hl : Solid l) : l.dropWhile (fun c : Char => c.toNat ≤ 0x20) = l := by
    cases l with
    | nil => rfl
    | cons c l =>
      have hc := (solid_cons.mp hl).1
      rw [List.dropWhile_cons_of_neg]
      simpa using hc
  have hreverse : Solid s.reverse := fun c hc => h c (List.mem_reverse.mp hc)
  rw [clean, hhead h, hhead hreverse, List.reverse_reverse, List.filter_eq_self]
  intro c hc
  have hlt := h c hc
  have hne (d : Char) (hd : d.toNat ≤ 0x20) : (c != d) = true := by
    rw [bne_iff_ne]
    rintro rfl
    omega
  simp [hne '\t' (by decide), hne '\n' (by decide), hne '\r' (by decide)]

end Text

section Digits

theorem hexValue?_digitChar {n : Nat} (h : n < 16) : hexValue? n.digitChar = some n := by
  revert n
  decide +kernel

theorem baseValue_append (base : Nat) (ds : List Char) (c : Char) :
    baseValue base (ds ++ [c]) = base * baseValue base ds + (hexValue? c).getD 0 := by
  rw [baseValue, List.foldl_append]
  rfl

/-- The digits of a number have its value. -/
theorem baseValue_toDigits {base : Nat} (hbase : 1 < base) (hle : base ≤ 16) (n : Nat) :
    baseValue base (Nat.toDigits base n) = n := by
  induction n using Nat.strongRecOn with
  | ind n ih =>
    rw [Nat.toDigits_eq_if hbase]
    split
    next hlt => simp [baseValue, hexValue?_digitChar (Nat.lt_of_lt_of_le hlt hle)]
    next hge =>
      have hlast : n % base < 16 := Nat.lt_of_lt_of_le (Nat.mod_lt n (by omega)) hle
      rw [baseValue_append, ih _ (Nat.div_lt_self (by omega) hbase), hexValue?_digitChar hlast]
      exact Nat.div_add_mod n base

theorem isDigit_toDigits (n : Nat) : ∀ c ∈ Nat.toDigits 10 n, c.isDigit = true :=
  fun _ hc => Nat.isDigit_of_mem_toDigits (by decide) (by decide) hc

theorem not_mem_toDigits {c : Char} (n : Nat) (hc : c.isDigit = false) : c ∉ Nat.toDigits 10 n := by
  intro hmem
  simp [isDigit_toDigits n c hmem] at hc

end Digits

section Authority

variable {scheme username password host t : List Char} {port : Option Nat}

theorem readPort_renderPort (h : IsPort scheme port) :
    readPort scheme ((renderPort port).drop 1) = .ok port := by
  cases port with
  | none => simp [readPort, renderPort, baseValue]
  | some n =>
    obtain ⟨hlt, hne⟩ := h n rfl
    have hdigits : (renderPort (some n)).drop 1 = Nat.toDigits 10 n := by simp [renderPort]
    rw [hdigits, readPort, baseValue_toDigits (by decide) (by decide), if_pos ⟨by simpa using isDigit_toDigits n, hlt⟩, if_neg]
    simp [hne]

theorem splitHost_outside {s r : List Char} (h : ':' ∉ s ∧ '[' ∉ s) :
    splitHost false (s ++ r) = (s ++ (splitHost false r).1, (splitHost false r).2) := by
  induction s with
  | nil => rfl
  | cons c s ih =>
    simp only [List.mem_cons, not_or] at h
    obtain ⟨⟨hc, hs⟩, hb, hs'⟩ := h
    rw [List.cons_append, splitHost, if_neg (by simp [Ne.symm hc]), if_neg (Ne.symm hb)]
    simp [ih ⟨hs, hs'⟩]

theorem splitHost_inside {s r : List Char} (h : '[' ∉ s ∧ ']' ∉ s) :
    splitHost true (s ++ ']' :: r) = (s ++ ']' :: (splitHost false r).1, (splitHost false r).2) := by
  induction s with
  | nil => simp [splitHost]
  | cons c s ih =>
    simp only [List.mem_cons, not_or] at h
    obtain ⟨⟨hc, hs⟩, hb, hs'⟩ := h
    rw [List.cons_append, splitHost, if_neg (by simp), if_neg (Ne.symm hc), if_neg (Ne.symm hb)]
    simp [ih ⟨hs, hs'⟩]

theorem splitHost_renderPort (port : Option Nat) :
    splitHost false (renderPort port) = ([], renderPort port) := by
  cases port <;> simp [renderPort, splitHost]

/-- A host with its port is split between them. -/
theorem splitHost_written (h : IsHostText host) :
    splitHost false (host ++ renderPort port) = (host, renderPort port) := by
  obtain hplain | ⟨r, rfl, hb⟩ := h.brackets
  · rw [splitHost_outside hplain, splitHost_renderPort]
    simp
  · have hshape : '[' :: r ++ [']'] ++ renderPort port = '[' :: (r ++ ']' :: renderPort port) := by
      simp
    rw [hshape, splitHost, if_neg (by simp), if_pos rfl]
    simp only [splitHost_inside hb, splitHost_renderPort]
    rfl

theorem splitUserinfo_of_not_mem {s : List Char} (hs : '@' ∉ s) : splitUserinfo s = none := by
  have hplain : ∀ c ∈ s.reverse, (c != '@') = true := by
    intro c hc
    simpa using fun he : c = '@' => hs (List.mem_reverse.mp (he ▸ hc))
  obtain ⟨-, hdrop⟩ := span_iff (y := []).mpr ⟨(List.append_nil _).symm, hplain, by simp⟩
  rw [splitUserinfo, hdrop]

theorem splitUserinfo_append {u s : List Char} (hs : '@' ∉ s) :
    splitUserinfo (u ++ '@' :: s) = some (u, s) := by
  have hplain : ∀ c ∈ s.reverse, (c != '@') = true := by
    intro c hc
    simpa using fun he : c = '@' => hs (List.mem_reverse.mp (he ▸ hc))
  have hreverse : (u ++ '@' :: s).reverse = s.reverse ++ '@' :: u.reverse := by simp
  obtain ⟨htake, hdrop⟩ := span_iff (y := '@' :: u.reverse).mpr ⟨hreverse, hplain, by simp⟩
  rw [splitUserinfo, hdrop, htake]
  simp

/-- User name and password as they stand before an at sign. -/
def userText (username password : List Char) : List Char :=
  username ++ if password = [] then [] else ':' :: password

theorem readUserinfo_userText (huser : Plain inUserinfo username) (hpass : Plain inUserinfo password) :
    readUserinfo (userText username password) = (username, password) := by
  have hplain : ∀ c ∈ username, (c != ':') = true := by
    intro c hc
    simpa using fun he : c = ':' => huser.not_mem (by decide) (he ▸ hc)
  have hshape : ∃ y, userText username password = username ++ y ∧ (∀ c ∈ y.head?, (c != ':') = false) ∧
      y.drop 1 = password := by
    by_cases hp : password = []
    · exact ⟨[], by simp [userText, hp], by simp, by simp [hp]⟩
    · exact ⟨':' :: password, by simp [userText, hp], by simp, rfl⟩
  obtain ⟨y, hy, hhead, hdrop⟩ := hshape
  obtain ⟨htake, hrest⟩ := span_iff.mpr ⟨hy, hplain, hhead⟩
  rw [readUserinfo, htake, hrest, hdrop, encode_of_plain huser, encode_of_plain hpass]

/-- A user is read back from what stands before the host of a web address. -/
theorem userinfo_written (huser : Plain inUserinfo username) (hpass : Plain inUserinfo password)
    {s : List Char} (hs : '@' ∉ s) : ∃ u,
    (splitUserinfo (renderUserinfo username password ++ s)).getD
      ([], renderUserinfo username password ++ s) = (u, s) ∧ readUserinfo u = (username, password) := by
  by_cases hnone : username = [] ∧ password = []
  · refine ⟨[], by simp [renderUserinfo, hnone, splitUserinfo_of_not_mem hs], ?_⟩
    rw [hnone.1, hnone.2]
    rfl
  · have hwritten : renderUserinfo username password ++ s = userText username password ++ '@' :: s := by
      simp [renderUserinfo, hnone, userText]
    exact ⟨_, by rw [hwritten, splitUserinfo_append hs]; rfl, readUserinfo_userText huser hpass⟩

end Authority

section Reading

variable {scheme username password t : List Char} {port : Option Nat} {host : Host}

theorem isEmpty_of_readDomain {s : List Char} {h : Host} (hread : readDomain s = .ok h) :
    h.isEmpty = false := by
  unfold readDomain at hread
  split at hread
  · unfold readBracketed at hread
    split at hread
    · split at hread
      · obtain rfl := Except.ok.inj hread
        rfl
      · cases hread
    · cases hread
  · split at hread
    · cases hread
    · cases hread
    next d hne hd =>
      split at hread
      · split at hread
        · obtain rfl := Except.ok.inj hread
          rfl
        · cases hread
      · obtain rfl := Except.ok.inj hread
        cases d with
        | nil => exact absurd rfl hne
        | cons c d => rfl

/-- Characters that end the authority of a web address. -/
def authorityEnds : List Char := "/?#\\".toList

theorem endsAuthority_eq {c : Char} : endsAuthority true c = decide (c ∈ authorityEnds) := by
  rw [Bool.eq_iff_iff]
  simp [endsAuthority, authorityEnds, or_assoc]

theorem not_mem_renderPort {c : Char} (hc : c.isDigit = false) (hne : c ≠ ':') :
    c ∉ renderPort port := by
  cases port with
  | none => simp [renderPort]
  | some n => simpa [renderPort, hne] using not_mem_toDigits n hc

theorem not_mem_renderUserinfo {c : Char} (huser : Plain inUserinfo username)
    (hpass : Plain inUserinfo password) (hc : inUserinfo c = true) (hcolon : c ≠ ':') (hat : c ≠ '@') :
    c ∉ renderUserinfo username password := by
  have hu := huser.not_mem hc
  have hp := hpass.not_mem hc
  rw [renderUserinfo]
  split
  · simp
  · split <;> simp [hu, hp, hcolon, hat]

theorem solid_renderUserinfo (huser : Plain inUserinfo username) (hpass : Plain inUserinfo password) :
    Solid (renderUserinfo username password) := by
  have hname : Solid username := huser.solid (by decide)
  have hsecret : Solid password := hpass.solid (by decide)
  rw [renderUserinfo]
  split
  · exact solid_nil
  · refine solid_append.mpr ⟨solid_append.mpr ⟨hname, ?_⟩, by decide⟩
    split
    · exact solid_nil
    · exact solid_cons.mpr ⟨by decide, hsecret⟩

theorem solid_renderPort : Solid (renderPort port) := by
  cases port with
  | none => exact solid_nil
  | some n =>
    refine solid_cons.mpr ⟨by decide, fun c hc => ?_⟩
    have hdigit := isDigit_toDigits n c (by simpa using hc)
    exact Nat.lt_of_lt_of_le (by decide) (Char.isDigit_iff_toNat.mp hdigit).1

/-- Nothing that ends an authority stands in one as it is written. -/
theorem not_mem_authority (huser : Plain inUserinfo username) (hpass : Plain inUserinfo password)
    (hhost : IsHostText host.render) {c : Char} (hc : c ∈ authorityEnds) :
    c ∉ renderUserinfo username password ++ (host.render ++ renderPort port) := by
  have hkind : inUserinfo c = true ∧ c ≠ ':' ∧ c ≠ '@' ∧ c.isDigit = false ∧ c ∈ "/?#\\@".toList := by
    revert c
    decide
  obtain ⟨hset, hcolon, hat, hdigit, hhostText⟩ := hkind
  simp [not_mem_renderUserinfo huser hpass hset hcolon hat, not_mem_renderPort hdigit hcolon,
    hhost.fits c hhostText]

/-- An authority of the web is read back with the host that its text stands for. -/
theorem readAuthority_written (huser : Plain inUserinfo username) (hpass : Plain inUserinfo password)
    (hhost : IsHostText host.render) (hport : IsPort scheme port)
    (ht : ∀ c ∈ t.head?, c ∈ authorityEnds) :
    readAuthority .web scheme (renderUserinfo username password ++ (host.render ++ renderPort port) ++ t) =
      (readDomain host.render).map fun h =>
        withPath .web { scheme, username, password, host := some h, port } t := by
  have hplain : ∀ c ∈ renderUserinfo username password ++ (host.render ++ renderPort port),
      (!endsAuthority true c) = true := by
    intro c hc
    simpa [endsAuthority_eq] using fun hends => not_mem_authority huser hpass hhost hends hc
  have hends : ∀ c ∈ t.head?, (!endsAuthority true c) = false := by
    intro c hc
    simp [endsAuthority_eq, ht c hc]
  obtain ⟨htake, hdrop⟩ := span_iff.mpr ⟨rfl, hplain, hends⟩
  have hportAt : '@' ∉ renderPort port := not_mem_renderPort (by decide) (by decide)
  have hat : '@' ∉ host.render ++ renderPort port := by simp [hhost.fits '@' (by decide), hportAt]
  obtain ⟨u, hsplit, huserinfo⟩ := userinfo_written huser hpass hat
  have hne : host.render ++ renderPort port ≠ [] := by simp [hhost.nonempty]
  have hdigits : ((renderPort port).drop 1).takeWhile (· != '\\') = (renderPort port).drop 1 ∧
      ((renderPort port).drop 1).dropWhile (· != '\\') = [] := by
    refine span_iff.mpr ⟨(List.append_nil _).symm, fun c hc => ?_, by simp⟩
    have hmem : '\\' ∉ renderPort port := not_mem_renderPort (by decide) (by decide)
    simpa using fun he : c = '\\' => hmem (he ▸ List.mem_of_mem_drop hc)
  simp only [readAuthority, SchemeKind.isSpecial, htake, hdrop, hsplit, huserinfo,
    splitHost_written hhost, hhost.nonempty, hne, hdigits, readPort_renderPort hport]
  cases hread : readDomain host.render with
  | error e => simp [bind, Except.bind, Except.map]
  | ok h => simp [isEmpty_of_readDomain hread, bind, Except.bind, pure, Except.pure, Except.map]

end Reading

end Killfile.Url

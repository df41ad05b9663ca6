import Killfile.Proofs.Url.Ipv4
import Killfile.Proofs.Url.Ipv6

/-! Hosts of web addresses. Those that have been read are read back from what is written for them. -/

namespace Killfile.Url

/-- The hosts of web addresses: domains that do not end in a number, and addresses. -/
inductive IsHost : Host → Prop where
  | domain (ls : List (List Char)) (hls : IsDomain ls) (hne : domainText ls ≠ [])
    (hname : endsInNumber (domainText ls) = false) : IsHost (.domain (domainText ls))
  | ipv4 (n : Nat) (hn : n < 4294967296) : IsHost (.ipv4 n)
  | ipv6 (l : List Nat) (hlength : l.length = 8) (hl : ∀ a ∈ l, a < 65536) : IsHost (.ipv6 l)

variable {host : Host} {s : List Char}

theorem isHost_of_readBracketed (h : readBracketed s = .ok host) : IsHost host := by
  unfold readBracketed at h
  split at h
  · split at h
    next l hl =>
      obtain rfl := Except.ok.inj h
      exact .ipv6 l (ipv6?_fits hl).1 (ipv6?_fits hl).2
    · cases h
  · cases h

theorem isHost_of_readDomain (h : readDomain s = .ok host) : IsHost host := by
  unfold readDomain at h
  split at h
  · exact isHost_of_readBracketed h
  · split at h
    · cases h
    · cases h
    next d hne hd =>
      split at h
      · split at h
        next n hn =>
          obtain rfl := Except.ok.inj h
          exact .ipv4 n (lt_of_ipv4? hn)
        · cases h
      next hname =>
        obtain rfl := Except.ok.inj h
        obtain ⟨ls, hls, rfl⟩ := exists_isDomain hd
        exact .domain ls hls hne (by simpa using hname)

section Written

theorem IsDomainChar.not_denied {c d : Char} (h : IsDomainChar c) (hd : deniedInDomain d = true) :
    c ≠ d := by
  rintro rfl
  simp [h.allowed] at hd

/-- Characters of domains may stand in a host as it is written. -/
theorem isHostText_of_isDomainChar (hne : s ≠ []) (h : ∀ c ∈ s, IsDomainChar c) : IsHostText s := by
  have hnot {d : Char} (hd : deniedInDomain d = true) : d ∉ s :=
    fun hmem => (h d hmem).not_denied hd rfl
  have hfits : ∀ c ∈ "/?#\\@".toList, deniedInDomain c = true := by decide
  refine ⟨hne, fun c hc => ?_, fun c hc => hnot (hfits c hc), .inl ⟨hnot (by decide), hnot (by decide)⟩⟩
  have hallowed := (h c hc).allowed
  simp only [deniedInDomain, Bool.or_eq_false_iff, decide_eq_false_iff_not] at hallowed
  exact Nat.lt_of_not_le hallowed.1.1

/-- The domain of a text of such characters is that of the text as it stands. -/
theorem readDomain_domainText {ls : List (List Char)} (hls : IsDomain ls) (hne : domainText ls ≠ []) :
    readDomain (domainText ls) =
      if endsInNumber (domainText ls) then
        match ipv4? (domainText ls) with
        | some n => .ok (.ipv4 n)
        | none => .error .invalidIpv4
      else .ok (.domain (domainText ls)) := by
  have hchars : ∀ c ∈ domainText ls, IsDomainChar c := fun c hc => isDomainChar_domainText hls hc
  have hascii := domainToAscii?_domainText hls (text?_percentDecode fun c hc =>
    (hchars c hc).not_denied (by decide))
  unfold readDomain
  split
  next r htext =>
    have hmem : '[' ∈ domainText ls := htext ▸ List.mem_cons_self
    exact absurd rfl ((hchars '[' hmem).not_denied (by decide))
  next =>
    rw [hascii]
    generalize domainText ls = text at hne
    cases text with
    | nil => exact absurd rfl hne
    | cons c text => rfl

theorem domainText_byteLabels_ne_nil (n : Nat) : domainText (byteLabels n) ≠ [] := by
  intro hnil
  have hends := endsInNumber_renderIpv4 n
  rw [renderIpv4_eq_domainText, hnil] at hends
  cases hends

/-- A host is read back from what is written for it. -/
theorem readDomain_render (h : IsHost host) : readDomain host.render = .ok host := by
  cases h with
  | domain ls hls hne hname => rw [Host.render, readDomain_domainText hls hne, hname]; rfl
  | ipv4 n hn =>
    have htext := renderIpv4_eq_domainText n
    rw [Host.render, htext,
      readDomain_domainText (isDomain_byteLabels n) (domainText_byteLabels_ne_nil n), ← htext,
      endsInNumber_renderIpv4, ipv4?_renderIpv4 hn]
    rfl
  | ipv6 l hlength hl =>
    have hlast : ((renderIpv6 l).toList ++ [']']).getLast? = some ']' := by simp
    have hinner : ((renderIpv6 l).toList ++ [']']).dropLast = (renderIpv6 l).toList := by simp
    rw [Host.render, List.cons_append, readDomain, readBracketed, if_pos hlast, hinner,
      ipv6?_renderIpv6 hlength hl]

theorem isHostText_bracketed {r : List Char} (h : ∀ c ∈ r, c = ':' ∨ c ∈ hexChars) :
    IsHostText ('[' :: r ++ [']']) := by
  have hmem {c : Char} (hc : c ∈ '[' :: r ++ [']']) : c ∈ "[:]".toList ∨ c ∈ hexChars := by
    simp only [List.cons_append, List.mem_cons, List.mem_append, List.not_mem_nil, or_false] at hc
    obtain rfl | hc | rfl := hc
    · decide
    · exact (h c hc).imp_left fun he => by simp [he]
    · decide
  have hsolid : ∀ c ∈ "[:]".toList ++ hexChars, 0x20 < c.toNat ∧ c ∉ "/?#\\@".toList := by decide
  have hinner : ∀ c ∈ ':' :: hexChars, c ≠ '[' ∧ c ≠ ']' := by decide
  refine ⟨by simp, fun c hc => (hsolid c (List.mem_append.mpr (hmem hc))).1, fun c hc hmem' => ?_,
    .inr ⟨r, rfl, fun hc => ?_, fun hc => ?_⟩⟩
  · exact (hsolid c (List.mem_append.mpr (hmem hmem'))).2 hc
  · exact (hinner _ (List.mem_cons.mpr (h _ hc))).1 rfl
  · exact (hinner _ (List.mem_cons.mpr (h _ hc))).2 rfl

theorem isHostText_render (h : IsHost host) : IsHostText host.render := by
  cases h with
  | domain ls hls hne hname =>
    exact isHostText_of_isDomainChar hne fun c hc => isDomainChar_domainText hls hc
  | ipv4 n hn =>
    rw [Host.render, renderIpv4_eq_domainText]
    exact isHostText_of_isDomainChar (domainText_byteLabels_ne_nil n)
      fun c hc => isDomainChar_domainText (isDomain_byteLabels n) hc
  | ipv6 l hlength hl => exact isHostText_bracketed fun c hc => mem_renderIpv6 hc

end Written

end Killfile.Url

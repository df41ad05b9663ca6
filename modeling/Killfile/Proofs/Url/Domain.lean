import Killfile.Proofs.Unicode.Normal
import Killfile.Proofs.Url.Percent
import Killfile.Proofs.Url.Punycode
import Killfile.Proofs.Utf8
import Killfile.Url.Domain

/-! Domain names as they are written in ASCII, and how they are read back: label by label, those in
punycode included. -/

namespace Killfile.Url

open Text (pieces)

/-- The labels of a domain after they have been checked. -/
structure IsDomain (ls : List (List Char)) : Prop where
  nonempty : ls ≠ []
  labels : ∀ l ∈ ls, isLabel l = true
  stops : ∀ l ∈ ls, '.' ∉ l
  unmarked : ∀ l ∈ ls, isAsciiText l = true → l.take 4 ≠ punycodeMark
  normal : ∀ l ∈ ls, isAsciiText l = false → Unicode.normalForm l = l
  directions : (ls.any fun l => !isAsciiText l && l.any fun c => (Unicode.direction c).isRight) = true →
    ls.all Unicode.keepsDirection = true

/-- A domain as it is written. -/
def domainText (ls : List (List Char)) : List Char := ".".toList.intercalate (ls.map renderLabel)

/-- A character of a domain as it is written: lower case, and none of those that are denied. -/
structure IsDomainChar (c : Char) : Prop where
  ascii : c.toNat < 0x80
  allowed : deniedInDomain c = false
  lower : c.toLower = c

instance (c : Char) : Decidable (IsDomainChar c) :=
  decidable_of_iff (c.toNat < 0x80 ∧ deniedInDomain c = false ∧ c.toLower = c)
    ⟨fun h => ⟨h.1, h.2.1, h.2.2⟩, fun h => ⟨h.ascii, h.allowed, h.lower⟩⟩

section Options

variable {α β : Type} {f : α → Option β} {l : List α} {r : List β}

theorem mapM_eq_some_iff : l.mapM f = some r ↔ List.Forall₂ (fun a b => f a = some b) l r := by
  induction l generalizing r with
  | nil => simp [eq_comm]
  | cons a l ih =>
    rw [List.mapM_cons]
    cases r with
    | nil => simp [Option.bind_eq_some_iff]
    | cons b r => simp [Option.bind_eq_some_iff, ← ih]

theorem exists_of_mem_mapM {b : β} (h : l.mapM f = some r) (hb : b ∈ r) : ∃ a ∈ l, f a = some b := by
  induction mapM_eq_some_iff.mp h with
  | nil => cases hb
  | @cons a b' l r hab hlr ih =>
    rcases List.mem_cons.mp hb with rfl | hb
    · exact ⟨a, List.mem_cons_self, hab⟩
    · obtain ⟨x, hx, hxb⟩ := ih (mapM_eq_some_iff.mpr hlr) hb
      exact ⟨x, List.mem_cons_of_mem a hx, hxb⟩

end Options

section Bytes

variable {s : List Char}

theorem percentDecode_eq (h : ∀ c ∈ s, c ≠ '%') : percentDecode s = s.flatMap String.utf8EncodeChar := by
  induction s with
  | nil => rfl
  | cons c s ih =>
    obtain ⟨hc, hs⟩ := List.forall_mem_cons.mp h
    rw [percentDecode, ih hs, List.flatMap_cons]
    intro a b r hpercent
    exact absurd hpercent hc

/-- Text without percent signs stands for itself. -/
theorem text?_percentDecode (h : ∀ c ∈ s, c ≠ '%') :
    Text.Utf8.text? (percentDecode s) = some (String.ofList s) := by
  have hall : (s.map some).mapM id = some s := by
    rw [mapM_eq_some_iff, List.forall₂_map_left_iff]
    exact List.forall₂_same.mpr fun _ _ => rfl
  rw [Text.Utf8.text?, percentDecode_eq h, Text.Utf8.decode_flatMap, hall]
  rfl

end Bytes

section Characters

variable {ls : List (List Char)} {l : List Char} {c : Char}

theorem isDomainChar_digitChar {n : Nat} (h : n < 36) : IsDomainChar (Punycode.digitChar n) := by
  revert n
  decide

theorem mapChar_ascii (h : c.toNat < 0x80) : mapChar c = some [c.toLower] := by
  rw [mapChar, if_pos h]

/-- The characters of a label that has been checked may stand in a domain. -/
theorem isDomainChar_of_isLabel (h : isLabel l = true) (hc : c ∈ l) (hascii : c.toNat < 0x80) :
    IsDomainChar c := by
  simp only [isLabel, Bool.and_eq_true, List.all_eq_true, decide_eq_true_eq, Bool.not_eq_true'] at h
  obtain ⟨hsame, hallowed⟩ := h.1.1 c hc
  rw [mapChar_ascii hascii] at hsame
  exact ⟨hascii, hallowed, by simpa using hsame⟩

theorem ascii_of_isAsciiText (h : isAsciiText l = true) (hc : c ∈ l) : c.toNat < 0x80 := by
  simpa using List.all_eq_true.mp h c hc

/-- The characters of a label as it is written. -/
theorem isDomainChar_renderLabel (h : isLabel l = true) (hc : c ∈ renderLabel l) : IsDomainChar c := by
  rw [renderLabel] at hc
  split at hc
  next hascii => exact isDomainChar_of_isLabel h hc (ascii_of_isAsciiText hascii hc)
  next =>
    rcases List.mem_append.mp hc with hc | hc
    · have hmark : ∀ c ∈ punycodeMark, IsDomainChar c := by decide
      exact hmark c hc
    · obtain ⟨hc, hascii⟩ | rfl | ⟨n, hn, rfl⟩ := Punycode.mem_encode hc
      · exact isDomainChar_of_isLabel h hc hascii
      · decide
      · exact isDomainChar_digitChar hn

theorem stop_not_mem_renderLabel (h : '.' ∉ l) : '.' ∉ renderLabel l := by
  rw [renderLabel]
  split
  · exact h
  · intro hc
    rcases List.mem_append.mp hc with hc | hc
    · exact absurd hc (by decide)
    · obtain ⟨hc, -⟩ | hc | ⟨n, hn, hc⟩ := Punycode.mem_encode hc
      · exact h hc
      · cases hc
      · revert n
        decide

theorem intercalate_cons_cons (m m' : List Char) (ms : List (List Char)) :
    ".".toList.intercalate (m :: m' :: ms) = m ++ '.' :: ".".toList.intercalate (m' :: ms) := by
  rw [List.intercalate_cons_cons]
  simp

theorem pieces_intercalate {ms : List (List Char)} (hne : ms ≠ []) (hms : ∀ m ∈ ms, '.' ∉ m) :
    pieces '.' (".".toList.intercalate ms) = ms := by
  induction ms with
  | nil => exact absurd rfl hne
  | cons m ms ih =>
    obtain ⟨hm, hms⟩ := List.forall_mem_cons.mp hms
    cases ms with
    | nil => simpa using Text.pieces_of_not_mem hm
    | cons m' ms =>
      rw [intercalate_cons_cons, Text.pieces_append_cons, Text.pieces_of_not_mem hm,
        ih (List.cons_ne_nil m' ms) hms]
      rfl

theorem mem_intercalate {ms : List (List Char)} (h : c ∈ ".".toList.intercalate ms) :
    c = '.' ∨ ∃ m ∈ ms, c ∈ m := by
  induction ms with
  | nil => simp at h
  | cons m ms ih =>
    cases ms with
    | nil => exact .inr ⟨m, List.mem_cons_self, by simpa using h⟩
    | cons m' ms =>
      rw [intercalate_cons_cons] at h
      rcases List.mem_append.mp h with h | h
      · exact .inr ⟨m, List.mem_cons_self, h⟩
      · rcases List.mem_cons.mp h with h | h
        · exact .inl h
        · exact (ih h).imp_right fun ⟨x, hx, hc⟩ => ⟨x, List.mem_cons_of_mem m hx, hc⟩

/-- The pieces of a domain are its labels as they are written. -/
theorem pieces_domainText (h : IsDomain ls) : pieces '.' (domainText ls) = ls.map renderLabel := by
  refine pieces_intercalate (by simpa using h.nonempty) fun m hm => ?_
  obtain ⟨l, hl, rfl⟩ := List.mem_map.mp hm
  exact stop_not_mem_renderLabel (h.stops l hl)

theorem isDomainChar_domainText (h : IsDomain ls) (hc : c ∈ domainText ls) : IsDomainChar c := by
  obtain rfl | ⟨m, hm, hc⟩ := mem_intercalate hc
  · decide
  · obtain ⟨l, hl, rfl⟩ := List.mem_map.mp hm
    exact isDomainChar_renderLabel (h.labels l hl) hc

end Characters

section Reading

variable {ls : List (List Char)} {l s : List Char} {bytes : List UInt8}

/-- A label is read back from what is written for it. -/
theorem readLabel_renderLabel (h : IsDomain ls) (hl : l ∈ ls) : readLabel (renderLabel l) = some l := by
  cases hascii : isAsciiText l with
  | true => rw [renderLabel, if_pos hascii, readLabel, if_neg (h.unmarked l hl hascii)]
  | false =>
    have hmark : (punycodeMark ++ Punycode.encode l).take 4 = punycodeMark := by
      rw [List.take_append_of_le_length (by decide)]
      decide
    have hrest : (punycodeMark ++ Punycode.encode l).drop 4 = Punycode.encode l :=
      List.drop_left' (by decide)
    rw [renderLabel, if_neg (by simp [hascii]), readLabel, if_pos hmark, hrest, Punycode.decode_encode]
    simp [hascii, h.normal l hl hascii]

theorem isLabel_all (h : IsDomain ls) : ls.all isLabel = true :=
  List.all_eq_true.mpr h.labels

/-- A domain is read back from its text. -/
theorem domainToAscii?_domainText (h : IsDomain ls)
    (hbytes : Text.Utf8.text? bytes = some (String.ofList (domainText ls))) :
    domainToAscii? bytes = some (domainText ls) := by
  have hchars : ∀ c ∈ domainText ls, IsDomainChar c := fun c hc => isDomainChar_domainText h hc
  have hmapped : (domainText ls).mapM mapChar = some ((domainText ls).map fun c => [c]) := by
    rw [mapM_eq_some_iff, List.forall₂_map_right_iff]
    refine List.forall₂_same.mpr fun c hc => ?_
    rw [mapChar_ascii (hchars c hc).ascii, (hchars c hc).lower]
  have hflat : ((domainText ls).map fun c => [c]).flatten = domainText ls :=
    List.flatMap_singleton' _
  have hascii : isAsciiText (domainText ls) = true := by
    refine List.all_eq_true.mpr fun c hc => ?_
    simpa using (hchars c hc).ascii
  have hlabels : (pieces '.' (domainText ls)).mapM readLabel = some ls := by
    rw [pieces_domainText h, mapM_eq_some_iff, List.forall₂_map_left_iff]
    exact List.forall₂_same.mpr fun l hl => readLabel_renderLabel h hl
  rw [domainToAscii?, hbytes]
  simp only [Option.bind_eq_bind, Option.bind_some, String.toList_ofList, hmapped, hflat, hascii, if_true,
    hlabels]
  rw [if_pos ⟨isLabel_all h, h.directions⟩]
  rfl

/-- What a label that is read holds, and how it relates to the text. -/
theorem readLabel_cases {p : List Char} (h : readLabel p = some l) :
    (isAsciiText l = false ∧ Unicode.normalForm l = l ∧ ∀ c ∈ l, c ∈ p ∨ 0x80 ≤ c.toNat) ∨
      (l = p ∧ p.take 4 ≠ punycodeMark) := by
  unfold readLabel at h
  split at h
  next hmark =>
    obtain ⟨t, ht, h⟩ := Option.bind_eq_some_iff.mp h
    split at h
    · cases h
    next hnot =>
      obtain rfl := Option.some.inj h
      rw [not_or, not_not] at hnot
      refine .inl ⟨by simpa using hnot.1, hnot.2, fun c hc => ?_⟩
      exact (Punycode.mem_decode ht hc).imp_left List.mem_of_mem_drop
  next hmark => exact .inr ⟨(Option.some.inj h).symm, hmark⟩

/-- Labels that are read from ASCII text, or from text in normal form, and have been checked. -/
theorem isDomain_of_pieces {t : List Char} (ht : isAsciiText t = true ∨ Unicode.normalForm t = t)
    (hls : (pieces '.' t).mapM readLabel = some ls) (hlabels : ls.all isLabel = true)
    (hdirections : (ls.any fun l => !isAsciiText l && l.any fun c => (Unicode.direction c).isRight) = true →
      ls.all Unicode.keepsDirection = true) : IsDomain ls := by
  have hread {l : List Char} (hl : l ∈ ls) : ∃ p ∈ pieces '.' t, readLabel p = some l :=
    exists_of_mem_mapM hls hl
  refine ⟨?_, List.all_eq_true.mp hlabels, fun l hl hstop => ?_, fun l hl hascii hmark => ?_,
    fun l hl hascii => ?_, hdirections⟩
  · rintro rfl
    cases hpieces : pieces '.' t with
    | nil => exact Text.pieces_ne_nil '.' t hpieces
    | cons p ps =>
      rw [hpieces] at hls
      cases mapM_eq_some_iff.mp hls
  · obtain ⟨p, hp, hpl⟩ := hread hl
    have hfree := (Text.mem_pieces_iff.mp hp).1
    obtain ⟨-, -, hmem⟩ | ⟨rfl, -⟩ := readLabel_cases hpl
    · rcases hmem '.' hstop with h | h
      · exact hfree h
      · exact absurd h (by decide)
    · exact hfree hstop
  · obtain ⟨p, hp, hpl⟩ := hread hl
    obtain ⟨hnot, -⟩ | ⟨rfl, hunmarked⟩ := readLabel_cases hpl
    · simp [hascii] at hnot
    · exact hunmarked hmark
  · obtain ⟨p, hp, hpl⟩ := hread hl
    obtain ⟨-, hnormal, -⟩ | ⟨rfl, -⟩ := readLabel_cases hpl
    · exact hnormal
    · rcases ht with ht | ht
      · obtain ⟨-, x, y, rfl, -⟩ := Text.mem_pieces_iff.mp hp
        have hall : isAsciiText l = true := by simp_all [isAsciiText]
        simp [hall] at hascii
      · exact Unicode.normalForm_of_mem_pieces ht l hp

/-- A domain that has been read is the text of labels that have been checked. -/
theorem exists_isDomain (h : domainToAscii? bytes = some s) : ∃ ls, IsDomain ls ∧ s = domainText ls := by
  simp only [domainToAscii?, Option.bind_eq_bind, Option.bind_eq_some_iff] at h
  obtain ⟨text, -, mapped, -, ls, hls, h⟩ := h
  split at h
  next hchecked =>
    refine ⟨ls, isDomain_of_pieces ?_ hls hchecked.1 hchecked.2, (Option.some.inj h).symm⟩
    split
    next hascii => exact .inl hascii
    next => exact .inr (Unicode.normalForm_idem _)
  next => cases h

end Reading

end Killfile.Url

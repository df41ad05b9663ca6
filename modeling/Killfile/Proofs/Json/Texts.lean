import Killfile.Proofs.Json.Grammar

/-! The reader of JSON reads the texts of the grammar and no others, each as what it stands for. Two turns
for each character are enough, for every value and every item takes one. -/

namespace Killfile.Json

section Turns

variable {a s t r : Input} {fuel : Nat} {j : Json} {l : List Json} {ms : List (Option String × Json)}

theorem readValue_skipBlanks (fuel : Nat) (s : Input) :
    readValue fuel (skipBlanks s) = readValue fuel s := by
  cases fuel with
  | zero => rfl
  | succ fuel => rw [readValue, readValue, skipBlanks_skipBlanks]

theorem readValue_append (h : Blanks a) : readValue fuel (a ++ s) = readValue fuel s := by
  rw [← readValue_skipBlanks, skipBlanks_append h, readValue_skipBlanks]

theorem readItems_skipBlanks (fuel : Nat) (s : Input) :
    readItems fuel (skipBlanks s) = readItems fuel s := by
  cases fuel with
  | zero => rfl
  | succ fuel => rw [readItems, readItems, readValue_skipBlanks]

theorem readMembers_skipBlanks (fuel : Nat) (s : Input) :
    readMembers fuel (skipBlanks s) = readMembers fuel s := by
  cases fuel with
  | zero => rfl
  | succ fuel => rw [readMembers, readMembers, skipBlanks_skipBlanks]

/-- No value begins with a closing bracket. -/
theorem readItems_bracket (fuel : Nat) (r : Input) : readItems fuel (some ']' :: r) = none := by
  match fuel with
  | 0 => rfl
  | 1 => rfl
  | fuel + 2 => rfl

/-- No key begins with a closing brace. -/
theorem readMembers_brace (fuel : Nat) (r : Input) : readMembers fuel (some '\x7d' :: r) = none := by
  match fuel with
  | 0 => rfl
  | fuel + 1 => rfl

theorem readValue_string (fuel : Nat) (s : Input) : readValue (fuel + 1) (some '"' :: s) =
    (readString s).map fun p => (.string p.1, p.2) := rfl

theorem readValue_array (h : readItems fuel s = some (l, r)) :
    readValue (fuel + 1) (some '[' :: s) = some (.array l, r) := by
  rw [← readItems_skipBlanks] at h
  simp only [readValue, skipBlanks_cons (show some '[' ∉ blankChars by decide)]
  split
  next hs =>
    rw [hs, readItems_bracket] at h
    cases h
  · rw [h]
    rfl

theorem readValue_object (h : readMembers fuel s = some (ms, r)) :
    readValue (fuel + 1) (some '\x7b' :: s) = some (.object ms, r) := by
  rw [← readMembers_skipBlanks] at h
  simp only [readValue, skipBlanks_cons (show some '\x7b' ∉ blankChars by decide)]
  split
  next hs =>
    rw [hs, readMembers_brace] at h
    cases h
  · rw [h]
    rfl

theorem readValue_emptyArray (h : Blanks a) :
    readValue (fuel + 1) (some '[' :: (a ++ some ']' :: r)) = some (.array [], r) := by
  have hskip : skipBlanks (a ++ some ']' :: r) = some ']' :: r := by
    rw [skipBlanks_append h, skipBlanks_cons (by decide)]
  rw [readValue, skipBlanks_cons (by decide)]
  simp only [hskip]

theorem readValue_emptyObject (h : Blanks a) :
    readValue (fuel + 1) (some '\x7b' :: (a ++ some '\x7d' :: r)) = some (.object [], r) := by
  have hskip : skipBlanks (a ++ some '\x7d' :: r) = some '\x7d' :: r := by
    rw [skipBlanks_append h, skipBlanks_cons (by decide)]
  rw [readValue, skipBlanks_cons (by decide)]
  simp only [hskip]

theorem readValue_digit {d : Char} (hd : d.isDigit = true) :
    readValue (fuel + 1) (some d :: s) = readNumber false (some d :: s) := by
  have hblank : some d ∉ blankChars := by
    simp only [blankChars, ofChars_cons, ofChars_nil, List.mem_cons, Option.some.injEq, List.not_mem_nil,
      or_false]
    rintro (rfl | rfl | rfl | rfl) <;> cases hd
  rw [readValue, skipBlanks_cons hblank]
  split <;> simp_all

theorem readValue_number {sign whole fraction exponent : List Char}
    (h : IsNumeral sign whole fraction exponent) (hr : Apart r) :
    readValue (fuel + 1) (ofChars (sign ++ whole ++ fraction ++ exponent) ++ r) =
      some (.number (integer? sign whole fraction exponent), r) := by
  rcases h.sign with rfl | rfl
  · have hread : readNumber false (ofChars (whole ++ fraction ++ exponent) ++ r) =
        some (.number (integer? [] whole fraction exponent), r) := readNumber_ofChars h hr
    match whole, h.whole with
    | [], hwhole => exact absurd rfl hwhole.nonempty
    | d :: whole, hwhole =>
      exact (readValue_digit (hwhole.digits d List.mem_cons_self)).trans hread
  · exact readNumber_ofChars (show IsNumeral (signChars true) whole fraction exponent from h) hr

theorem readItems_last (h : readValue fuel s = some (j, t)) (ht : skipBlanks t = some ']' :: r) :
    readItems (fuel + 1) s = some ([j], r) := by
  simp only [readItems, h, Option.bind_eq_bind, Option.bind_some, ht]

theorem readItems_more {q : Input} (h : readValue fuel s = some (j, t)) (ht : skipBlanks t = some ',' :: q)
    (hq : readItems fuel q = some (l, r)) : readItems (fuel + 1) s = some (j :: l, r) := by
  simp only [readItems, h, Option.bind_eq_bind, Option.bind_some, ht, hq, Option.map_some]

theorem readMembers_last {m : Option String × Json} {k v u : Input} (hquote : skipBlanks s = some '"' :: k)
    (hkey : readString k = some (m.1, t)) (hcolon : skipBlanks t = some ':' :: v)
    (h : readValue fuel v = some (m.2, u)) (hu : skipBlanks u = some '\x7d' :: r) :
    readMembers (fuel + 1) s = some ([m], r) := by
  simp only [readMembers, hquote, hkey, hcolon, h, hu, Option.bind_eq_bind, Option.bind_some]

theorem readMembers_more {m : Option String × Json} {k v u q : Input}
    (hquote : skipBlanks s = some '"' :: k) (hkey : readString k = some (m.1, t))
    (hcolon : skipBlanks t = some ':' :: v) (h : readValue fuel v = some (m.2, u))
    (hu : skipBlanks u = some ',' :: q) (hq : readMembers fuel q = some (ms, r)) :
    readMembers (fuel + 1) s = some (m :: ms, r) := by
  simp only [readMembers, hquote, hkey, hcolon, h, hu, hq, Option.bind_eq_bind, Option.bind_some,
    Option.map_some]

end Turns

section Completeness

/-- What ends a value that stands inside of another, or the whole text. -/
def Ends (r : Input) : Prop := ∀ c ∈ r.head?, c ∈ ofChars [',', ']', '\x7d']

/-- A part of a text is read as what it stands for, with turns enough and with what is behind it. -/
def ReadsAs (s : Input) : Part → Prop
  | .value j => ∀ fuel r, 2 * s.length ≤ fuel → Apart r → readValue (fuel + 1) (s ++ r) = some (j, r)
  | .element j => ∀ fuel r, 2 * s.length ≤ fuel → Ends r →
      ∃ t, readValue (fuel + 1) (s ++ r) = some (j, t) ∧ skipBlanks t = r
  | .items l => ∀ fuel r, 2 * s.length < fuel → readItems (fuel + 1) (s ++ some ']' :: r) = some (l, r)
  | .member m => ∀ fuel r, 2 * s.length ≤ fuel → Ends r →
      ∃ k t v u, skipBlanks (s ++ r) = some '"' :: k ∧ readString k = some (m.1, t) ∧
        skipBlanks t = some ':' :: v ∧ readValue (fuel + 1) v = some (m.2, u) ∧ skipBlanks u = r
  | .members l => ∀ fuel r, 2 * s.length < fuel →
      readMembers (fuel + 1) (s ++ some '\x7d' :: r) = some (l, r)

variable {b r s : Input} {p : Part}

theorem Ends.skipBlanks (hr : Ends r) : skipBlanks r = r := by
  match r, hr with
  | [], _ => rfl
  | c :: r, hr =>
    have hends : ∀ c ∈ ofChars [',', ']', '\x7d'], c ∉ blankChars := by decide
    exact skipBlanks_cons (hends c (hr c rfl))

theorem Ends.apart (hb : Blanks b) (hr : Ends r) : Apart (b ++ r) := by
  intro d hd
  have hmem : some d ∈ blankChars ++ ofChars [',', ']', '\x7d'] := by
    match b, hb with
    | [], _ => exact List.mem_append_right _ (hr _ hd)
    | c :: b, hb =>
      obtain rfl := Option.some.inj hd
      exact List.mem_append_left _ (hb _ List.mem_cons_self)
  simp only [blankChars, ofChars_cons, ofChars_nil, List.cons_append, List.nil_append, List.mem_cons,
    Option.some.injEq, List.not_mem_nil, or_false] at hmem
  rcases hmem with rfl | rfl | rfl | rfl | rfl | rfl | rfl <;> decide

theorem ends_of_mem {c : Option Char} (h : c ∈ ofChars [',', ']', '\x7d']) (r : Input) : Ends (c :: r) := by
  rintro d hd
  exact Option.some.inj hd ▸ h

theorem Spells.reads (h : Spells s p) : ReadsAs s p := by
  induction h with
  | null => exact fun fuel r hfuel hr => rfl
  | true => exact fun fuel r hfuel hr => rfl
  | false => exact fun fuel r hfuel hr => rfl
  | number numeral => exact fun fuel r hfuel hr => readValue_number numeral hr
  | string letters =>
    intro fuel r hfuel hr
    rw [List.cons_append, List.append_assoc, readValue_string]
    exact congrArg (Option.map _) (readString_eq_some_iff.mpr ⟨_, _, letters, rfl, rfl⟩)
  | emptyArray blanks =>
    intro fuel r hfuel hr
    rw [List.cons_append, List.append_assoc]
    exact readValue_emptyArray blanks
  | emptyObject blanks =>
    intro fuel r hfuel hr
    rw [List.cons_append, List.append_assoc]
    exact readValue_emptyObject blanks
  -- What follows takes turns for its parts, so one more has to be left.
  | array items ih =>
    rintro (_ | fuel) r hfuel hr
    all_goals simp only [List.length_cons, List.length_append, List.length_nil] at hfuel
    · omega
    · rw [List.cons_append, List.append_assoc]
      exact readValue_array (ih fuel r (by omega))
  | object members ih =>
    rintro (_ | fuel) r hfuel hr
    all_goals simp only [List.length_cons, List.length_append, List.length_nil] at hfuel
    · omega
    · rw [List.cons_append, List.append_assoc]
      exact readValue_object (ih fuel r (by omega))
  | @element a s b j before value after ih =>
    intro fuel r hfuel hr
    simp only [List.length_append] at hfuel
    refine ⟨b ++ r, ?_, by rw [skipBlanks_append after, hr.skipBlanks]⟩
    rw [List.append_assoc, List.append_assoc, readValue_append before]
    exact ih fuel (b ++ r) (by omega) (hr.apart after)
  | lastItem item ih =>
    rintro (_ | fuel) r hfuel
    · omega
    · obtain ⟨t, hread, ht⟩ := ih fuel (some ']' :: r) (by omega) (ends_of_mem (by decide) r)
      exact readItems_last hread ht
  | @item s t j l item rest ih ihrest =>
    rintro (_ | fuel) r hfuel
    all_goals simp only [List.length_append, List.length_cons] at hfuel
    · omega
    · obtain ⟨q, hread, hq⟩ := ih fuel (some ',' :: (t ++ some ']' :: r)) (by omega)
        (ends_of_mem (by decide) _)
      rw [List.append_assoc, List.cons_append]
      exact readItems_more hread hq (ihrest fuel r (by omega))
  | @member a k b s points j before key after value ih =>
    intro fuel r hfuel hr
    simp only [List.length_append, List.length_cons] at hfuel
    obtain ⟨u, hread, hu⟩ := ih fuel r (by omega) hr
    refine ⟨k ++ some '"' :: (b ++ some ':' :: (s ++ r)), b ++ some ':' :: (s ++ r), s ++ r, u, ?_, ?_, ?_,
      hread, hu⟩
    · simp only [List.append_assoc, List.cons_append]
      rw [skipBlanks_append before, skipBlanks_cons (by decide)]
    · exact readString_eq_some_iff.mpr ⟨k, points, key, rfl, rfl⟩
    · rw [skipBlanks_append after, skipBlanks_cons (by decide)]
  | lastMember member ih =>
    rintro (_ | fuel) r hfuel
    · omega
    · obtain ⟨k, t, v, u, hquote, hkey, hcolon, hread, hu⟩ := ih fuel (some '\x7d' :: r) (by omega)
        (ends_of_mem (by decide) r)
      exact readMembers_last hquote hkey hcolon hread hu
  | @moreMembers s t m l member rest ih ihrest =>
    rintro (_ | fuel) r hfuel
    all_goals simp only [List.length_append, List.length_cons] at hfuel
    · omega
    · obtain ⟨k, q, v, u, hquote, hkey, hcolon, hread, hu⟩ :=
        ih fuel (some ',' :: (t ++ some '\x7d' :: r)) (by omega) (ends_of_mem (by decide) _)
      rw [List.append_assoc, List.cons_append]
      exact readMembers_more hquote hkey hcolon hread hu (ihrest fuel r (by omega))

theorem IsText.parse {j : Json} (h : IsText s j) : parse s = some j := by
  obtain ⟨t, hread, ht⟩ := h.reads (2 * s.length + 1) [] (by omega) fun _ hc => nomatch hc
  rw [List.append_nil] at hread
  simp only [Json.parse, hread, ht, if_true]

end Completeness

section Soundness

variable {s r : Input} {fuel : Nat} {j : Json} {l : List Json} {ms : List (Option String × Json)}

theorem exists_of_readWord {w : List Char} {j' : Json} (h : readWord w j' s = some (j, r)) :
    j = j' ∧ s = ofChars w ++ r := by
  rw [readWord, Option.ite_none_right_eq_some] at h
  obtain ⟨htake, h⟩ := h
  cases h
  exact ⟨rfl, by rw [ofChars, ← htake, List.take_append_drop]⟩

/-- What has been read as a value, as items or as members stands for what it was read as. -/
def ReadsTexts (fuel : Nat) : Prop :=
  (∀ s j r, readValue fuel s = some (j, r) → ∃ t, Spells t (.value j) ∧ skipBlanks s = t ++ r) ∧
  (∀ s l r, readItems fuel s = some (l, r) → ∃ t, Spells t (.items l) ∧ s = t ++ some ']' :: r) ∧
  ∀ s ms r, readMembers fuel s = some (ms, r) → ∃ t, Spells t (.members ms) ∧ s = t ++ some '\x7d' :: r

theorem exists_value (ih : ReadsTexts fuel) (h : readValue (fuel + 1) s = some (j, r)) :
    ∃ t, Spells t (.value j) ∧ skipBlanks s = t ++ r := by
  rw [readValue] at h
  split at h
  next s' hs =>
    simp only [Option.map_eq_some_iff, Prod.exists] at h
    obtain ⟨t, q, hread, h⟩ := h
    cases h
    obtain ⟨k, points, hk, rfl, rfl⟩ := readString_eq_some_iff.mp hread
    exact ⟨_, .string hk, by rw [hs]; simp⟩
  next s' hs =>
    split at h
    next q hq =>
      cases h
      obtain ⟨a, ha, hs'⟩ := exists_blanks s'
      rw [hq] at hs'
      exact ⟨_, .emptyArray ha, by rw [hs, hs']; simp⟩
    next hq =>
      simp only [Option.map_eq_some_iff, Prod.exists] at h
      obtain ⟨l, q, hread, h⟩ := h
      cases h
      rw [readItems_skipBlanks] at hread
      obtain ⟨t, ht, rfl⟩ := ih.2.1 _ _ _ hread
      exact ⟨_, .array ht, by rw [hs]; simp⟩
  next s' hs =>
    split at h
    next q hq =>
      cases h
      obtain ⟨a, ha, hs'⟩ := exists_blanks s'
      rw [hq] at hs'
      exact ⟨_, .emptyObject ha, by rw [hs, hs']; simp⟩
    next hq =>
      simp only [Option.map_eq_some_iff, Prod.exists] at h
      obtain ⟨l, q, hread, h⟩ := h
      cases h
      rw [readMembers_skipBlanks] at hread
      obtain ⟨t, ht, rfl⟩ := ih.2.2 _ _ _ hread
      exact ⟨_, .object ht, by rw [hs]; simp⟩
  next s' hs =>
    obtain ⟨rfl, rfl⟩ := exists_of_readWord h
    exact ⟨_, .null, hs⟩
  next s' hs =>
    obtain ⟨rfl, rfl⟩ := exists_of_readWord h
    exact ⟨_, .true, hs⟩
  next s' hs =>
    obtain ⟨rfl, rfl⟩ := exists_of_readWord h
    exact ⟨_, .false, hs⟩
  next s' hs =>
    obtain ⟨whole, fraction, exponent, hnumeral, rfl, rfl⟩ := of_readNumber h
    exact ⟨_, .number hnumeral, hs⟩
  next =>
    obtain ⟨whole, fraction, exponent, hnumeral, rfl, hs⟩ := of_readNumber h
    exact ⟨_, .number hnumeral, hs⟩

/-- A value that has been read with the blanks around it. -/
theorem exists_element (ih : ReadsTexts fuel) {q : Input} (h : readValue fuel s = some (j, q)) :
    ∃ t, Spells t (.element j) ∧ s = t ++ skipBlanks q := by
  obtain ⟨t, ht, hs⟩ := ih.1 _ _ _ h
  obtain ⟨a, ha, hs'⟩ := exists_blanks s
  obtain ⟨b, hb, hq⟩ := exists_blanks q
  refine ⟨a ++ t ++ b, .element ha ht hb, ?_⟩
  rw [List.append_assoc, List.append_assoc, ← hq, ← hs, ← hs']

theorem exists_items (ih : ReadsTexts fuel) (h : readItems (fuel + 1) s = some (l, r)) :
    ∃ t, Spells t (.items l) ∧ s = t ++ some ']' :: r := by
  rw [readItems] at h
  simp only [Option.bind_eq_bind, Option.bind_eq_some_iff, Prod.exists] at h
  obtain ⟨j, q, hread, h⟩ := h
  obtain ⟨t, ht, rfl⟩ := exists_element ih hread
  split at h
  next q' hq =>
    simp only [Option.map_eq_some_iff, Prod.exists] at h
    obtain ⟨l, q, hitems, h⟩ := h
    cases h
    obtain ⟨t', ht', rfl⟩ := ih.2.1 _ _ _ hitems
    exact ⟨_, .item ht ht', by rw [hq]; simp⟩
  next q' hq =>
    cases h
    exact ⟨_, .lastItem ht, by rw [hq]⟩
  · cases h

theorem exists_members (ih : ReadsTexts fuel) (h : readMembers (fuel + 1) s = some (ms, r)) :
    ∃ t, Spells t (.members ms) ∧ s = t ++ some '\x7d' :: r := by
  obtain ⟨a, ha, hs⟩ := exists_blanks s
  rw [readMembers] at h
  split at h
  next s' hs' =>
    simp only [Option.bind_eq_bind, Option.bind_eq_some_iff, Prod.exists] at h
    obtain ⟨key, q, hkey, h⟩ := h
    obtain ⟨k, points, hk, rfl, rfl⟩ := readString_eq_some_iff.mp hkey
    obtain ⟨b, hb, hq⟩ := exists_blanks q
    split at h
    next q' hq' =>
      simp only [Option.bind_eq_some_iff, Prod.exists] at h
      obtain ⟨j, u, hread, h⟩ := h
      obtain ⟨t, ht, rfl⟩ := exists_element ih hread
      have hmember := Spells.member ha hk hb ht
      rw [hs'] at hs
      rw [hq'] at hq
      split at h
      next u' hu =>
        simp only [Option.map_eq_some_iff, Prod.exists] at h
        obtain ⟨l, v, hmembers, h⟩ := h
        cases h
        obtain ⟨t', ht', rfl⟩ := ih.2.2 _ _ _ hmembers
        refine ⟨_, .moreMembers hmember ht', ?_⟩
        rw [hs, hq, hu]
        simp
      next u' hu =>
        cases h
        refine ⟨_, .lastMember hmember, ?_⟩
        rw [hs, hq, hu]
        simp
      · cases h
    · cases h
  · cases h

theorem readsTexts (fuel : Nat) : ReadsTexts fuel := by
  induction fuel with
  | zero => exact ⟨fun _ _ _ h => (nomatch h), fun _ _ _ h => (nomatch h), fun _ _ _ h => (nomatch h)⟩
  | succ fuel ih =>
    exact ⟨fun _ _ _ h => exists_value ih h, fun _ _ _ h => exists_items ih h,
      fun _ _ _ h => exists_members ih h⟩

/-- A text is read as the value that it stands for, and what is no text of JSON is not read. -/
theorem parse_eq_some_iff : parse s = some j ↔ IsText s j := by
  refine ⟨fun h => ?_, IsText.parse⟩
  rw [parse] at h
  split at h
  next j' r hread =>
    obtain ⟨hend, h⟩ := Option.ite_none_right_eq_some.mp h
    cases h
    obtain ⟨t, ht, hs⟩ := exists_element (readsTexts _) hread
    rw [hend, List.append_nil] at hs
    exact hs ▸ ht
  · cases h

end Soundness

end Killfile.Json

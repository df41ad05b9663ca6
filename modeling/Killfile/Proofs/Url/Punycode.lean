import Killfile.Proofs.Line
import Killfile.Url.Punycode
import Mathlib.Data.List.Sort
import Mathlib.Tactic.Ring

/-! A label that is written in punycode is read back. The reader follows the writer from one number to
the next: whenever the writer has gone past a part of the label on its way to the characters of one
code point, the reader has put together all characters with lower code points, and in the part that is
passed those with this code point as well. -/

namespace Killfile.Url.Punycode

section Numbers

variable {bias position weight m n : Nat} {r : List Char}

theorem threshold_le (position bias : Nat) : threshold position bias ≤ 26 := by
  unfold threshold
  omega

theorem digitValue?_digitChar (h : n < 36) : digitValue? (digitChar n) = some n := by
  revert n
  decide

theorem encodeNumber_eq (bias position n : Nat) : encodeNumber bias position n =
    if n < threshold position bias then [digitChar n]
    else digitChar (threshold position bias + (n - threshold position bias) % (base - threshold position bias)) ::
      encodeNumber bias (position + base) ((n - threshold position bias) / (base - threshold position bias)) := by
  rw [encodeNumber]

/-- The first digit of a long number, and what is left of the number for the others. -/
theorem digit_of_le (h : threshold position bias ≤ n) :
    threshold position bias + (n - threshold position bias) % (base - threshold position bias) < 36 ∧
      threshold position bias + (n - threshold position bias) % (base - threshold position bias) +
        (n - threshold position bias) / (base - threshold position bias) * (base - threshold position bias) = n ∧
      (n - threshold position bias) / (base - threshold position bias) < n := by
  have hpos := threshold_pos position bias
  have hle := threshold_le position bias
  have hbase : base = 36 := rfl
  have hmod := Nat.mod_lt (n - threshold position bias) (y := base - threshold position bias) (by omega)
  have hsum := Nat.mod_add_div' (n - threshold position bias) (base - threshold position bias)
  have hdiv := Nat.div_le_self (n - threshold position bias) (base - threshold position bias)
  omega

theorem mem_encodeNumber {c : Char} (h : c ∈ encodeNumber bias position n) :
    ∃ d < 36, c = digitChar d := by
  induction n using Nat.strongRecOn generalizing position with
  | ind n ih =>
    rw [encodeNumber_eq] at h
    have hle := threshold_le position bias
    split at h
    next hlt => exact ⟨n, by omega, List.mem_singleton.mp h⟩
    next hge =>
      obtain ⟨hdigit, -, hless⟩ := digit_of_le (Nat.le_of_not_lt hge)
      rcases List.mem_cons.mp h with rfl | h
      · exact ⟨_, hdigit, rfl⟩
      · exact ih _ hless h

/-- A number is read back from its digits, whatever stands behind them. -/
theorem decodeNumber_encodeNumber : decodeNumber bias position weight m (encodeNumber bias position n ++ r) =
    some (m + n * weight, r) := by
  induction n using Nat.strongRecOn generalizing position weight m with
  | ind n ih =>
    rw [encodeNumber_eq]
    have hle := threshold_le position bias
    split
    next hlt =>
      simp [decodeNumber, digitValue?_digitChar (show n < 36 by omega), hlt]
    next hge =>
      obtain ⟨hdigit, hsum, hless⟩ := digit_of_le (Nat.le_of_not_lt hge)
      rw [List.cons_append, decodeNumber, digitValue?_digitChar hdigit]
      simp only [Option.bind_eq_bind, Option.bind_some]
      rw [if_neg (by omega), ih _ hless]
      congr 2
      generalize threshold position bias = t at *
      generalize (n - t) % (base - t) = d at *
      generalize (n - t) / (base - t) = q at *
      calc m + (t + d) * weight + q * (weight * (base - t))
          = m + (t + d + q * (base - t)) * weight := by ring
        _ = m + n * weight := by rw [hsum]

end Numbers

/-- What a reader knows: the text so far, and the code point and the place where it stands. -/
structure Decoder where
  text : List Char
  point : Nat
  place : Nat
  bias : Nat

def Decoder.read (fuel : Nat) (d : Decoder) (s : List Char) : Option (List Char) :=
  decodePoints fuel d.text d.point d.place d.bias s

/-- The reader at the same place as the writer, who is on the way to the characters of a code point
and has passed the first part of the label. -/
structure Follows (p : Nat) (passed ahead : List Char) (e : Encoder) (d : Decoder) : Prop where
  text : d.text = passed.filter (·.toNat ≤ p) ++ ahead.filter (·.toNat < p)
  handled : e.handled = d.text.length
  bias : e.bias = d.bias
  first : e.first = decide (d.point = 0x80 ∧ d.place = 0)
  point : d.point ≤ p
  distance : e.distance + d.place =
    (p - d.point) * (e.handled + 1) + (passed.filter (·.toNat ≤ p)).length

/-- What the writer writes between two states takes the reader along. -/
def Carries (e e' : Encoder) (d d' : Decoder) : Prop :=
  ∃ out k, e'.written = e.written ++ out ∧ k ≤ out.length ∧ (∀ c ∈ out, ∃ n < 36, c = digitChar n) ∧
    ∀ fuel r, d.read (fuel + k) (out ++ r) = d'.read fuel r

section Walk

variable {p : Nat} {passed ahead s : List Char} {c : Char} {e e' e'' : Encoder} {d d' d'' : Decoder}

theorem Carries.refl (h : e'.written = e.written) : Carries e e' d d :=
  ⟨[], 0, by simp [h], Nat.le_refl 0, by simp, fun _ _ => rfl⟩

theorem Carries.trans (h : Carries e e' d d') (h' : Carries e' e'' d' d'') : Carries e e'' d d'' := by
  obtain ⟨out, k, hw, hk, hdigits, hread⟩ := h
  obtain ⟨out', k', hw', hk', hdigits', hread'⟩ := h'
  refine ⟨out ++ out', k' + k, by rw [hw', hw, List.append_assoc], ?_, ?_, fun fuel r => ?_⟩
  · rw [List.length_append]
    omega
  · exact List.forall_mem_append.mpr ⟨hdigits, hdigits'⟩
  · rw [List.append_assoc, ← Nat.add_assoc, hread, hread']

/-- Where the writer writes a number, the reader finds the code point and the place. -/
theorem Follows.found (h : Follows p passed ahead e d) :
    d.point + (d.place + e.distance) / (d.text.length + 1) = p ∧
      (d.place + e.distance) % (d.text.length + 1) = (passed.filter (·.toNat ≤ p)).length := by
  have hle : (passed.filter (·.toNat ≤ p)).length < d.text.length + 1 := by
    rw [h.text, List.length_append]
    omega
  have hsum : d.place + e.distance =
      (passed.filter (·.toNat ≤ p)).length + (p - d.point) * (d.text.length + 1) := by
    have := h.distance
    rw [← h.handled]
    omega
  have hpoint := h.point
  rw [hsum, Nat.add_mul_div_right _ _ (Nat.succ_pos _), Nat.add_mul_mod_self_right,
    Nat.div_eq_of_lt hle, Nat.mod_eq_of_lt hle]
  exact ⟨by omega, rfl⟩

/-- A character with the code point is written with its distance, and read at its place. -/
theorem Follows.write (h : Follows p passed (c :: ahead) e d) (hc : c.toNat = p) :
    ∃ d', Follows p (passed ++ [c]) ahead (e.step p c) d' ∧ Carries e (e.step p c) d d' := by
  obtain ⟨hpoint, hplace⟩ := h.found
  have hstep : e.step p c = {
      written := e.written ++ encodeNumber e.bias base e.distance
      handled := e.handled + 1
      bias := adapt e.distance (e.handled + 1) e.first
      first := false } := by simp [Encoder.step, hc]
  let n := (passed.filter (·.toNat ≤ p)).length
  have htext : d.text.take n ++ c :: d.text.drop n =
      (passed ++ [c]).filter (·.toNat ≤ p) ++ ahead.filter (·.toNat < p) := by
    rw [h.text, List.take_left' rfl, List.drop_left' rfl]
    simp [hc]
  rw [hstep]
  refine ⟨⟨d.text.take n ++ c :: d.text.drop n, p, n + 1, adapt e.distance (e.handled + 1) e.first⟩,
    ⟨htext, ?_, rfl, by simp, Nat.le_refl p, ?_⟩, ?_⟩
  · have hn : n ≤ d.text.length := by
      rw [h.text, List.length_append]
      omega
    simp [h.handled, hn]
    omega
  · simp [hc, n]
  · refine ⟨encodeNumber e.bias base e.distance, 1, rfl, ?_, fun _ => mem_encodeNumber, fun fuel r => ?_⟩
    · rw [encodeNumber_eq]
      split <;> simp
    · have hne : encodeNumber e.bias base e.distance ++ r ≠ [] := by
        rw [encodeNumber_eq]
        split <;> simp
      rw [Decoder.read, decodePoints, ← h.bias, decodeNumber_encodeNumber]
      · simp only [Option.bind_eq_bind, Option.bind_some, Nat.zero_add, Nat.mul_one, hpoint, hplace,
          ← hc, Text.Utf8.scalar?_toNat]
        rw [← h.handled, ← h.first, hc]
        rfl
      · exact hne

/-- The writer goes past a character. -/
theorem Follows.step (h : Follows p passed (c :: ahead) e d) :
    ∃ d', Follows p (passed ++ [c]) ahead (e.step p c) d' ∧ Carries e (e.step p c) d d' := by
  rcases Nat.lt_trichotomy c.toNat p with hlt | heq | hgt
  · have hstep : e.step p c = { e with distance := e.distance + 1 } := by simp [Encoder.step, hlt]
    rw [hstep]
    refine ⟨d, ⟨?_, h.handled, h.bias, h.first, h.point, ?_⟩, .refl rfl⟩
    · rw [h.text]
      simp [hlt, Nat.le_of_lt hlt]
    · have := h.distance
      simp [Nat.le_of_lt hlt]
      omega
  · exact h.write heq
  · have hstep : e.step p c = e := by
      simp [Encoder.step, Nat.not_lt.mpr (Nat.le_of_lt hgt), Nat.ne_of_gt hgt]
    rw [hstep]
    refine ⟨d, ⟨?_, h.handled, h.bias, h.first, h.point, ?_⟩, .refl rfl⟩
    · rw [h.text]
      simp [Nat.not_le.mpr hgt, Nat.not_lt.mpr (Nat.le_of_lt hgt)]
    · simpa [Nat.not_le.mpr hgt] using h.distance

theorem Follows.scan (h : Follows p passed ahead e d) :
    ∃ d', Follows p (passed ++ ahead) [] (ahead.foldl (Encoder.step p) e) d' ∧
      Carries e (ahead.foldl (Encoder.step p) e) d d' := by
  induction ahead generalizing passed e d with
  | nil => exact ⟨d, by simpa using h, .refl rfl⟩
  | cons c ahead ih =>
    obtain ⟨d₁, h₁, hcarries⟩ := h.step
    obtain ⟨d₂, h₂, hcarries'⟩ := ih h₁
    exact ⟨d₂, by simpa using h₂, hcarries.trans hcarries'⟩

/-- From the end of the label the writer goes on to the next code point that occurs in it. -/
theorem Follows.next {q : Nat} (h : Follows p s [] e d) (hq : p < q)
    (hnone : ∀ c ∈ s, ¬(p < c.toNat ∧ c.toNat < q)) :
    Follows q [] s { e with distance := e.distance + 1 + (q - (p + 1)) * (e.handled + 1) } d := by
  have hfilter : s.filter (·.toNat < q) = s.filter (·.toNat ≤ p) := by
    refine List.filter_congr fun c hc => ?_
    have := hnone c hc
    simp only [decide_eq_decide]
    omega
  have htext : d.text = s.filter (·.toNat ≤ p) := by simpa using h.text
  have hpoint := h.point
  refine ⟨by simp [htext, hfilter], h.handled, h.bias, h.first, by omega, ?_⟩
  have hdistance := h.distance
  rw [← htext, ← h.handled] at hdistance
  have hsplit : q - d.point = (p - d.point) + 1 + (q - (p + 1)) := by omega
  rw [hsplit]
  simp only [List.filter_nil, List.length_nil]
  calc e.distance + 1 + (q - (p + 1)) * (e.handled + 1) + d.place
      = (e.distance + d.place) + 1 + (q - (p + 1)) * (e.handled + 1) := by ring
    _ = _ := by rw [hdistance]; ring

/-- The writer goes through all code points that are left, and the reader is done with the label. -/
theorem Follows.finish {qs : List Nat} (h : Follows p s [] e d) (hqs : (p :: qs).Pairwise (· < ·))
    (hall : ∀ c ∈ s, p < c.toNat → c.toNat ∈ qs) :
    ∃ d', d'.text = s ∧ Carries e (encodePoints s (p + 1) qs { e with distance := e.distance + 1 }) d d' := by
  induction qs generalizing p e d with
  | nil =>
    refine ⟨d, ?_, .refl rfl⟩
    rw [h.text, List.filter_nil, List.append_nil, List.filter_eq_self]
    intro c hc
    have := mt (hall c hc) List.not_mem_nil
    simpa using this
  | cons q qs ih =>
    obtain ⟨hp, hqs⟩ := List.pairwise_cons.mp hqs
    have hpq : p < q := hp q List.mem_cons_self
    have hnone : ∀ c ∈ s, ¬(p < c.toNat ∧ c.toNat < q) := by
      rintro c hc ⟨hpc, hcq⟩
      rcases List.mem_cons.mp (hall c hc hpc) with hsame | hlater
      · omega
      · have := (List.pairwise_cons.mp hqs).1 c.toNat hlater
        omega
    obtain ⟨d₁, h₁, hcarries⟩ := (h.next hpq hnone).scan
    obtain ⟨d₂, htext, hcarries'⟩ := ih (by simpa using h₁) hqs fun c hc hlt => by
      rcases List.mem_cons.mp (hall c hc (by omega)) with hsame | hlater
      · omega
      · exact hlater
    have hwait : Carries e
        { e with distance := e.distance + 1 + (q - (p + 1)) * (e.handled + 1) } d d := .refl rfl
    exact ⟨d₂, htext, hwait.trans (hcarries.trans hcarries')⟩

end Walk

/-- The characters of a label that are not ASCII, as code points in order. -/
def points (s : List Char) : List Nat :=
  ((s.filter fun c => 0x80 ≤ c.toNat).map Char.toNat).mergeSort.eraseDups

theorem mem_points {s : List Char} {n : Nat} : n ∈ points s ↔ ∃ c ∈ s, 0x80 ≤ c.toNat ∧ c.toNat = n := by
  simp [points, and_assoc]

theorem pairwise_eraseDups (l : List Nat) (h : l.Pairwise (· ≤ ·)) : l.eraseDups.Pairwise (· < ·) := by
  cases l with
  | nil => exact List.Pairwise.nil
  | cons a l =>
    obtain ⟨ha, hl⟩ := List.pairwise_cons.mp h
    rw [List.eraseDups_cons, List.pairwise_cons]
    refine ⟨fun b hb => ?_, pairwise_eraseDups _ (hl.filter _)⟩
    obtain ⟨hb, hne⟩ := List.mem_filter.mp (List.mem_eraseDups.mp hb)
    have hab := ha b hb
    have hne : b ≠ a := by simpa using hne
    omega
termination_by l.length
decreasing_by
  have h := List.length_filter_le (fun b => !b == a) l
  grind

theorem pairwise_points (s : List Char) : (points s).Pairwise (· < ·) :=
  pairwise_eraseDups _ (List.pairwise_mergeSort' (· ≤ ·) _)

/-- The characters of ASCII, with the hyphen behind them. -/
def plainPart (s : List Char) : List Char :=
  let plain := s.filter fun c => c.toNat < 0x80
  plain ++ if plain = [] then [] else ['-']

/-- The reader with the characters of ASCII, before all others. -/
def startDecoder (s : List Char) : Decoder := ⟨s.filter fun c => c.toNat < 0x80, 0x80, 0, 72⟩

/-- The writer with the characters of ASCII, before all others. -/
def startEncoder (s : List Char) : Encoder :=
  { written := plainPart s, handled := (startDecoder s).text.length }

/-- The way to the least code point that occurs in a label. -/
theorem follows_start {s : List Char} {p : Nat} (hp : 0x80 ≤ p)
    (hleast : ∀ c ∈ s, 0x80 ≤ c.toNat → p ≤ c.toNat) :
    Follows p [] s { startEncoder s with distance := (p - 0x80) * ((startEncoder s).handled + 1) }
      (startDecoder s) := by
  refine ⟨List.filter_congr fun c hc => ?_, rfl, rfl, rfl, hp, by simp [startEncoder, startDecoder]⟩
  have hle := hleast c hc
  simp only [decide_eq_decide]
  omega

/-- The writer goes through the whole label, and the reader along with it. -/
theorem exists_carried (s : List Char) : ∃ d, d.text = s ∧
    Carries (startEncoder s) (encodePoints s 0x80 (points s) (startEncoder s)) (startDecoder s) d := by
  cases hpoints : points s with
  | nil =>
    refine ⟨startDecoder s, ?_, .refl rfl⟩
    refine List.filter_eq_self.mpr fun c hc => ?_
    have hnot : c.toNat ∉ points s := by simp [hpoints]
    have hascii := fun h => hnot (mem_points.mpr ⟨c, hc, h, rfl⟩)
    simpa using hascii
  | cons p ps =>
    have hsorted := hpoints ▸ pairwise_points s
    have hmem (n : Nat) : n ∈ p :: ps ↔ ∃ c ∈ s, 0x80 ≤ c.toNat ∧ c.toNat = n := hpoints ▸ mem_points
    have hp : 0x80 ≤ p := by
      obtain ⟨c, -, hc, heq⟩ := (hmem p).mp List.mem_cons_self
      omega
    have hrest {c : Char} (hc : c ∈ s) (hle : 0x80 ≤ c.toNat) : c.toNat = p ∨ c.toNat ∈ ps :=
      List.mem_cons.mp ((hmem c.toNat).mpr ⟨c, hc, hle, rfl⟩)
    have hstart := follows_start hp fun c hc hle => by
      rcases hrest hc hle with hsame | hlater
      · omega
      · exact Nat.le_of_lt ((List.pairwise_cons.mp hsorted).1 _ hlater)
    obtain ⟨d₁, h₁, hcarries⟩ := hstart.scan
    obtain ⟨d₂, htext, hcarries'⟩ := Follows.finish (by simpa using h₁) hsorted fun c hc hlt =>
      (hrest hc (by omega)).resolve_left (by omega)
    have hwait : Carries (startEncoder s)
        { startEncoder s with distance := (p - 0x80) * ((startEncoder s).handled + 1) }
        (startDecoder s) (startDecoder s) := .refl rfl
    have hzero : (startEncoder s).distance + (p - 0x80) * ((startEncoder s).handled + 1) =
        (p - 0x80) * ((startEncoder s).handled + 1) := Nat.zero_add _
    refine ⟨d₂, htext, ?_⟩
    rw [encodePoints, hzero]
    exact hwait.trans (hcarries.trans hcarries')

/-- A label in punycode is its characters of ASCII and what the reader makes all others of. -/
theorem exists_written (s : List Char) : ∃ out k, encode s = plainPart s ++ out ∧ k ≤ out.length ∧
    (∀ c ∈ out, ∃ n < 36, c = digitChar n) ∧ ∀ fuel,
      decodePoints (fuel + 1 + k) (s.filter fun c => c.toNat < 0x80) 0x80 0 72 out = some s := by
  obtain ⟨d, htext, out, k, hout, hk, hdigits, hread⟩ := exists_carried s
  refine ⟨out, k, hout, hk, hdigits, fun fuel => ?_⟩
  have hall := hread (fuel + 1) []
  rw [List.append_nil] at hall
  exact hall.trans (by simp [Decoder.read, decodePoints, htext])

theorem digitChar_ne_hyphen {n : Nat} (h : n < 36) : digitChar n ≠ '-' := by
  revert n
  decide

/-- A label is read back from its punycode. -/
theorem decode_encode (s : List Char) : decode (encode s) = some s := by
  obtain ⟨out, k, hencode, hk, hdigits, hread⟩ := exists_written s
  have hplain : ∀ c ∈ out.reverse, (c != '-') = true := by
    intro c hc
    obtain ⟨n, hn, rfl⟩ := hdigits c (List.mem_reverse.mp hc)
    simpa using digitChar_ne_hyphen hn
  have hfuel (n : Nat) (hn : out.length ≤ n) :
      decodePoints (n + 1) (s.filter fun c => c.toNat < 0x80) 0x80 0 72 out = some s := by
    have := hread (n - k)
    rwa [show n - k + 1 + k = n + 1 by omega] at this
  by_cases hnone : (s.filter fun c => c.toNat < 0x80) = []
  · have henc : encode s = out := by rw [hencode]; simp [plainPart, hnone]
    obtain ⟨-, hdrop⟩ := span_iff (y := []).mpr ⟨(List.append_nil _).symm, hplain, by simp⟩
    rw [decode, henc, hdrop]
    rw [hnone] at hfuel
    exact hfuel _ (Nat.le_refl _)
  · have henc : (encode s).reverse = out.reverse ++ '-' :: (s.filter fun c => c.toNat < 0x80).reverse := by
      rw [hencode]
      simp [plainPart, hnone]
    obtain ⟨htake, hdrop⟩ := span_iff.mpr ⟨henc, hplain, by simp⟩
    rw [decode, hdrop, htake]
    simpa using hfuel _ (Nat.le_refl _)

/-- Punycode holds the characters of ASCII, hyphens, and digits. -/
theorem mem_encode {s : List Char} {c : Char} (h : c ∈ encode s) :
    (c ∈ s ∧ c.toNat < 0x80) ∨ c = '-' ∨ ∃ n < 36, c = digitChar n := by
  obtain ⟨out, k, hencode, -, hdigits, -⟩ := exists_written s
  rw [hencode, List.mem_append] at h
  rcases h with h | h
  · rcases List.mem_append.mp h with h | h
    · exact .inl (by simpa using h)
    · split at h
      · cases h
      · exact .inr (.inl (List.mem_singleton.mp h))
  · exact .inr (.inr (hdigits c h))

/-- Reading puts characters that are not ASCII into a text. -/
theorem mem_decodePoints {fuel point place bias : Nat} {text s t : List Char} {c : Char}
    (hpoint : 0x80 ≤ point) (h : decodePoints fuel text point place bias s = some t) (hc : c ∈ t) :
    c ∈ text ∨ 0x80 ≤ c.toNat := by
  induction fuel generalizing text point place bias s with
  | zero => simp [decodePoints] at h
  | succ fuel ih =>
    cases s with
    | nil =>
      obtain rfl := Option.some.inj h
      exact .inl hc
    | cons d s =>
      simp only [decodePoints, Option.bind_eq_bind, Option.bind_eq_some_iff] at h
      obtain ⟨⟨n, r⟩, -, x, hx, h⟩ := h
      have hx := Text.Utf8.toNat_of_scalar? hx
      have hlarge : 0x80 ≤ x.toNat := by
        rw [hx]
        exact Nat.le_add_right_of_le hpoint
      rcases ih (Nat.le_add_right_of_le hpoint) h with hmem | hc
      · rcases List.mem_append.mp hmem with hmem | hmem
        · exact .inl (List.mem_of_mem_take hmem)
        · rcases List.mem_cons.mp hmem with rfl | hmem
          · exact .inr hlarge
          · exact .inl (List.mem_of_mem_drop hmem)
      · exact .inr hc

/-- A label holds characters of its punycode, and characters that are not ASCII. -/
theorem mem_decode {s t : List Char} {c : Char} (h : decode s = some t) (hc : c ∈ t) :
    c ∈ s ∨ 0x80 ≤ c.toNat := by
  unfold decode at h
  split at h
  · exact (mem_decodePoints (Nat.le_refl _) h hc).imp_left fun h => absurd h List.not_mem_nil
  next d plain hplain =>
    refine (mem_decodePoints (Nat.le_refl _) h hc).imp_left fun hmem => ?_
    have hsuffix : plain ⊆ s.reverse := by
      intro x hx
      exact (List.dropWhile_sublist _).subset (hplain ▸ List.mem_cons_of_mem d hx)
    exact List.mem_reverse.mp (hsuffix (List.mem_reverse.mp hmem))

end Killfile.Url.Punycode

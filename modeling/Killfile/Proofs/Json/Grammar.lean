import Killfile.Json.Reader
import Mathlib.Data.List.TakeWhile

/-! The texts of JSON and what they stand for, rule by rule, and the readers of their smallest parts:
blanks, strings and numbers. A number has no end of its own, so it is read as far as it goes and what
follows must not go on with it. -/

namespace Killfile.Json

/-- Characters that come from bytes which are well formed. -/
def ofChars (s : List Char) : Input := s.map some

@[simp] theorem ofChars_nil : ofChars [] = [] := rfl

@[simp] theorem ofChars_cons (c : Char) (s : List Char) : ofChars (c :: s) = some c :: ofChars s := rfl

@[simp] theorem ofChars_append (s t : List Char) : ofChars (s ++ t) = ofChars s ++ ofChars t :=
  List.map_append

/-- The characters that may stand between the parts of a text. -/
def blankChars : Input := ofChars [' ', '\n', '\t', '\r']

def Blanks (s : Input) : Prop := ∀ c ∈ s, c ∈ blankChars

/-- The characters of a string between its quotes, with their code points. Bytes that are malformed
have none. -/
inductive Letters : Input → List (Option Nat) → Prop
  | nil : Letters [] []
  | char {c : Char} {s : Input} {l : List (Option Nat)} (quote : c ≠ '"') (backslash : c ≠ '\\')
      (printed : 0x20 ≤ c.toNat) (rest : Letters s l) : Letters (some c :: s) (some c.toNat :: l)
  | malformed {s : Input} {l : List (Option Nat)} (rest : Letters s l) : Letters (none :: s) (none :: l)
  | escape {e c : Char} {s : Input} {l : List (Option Nat)} (simple : simpleEscape? e = some c)
      (rest : Letters s l) : Letters (some '\\' :: some e :: s) (some c.toNat :: l)
  | point {a b c d : Char} {n₃ n₂ n₁ n₀ : Nat} {s : Input} {l : List (Option Nat)}
      (thousands : hexDigit? a = some n₃) (hundreds : hexDigit? b = some n₂)
      (tens : hexDigit? c = some n₁) (ones : hexDigit? d = some n₀) (rest : Letters s l) :
      Letters (some '\\' :: some 'u' :: some a :: some b :: some c :: some d :: s)
        (some (4096 * n₃ + 256 * n₂ + 16 * n₁ + n₀) :: l)

/-- The text of code points, if they are one. -/
def textOf (points : List (Option Nat)) : Option String := (joinSurrogates points).map String.ofList

/-- Digits, of which there is at least one. -/
structure IsDigits (s : List Char) : Prop where
  nonempty : s ≠ []
  digits : ∀ c ∈ s, c.isDigit = true

/-- Digits without a needless zero in front. -/
structure IsWhole (s : List Char) : Prop extends IsDigits s where
  leading : s.head? = some '0' → s = ['0']

/-- Nothing, or a point with digits behind it. -/
inductive IsFraction : List Char → Prop
  | absent : IsFraction []
  | present {ds : List Char} (digits : IsDigits ds) : IsFraction ('.' :: ds)

/-- Nothing, or the letter of an exponent with a sign or none and digits behind it. -/
inductive IsExponent : List Char → Prop
  | absent : IsExponent []
  | present {mark : Char} {sign ds : List Char} (letter : mark = 'e' ∨ mark = 'E')
      (signed : sign = [] ∨ sign = ['+'] ∨ sign = ['-']) (digits : IsDigits ds) :
      IsExponent (mark :: (sign ++ ds))

/-- The parts of a number. -/
structure IsNumeral (sign whole fraction exponent : List Char) : Prop where
  sign : sign = [] ∨ sign = ['-']
  whole : IsWhole whole
  fraction : IsFraction fraction
  exponent : IsExponent exponent

/-- The integer that a number is, if it is written as one. Zero has no sign. -/
def integer? (sign whole fraction exponent : List Char) : Option Int :=
  if fraction = [] ∧ exponent = [] ∧ (sign = [] ∨ Nat.ofDigitChars 10 whole 0 ≠ 0) then
    some (if sign = [] then (Nat.ofDigitChars 10 whole 0 : Int) else -(Nat.ofDigitChars 10 whole 0 : Int))
  else none

/-- What a part of a text stands for: a value, a value with the blanks around it, or what stands between
brackets or braces that are not empty. -/
inductive Part where
  | value (j : Json)
  | element (j : Json)
  | items (l : List Json)
  | member (m : Option String × Json)
  | members (l : List (Option String × Json))

/-- A part of a text with what it stands for. -/
inductive Spells : Input → Part → Prop
  | null : Spells (ofChars "null".toList) (.value .null)
  | true : Spells (ofChars "true".toList) (.value (.bool true))
  | false : Spells (ofChars "false".toList) (.value (.bool false))
  | number {sign whole fraction exponent : List Char} (numeral : IsNumeral sign whole fraction exponent) :
      Spells (ofChars (sign ++ whole ++ fraction ++ exponent))
        (.value (.number (integer? sign whole fraction exponent)))
  | string {s : Input} {points : List (Option Nat)} (letters : Letters s points) :
      Spells (some '"' :: (s ++ [some '"'])) (.value (.string (textOf points)))
  | emptyArray {b : Input} (blanks : Blanks b) :
      Spells (some '[' :: (b ++ [some ']'])) (.value (.array []))
  | array {s : Input} {l : List Json} (items : Spells s (.items l)) :
      Spells (some '[' :: (s ++ [some ']'])) (.value (.array l))
  | emptyObject {b : Input} (blanks : Blanks b) :
      Spells (some '\x7b' :: (b ++ [some '\x7d'])) (.value (.object []))
  | object {s : Input} {l : List (Option String × Json)} (members : Spells s (.members l)) :
      Spells (some '\x7b' :: (s ++ [some '\x7d'])) (.value (.object l))
  | element {a s b : Input} {j : Json} (before : Blanks a) (value : Spells s (.value j))
      (after : Blanks b) : Spells (a ++ s ++ b) (.element j)
  | lastItem {s : Input} {j : Json} (item : Spells s (.element j)) : Spells s (.items [j])
  | item {s t : Input} {j : Json} {l : List Json} (item : Spells s (.element j))
      (rest : Spells t (.items l)) : Spells (s ++ some ',' :: t) (.items (j :: l))
  | member {a k b s : Input} {points : List (Option Nat)} {j : Json} (before : Blanks a)
      (key : Letters k points) (after : Blanks b) (value : Spells s (.element j)) :
      Spells (a ++ some '"' :: (k ++ some '"' :: (b ++ some ':' :: s))) (.member (textOf points, j))
  | lastMember {s : Input} {m : Option String × Json} (member : Spells s (.member m)) :
      Spells s (.members [m])
  | moreMembers {s t : Input} {m : Option String × Json} {l : List (Option String × Json)}
      (member : Spells s (.member m)) (rest : Spells t (.members l)) :
      Spells (s ++ some ',' :: t) (.members (m :: l))

/-- A whole text stands for a value. -/
def IsText (s : Input) (j : Json) : Prop := Spells s (.element j)

section Blanks

variable {a s t : Input} {c : Option Char}

theorem isBlank_iff : (c == some ' ' || c == some '\n' || c == some '\t' || c == some '\r') = true ↔
    c ∈ blankChars := by
  simp [blankChars, ofChars, or_assoc]

theorem skipBlanks_append (h : Blanks a) : skipBlanks (a ++ s) = skipBlanks s :=
  List.dropWhile_append_of_pos fun c hc => isBlank_iff.mpr (h c hc)

theorem skipBlanks_cons (h : c ∉ blankChars) : skipBlanks (c :: s) = c :: s :=
  List.dropWhile_cons_of_neg (mt isBlank_iff.mp h)

/-- Skipping blanks takes blanks from the front. -/
theorem exists_blanks (s : Input) : ∃ a, Blanks a ∧ s = a ++ skipBlanks s := by
  refine ⟨_, fun c hc => ?_, List.takeWhile_append_dropWhile.symm⟩
  have hblank := List.mem_takeWhile_imp hc
  exact isBlank_iff.mp hblank

theorem skipBlanks_skipBlanks (s : Input) : skipBlanks (skipBlanks s) = skipBlanks s := by
  obtain ⟨a, ha, hs⟩ := exists_blanks s
  rw [← skipBlanks_append ha, ← hs]

end Blanks

section Strings

variable {s r : Input} {points : List (Option Nat)}

theorem stringBody_char {c : Char} (quote : c ≠ '"') (backslash : c ≠ '\\') (printed : 0x20 ≤ c.toNat) :
    stringBody (some c :: s) = (stringBody s).map fun p => (some c.toNat :: p.1, p.2) := by
  rw [stringBody, if_neg (Nat.not_lt.mpr printed)]
  · exact fun _ _ _ _ _ _ => backslash
  · exact fun _ _ _ => backslash
  · exact backslash
  · exact quote

theorem stringBody_escape {e c : Char} (h : simpleEscape? e = some c) :
    stringBody (some '\\' :: some e :: s) = (stringBody s).map fun p => (some c.toNat :: p.1, p.2) := by
  rw [stringBody, h]
  · cases stringBody s <;> rfl
  · rintro a b c d s - rfl
    cases h

/-- A string is read up to the first quote that does not belong to an escape. -/
theorem stringBody_eq_some_iff : stringBody s = some (points, r) ↔
    ∃ k, Letters k points ∧ s = k ++ some '"' :: r := by
  constructor
  · intro h
    fun_induction stringBody s generalizing points with
    | case1 a b c d s ih =>
      simp only [Option.bind_eq_bind, Option.bind_eq_some_iff, Option.some.injEq, Prod.mk.injEq] at h
      obtain ⟨n₃, h₃, n₂, h₂, n₁, h₁, n₀, h₀, ⟨l, q⟩, hs, rfl, rfl⟩ := h
      obtain ⟨k, hk, rfl⟩ := ih hs
      exact ⟨_, .point h₃ h₂ h₁ h₀ hk, rfl⟩
    | case2 e s _ ih =>
      simp only [Option.bind_eq_bind, Option.bind_eq_some_iff, Option.some.injEq, Prod.mk.injEq] at h
      obtain ⟨c, hc, ⟨l, q⟩, hs, rfl, rfl⟩ := h
      obtain ⟨k, hk, rfl⟩ := ih hs
      exact ⟨_, .escape hc hk, rfl⟩
    | case3 => cases h
    | case4 s =>
      cases h
      exact ⟨[], .nil, rfl⟩
    | case5 => cases h
    | case6 c s _ _ hbackslash hquote hprinted ih =>
      simp only [Option.map_eq_some_iff, Prod.mk.injEq] at h
      obtain ⟨⟨l, q⟩, hs, rfl, rfl⟩ := h
      obtain ⟨k, hk, rfl⟩ := ih hs
      exact ⟨_, .char hquote hbackslash (Nat.not_lt.mp hprinted) hk, rfl⟩
    | case7 s ih =>
      simp only [Option.map_eq_some_iff, Prod.mk.injEq] at h
      obtain ⟨⟨l, q⟩, hs, rfl, rfl⟩ := h
      obtain ⟨k, hk, rfl⟩ := ih hs
      exact ⟨_, .malformed hk, rfl⟩
    | case8 => cases h
  · rintro ⟨k, hk, rfl⟩
    induction hk with
    | nil => rfl
    | char quote backslash printed rest ih =>
      rw [List.cons_append, stringBody_char quote backslash printed, ih]
      rfl
    | malformed rest ih =>
      rw [List.cons_append, stringBody, ih]
      rfl
    | escape simple rest ih =>
      rw [List.cons_append, List.cons_append, stringBody_escape simple, ih]
      rfl
    | point thousands hundreds tens ones rest ih =>
      simp only [List.cons_append, stringBody, thousands, hundreds, tens, ones, ih]
      rfl

theorem readString_eq_some_iff {t : Option String} : readString s = some (t, r) ↔
    ∃ k points, Letters k points ∧ t = textOf points ∧ s = k ++ some '"' :: r := by
  simp only [readString, Option.map_eq_some_iff, Prod.exists, stringBody_eq_some_iff, Prod.mk.injEq]
  constructor
  · rintro ⟨points, _, ⟨k, hk, rfl⟩, rfl, rfl⟩
    exact ⟨k, points, hk, rfl, rfl⟩
  · rintro ⟨k, points, hk, rfl, rfl⟩
    exact ⟨points, r, ⟨k, hk, rfl⟩, rfl, rfl⟩

end Strings

section Numbers

variable {s r : Input} {ds : List Char} {c : Option Char}

theorem isDigit_iff : isDigit c = true ↔ ∃ d, c = some d ∧ d.isDigit = true := by
  cases c <;> simp [isDigit]

/-- Digits are taken up to the first character that is none. -/
theorem takeWhile_digits (hds : ∀ d ∈ ds, d.isDigit = true) (hr : ∀ c ∈ r.head?, isDigit c = false) :
    (ofChars ds ++ r).takeWhile isDigit = ofChars ds ∧ (ofChars ds ++ r).dropWhile isDigit = r := by
  have hall : ∀ c ∈ ofChars ds, isDigit c = true := by
    intro c hc
    obtain ⟨d, hd, rfl⟩ := List.mem_map.mp hc
    exact hds d hd
  rw [List.takeWhile_append_of_pos hall, List.dropWhile_append_of_pos hall]
  cases r with
  | nil => simp
  | cons c r => simp [hr c rfl]

/-- The digits in front of a text, and what is behind them. -/
theorem exists_digits (s : Input) : ∃ ds, (∀ d ∈ ds, d.isDigit = true) ∧
    s.takeWhile isDigit = ofChars ds ∧ s = ofChars ds ++ s.dropWhile isDigit := by
  obtain ⟨ds, hds, htake⟩ : ∃ ds : List Char, (∀ d ∈ ds, d.isDigit = true) ∧
      s.takeWhile isDigit = ofChars ds := by
    induction s with
    | nil => exact ⟨[], by simp, rfl⟩
    | cons c s ih =>
      obtain ⟨ds, hds, htake⟩ := ih
      cases hc : isDigit c with
      | false => exact ⟨[], by simp, List.takeWhile_cons_of_neg (by simp [hc])⟩
      | true =>
        obtain ⟨d, rfl, hd⟩ := isDigit_iff.mp hc
        refine ⟨d :: ds, List.forall_mem_cons.mpr ⟨hd, hds⟩, ?_⟩
        rw [List.takeWhile_cons_of_pos hc, htake]
        rfl
  exact ⟨ds, hds, htake, by rw [← htake, List.takeWhile_append_dropWhile]⟩

theorem decimal_ofChars (ds : List Char) : decimal (ofChars ds) = Nat.ofDigitChars 10 ds 0 := by
  rw [decimal, ofChars, List.foldl_map]
  rfl

/-- No digit comes next. -/
def NoDigit (r : Input) : Prop := ∀ c ∈ r.head?, isDigit c = false

theorem integerPart_eq (h : s.takeWhile isDigit = ofChars ds) : integerPart s =
    if ds ≠ [] ∧ (ds.head? = some '0' → ds = ['0']) then
      some (Nat.ofDigitChars 10 ds 0, s.dropWhile isDigit)
    else none := by
  rw [integerPart, h, ← decimal_ofChars]
  match ds with
  | [] => rfl
  | [d] => simp [ofChars]
  | d :: e :: ds =>
    by_cases hd : d = '0'
    · subst hd
      rfl
    · simp [ofChars, hd]

theorem of_integerPart {n : Nat} (h : integerPart s = some (n, r)) :
    ∃ ds, IsWhole ds ∧ n = Nat.ofDigitChars 10 ds 0 ∧ s = ofChars ds ++ r := by
  obtain ⟨ds, hdigits, htake, hs⟩ := exists_digits s
  rw [integerPart_eq htake, Option.ite_none_right_eq_some] at h
  obtain ⟨⟨hne, hzero⟩, h⟩ := h
  cases h
  exact ⟨ds, ⟨⟨hne, hdigits⟩, hzero⟩, rfl, hs⟩

theorem integerPart_ofChars (hds : IsWhole ds) (hr : NoDigit r) :
    integerPart (ofChars ds ++ r) = some (Nat.ofDigitChars 10 ds 0, r) := by
  obtain ⟨htake, hdrop⟩ := takeWhile_digits hds.digits hr
  rw [integerPart_eq htake, if_pos ⟨hds.nonempty, hds.leading⟩, hdrop]

/-- Digits that are asked for are there. -/
theorem of_isDigit_head (h : isDigit (s.head?.getD none) = true) :
    ∃ ds, IsDigits ds ∧ s = ofChars ds ++ s.dropWhile isDigit := by
  obtain ⟨ds, hdigits, htake, hs⟩ := exists_digits s
  refine ⟨ds, ⟨?_, hdigits⟩, hs⟩
  rintro rfl
  cases s with
  | nil => cases h
  | cons c s =>
    have hc : isDigit c = true := h
    rw [List.takeWhile_cons_of_pos hc] at htake
    cases htake

theorem isDigit_head_ofChars (hds : IsDigits ds) (r : Input) :
    isDigit ((ofChars ds ++ r).head?.getD none) = true := by
  match ds, hds with
  | [], h => exact absurd rfl h.nonempty
  | d :: ds, h => exact h.digits d List.mem_cons_self

theorem fractionPart_point (s : Input) : fractionPart (some '.' :: s) =
    if isDigit (s.head?.getD none) then some (true, s.dropWhile isDigit) else none := rfl

theorem fractionPart_of_ne (h : s.head? ≠ some (some '.')) : fractionPart s = some (false, s) := by
  unfold fractionPart
  split
  · exact absurd rfl h
  · rfl

theorem of_fractionPart {m : Bool} (h : fractionPart s = some (m, r)) :
    ∃ f, IsFraction f ∧ m = !f.isEmpty ∧ s = ofChars f ++ r := by
  by_cases hpoint : s.head? = some (some '.')
  · obtain ⟨s, rfl⟩ := List.head?_eq_some_iff.mp hpoint
    rw [fractionPart_point, Option.ite_none_right_eq_some] at h
    obtain ⟨hdigit, h⟩ := h
    cases h
    obtain ⟨ds, hds, hs⟩ := of_isDigit_head hdigit
    exact ⟨'.' :: ds, .present hds, rfl, congrArg (some '.' :: ·) hs⟩
  · rw [fractionPart_of_ne hpoint] at h
    cases h
    exact ⟨[], .absent, rfl, rfl⟩

theorem fractionPart_ofChars {f : List Char} (hf : IsFraction f) (hpoint : r.head? ≠ some (some '.'))
    (hr : NoDigit r) : fractionPart (ofChars f ++ r) = some (!f.isEmpty, r) := by
  cases hf with
  | absent => exact fractionPart_of_ne hpoint
  | present hds =>
    rw [ofChars_cons, List.cons_append, fractionPart_point, if_pos (isDigit_head_ofChars hds r),
      (takeWhile_digits hds.digits hr).2]
    rfl

/-- What is left of an exponent without its sign. -/
def unsigned (s : Input) : Input :=
  match s with
  | some '+' :: t => t
  | some '-' :: t => t
  | _ => s

theorem exists_sign (s : Input) : ∃ sign, (sign = [] ∨ sign = ['+'] ∨ sign = ['-']) ∧
    s = ofChars sign ++ unsigned s := by
  unfold unsigned
  split
  · exact ⟨['+'], by simp, rfl⟩
  · exact ⟨['-'], by simp, rfl⟩
  · exact ⟨[], by simp, rfl⟩

theorem unsigned_ofChars {sign : List Char} (hsign : sign = [] ∨ sign = ['+'] ∨ sign = ['-'])
    (hds : IsDigits ds) (r : Input) : unsigned (ofChars (sign ++ ds) ++ r) = ofChars ds ++ r := by
  rcases hsign with rfl | rfl | rfl
  · match ds, hds with
    | [], h => exact absurd rfl h.nonempty
    | d :: ds, h =>
      have hd := h.digits d List.mem_cons_self
      simp only [ofChars_cons, List.nil_append, List.cons_append]
      unfold unsigned
      split <;> simp_all
  · rfl
  · rfl

theorem exponentPart_cons (c : Char) (s : Input) : exponentPart (some c :: s) =
    if c = 'e' ∨ c = 'E' then
      if isDigit ((unsigned s).head?.getD none) then some (true, (unsigned s).dropWhile isDigit) else none
    else some (false, some c :: s) := rfl

theorem exponentPart_of_ne (h : ∀ c, s.head? = some (some c) → ¬ (c = 'e' ∨ c = 'E')) :
    exponentPart s = some (false, s) := by
  match s with
  | some c :: s => rw [exponentPart_cons, if_neg (h c rfl)]
  | none :: s => rfl
  | [] => rfl

theorem of_exponentPart {m : Bool} (h : exponentPart s = some (m, r)) :
    ∃ e, IsExponent e ∧ m = !e.isEmpty ∧ s = ofChars e ++ r := by
  by_cases hletter : ∃ c, s.head? = some (some c) ∧ (c = 'e' ∨ c = 'E')
  · obtain ⟨c, hc, hletter⟩ := hletter
    obtain ⟨s, rfl⟩ := List.head?_eq_some_iff.mp hc
    rw [exponentPart_cons, if_pos hletter, Option.ite_none_right_eq_some] at h
    obtain ⟨hdigit, h⟩ := h
    cases h
    obtain ⟨ds, hds, hs⟩ := of_isDigit_head hdigit
    obtain ⟨sign, hsign, hsigned⟩ := exists_sign s
    refine ⟨c :: (sign ++ ds), .present hletter hsign hds, rfl, ?_⟩
    rw [ofChars_cons, ofChars_append, List.cons_append, List.append_assoc]
    exact congrArg (some c :: ·) (hsigned.trans (congrArg (ofChars sign ++ ·) hs))
  · rw [exponentPart_of_ne fun c hc hmark => hletter ⟨c, hc, hmark⟩] at h
    cases h
    exact ⟨[], .absent, rfl, rfl⟩

theorem exponentPart_ofChars {e : List Char} (he : IsExponent e)
    (hletter : ∀ c, r.head? = some (some c) → ¬ (c = 'e' ∨ c = 'E')) (hr : NoDigit r) :
    exponentPart (ofChars e ++ r) = some (!e.isEmpty, r) := by
  cases he with
  | absent => exact exponentPart_of_ne hletter
  | present hmark hsign hds =>
    rw [ofChars_cons, List.cons_append, exponentPart_cons, if_pos hmark, unsigned_ofChars hsign hds,
      if_pos (isDigit_head_ofChars hds r), (takeWhile_digits hds.digits hr).2]
    rfl

/-- What stands behind a number does not go on with it. -/
def Apart (r : Input) : Prop :=
  ∀ c, r.head? = some (some c) → c.isDigit = false ∧ c ≠ '.' ∧ ¬ (c = 'e' ∨ c = 'E')

theorem Apart.noDigit (h : Apart r) : NoDigit r := by
  intro c hc
  cases c with
  | none => rfl
  | some c => exact (h c hc).1

theorem Apart.point (h : Apart r) : r.head? ≠ some (some '.') := fun hc => (h '.' hc).2.1 rfl

/-- What stands behind the point of a number goes on with it only if it is a digit. -/
theorem IsExponent.noDigit {e : List Char} (he : IsExponent e) (hr : Apart r) :
    NoDigit (ofChars e ++ r) ∧ (ofChars e ++ r).head? ≠ some (some '.') := by
  cases he with
  | absent => exact ⟨hr.noDigit, hr.point⟩
  | present hmark hsign hds =>
    rcases hmark with rfl | rfl
    · exact ⟨by simp [NoDigit, ofChars, isDigit], by simp [ofChars]⟩
    · exact ⟨by simp [NoDigit, ofChars, isDigit], by simp [ofChars]⟩

theorem IsFraction.noDigit {f : List Char} (hf : IsFraction f) (hr : NoDigit r) :
    NoDigit (ofChars f ++ r) := by
  cases hf with
  | absent => exact hr
  | present => simp [NoDigit, ofChars, isDigit]

/-- The sign of a number. -/
def signChars (negative : Bool) : List Char := if negative then ['-'] else []

theorem integer?_signChars (negative : Bool) (whole fraction exponent : List Char) :
    integer? (signChars negative) whole fraction exponent =
      if !fraction.isEmpty || !exponent.isEmpty || (negative && Nat.ofDigitChars 10 whole 0 == 0) then none
      else some (if negative then -(Nat.ofDigitChars 10 whole 0 : Int)
        else Nat.ofDigitChars 10 whole 0) := by
  rw [integer?]
  cases negative <;> cases fraction <;> cases exponent <;> simp [signChars]

theorem of_readNumber {negative : Bool} {j : Json} (h : readNumber negative s = some (j, r)) :
    ∃ whole fraction exponent, IsNumeral (signChars negative) whole fraction exponent ∧
      j = .number (integer? (signChars negative) whole fraction exponent) ∧
      s = ofChars (whole ++ fraction ++ exponent) ++ r := by
  simp only [readNumber, Option.bind_eq_bind, Option.bind_eq_some_iff, Prod.exists] at h
  obtain ⟨n, s₁, hwhole, m, s₂, hfraction, m', s₃, hexponent, h⟩ := h
  obtain ⟨ds, hds, rfl, rfl⟩ := of_integerPart hwhole
  obtain ⟨f, hf, rfl, rfl⟩ := of_fractionPart hfraction
  obtain ⟨e, he, rfl, rfl⟩ := of_exponentPart hexponent
  cases h
  refine ⟨ds, f, e, ⟨by cases negative <;> simp [signChars], hds, hf, he⟩, ?_, by simp⟩
  rw [integer?_signChars]

theorem readNumber_ofChars {negative : Bool} {whole fraction exponent : List Char}
    (h : IsNumeral (signChars negative) whole fraction exponent) (hr : Apart r) :
    readNumber negative (ofChars (whole ++ fraction ++ exponent) ++ r) =
      some (.number (integer? (signChars negative) whole fraction exponent), r) := by
  obtain ⟨hdigit, hpoint⟩ := h.exponent.noDigit hr
  have hwhole := integerPart_ofChars h.whole (h.fraction.noDigit hdigit)
  have hfraction := fractionPart_ofChars h.fraction hpoint hdigit
  have hexponent := exponentPart_ofChars h.exponent (fun c hc => (hr c hc).2.2) hr.noDigit
  rw [integer?_signChars]
  simp only [ofChars_append, List.append_assoc, readNumber, Option.bind_eq_bind, Option.bind_some, hwhole,
    hfraction, hexponent]

end Numbers

end Killfile.Json

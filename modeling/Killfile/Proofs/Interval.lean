import Mathlib.Algebra.Group.Nat.Defs
import Killfile.Proofs.Selection
import Killfile.Reader.Memory
import Killfile.Task

/-! Intervals as they are written. A plus sign or none, digits and at most one letter for the unit, in
either case and with blanks around them, are an interval if its number and its seconds fit in 64 bits and
are not zero. No other text is one, whatever Unicode has for its lower case. An interval that is printed
is read back, since the unit that is chosen for it divides it. -/

namespace Killfile.Interval

open Text (isBlank trim)
open Unicode (IsPlain of_isDigit isLower_iff_toNat isUpper_iff_toNat lowercase lowercase_eq_iff)

/-- The texts of units with their seconds. -/
def unitTexts : List (List Char × Nat) :=
  [([], 1), (['s'], 1), (['S'], 1), (['m'], 60), (['M'], 60), (['h'], 3600), (['H'], 3600),
    (['d'], 86400), (['D'], 86400)]

/-- A plus sign or none, and digits. -/
structure IsNumber (sign digits : List Char) : Prop where
  sign : sign = [] ∨ sign = ['+']
  nonempty : digits ≠ []
  digits : ∀ c ∈ digits, c.isDigit = true

/-- A number and the text of a unit stand for seconds that are not zero. The number and the seconds fit
in 64 bits. -/
def Denotes (s : List Char) (n : Nat) : Prop :=
  ∃ sign digits unit factor, s = sign ++ digits ++ unit ∧ IsNumber sign digits ∧
    (unit, factor) ∈ unitTexts ∧ Nat.ofDigitChars 10 digits 0 < 2 ^ 64 ∧
    n = Nat.ofDigitChars 10 digits 0 * factor ∧ 1 ≤ n ∧ n < 2 ^ 64

/-- A text is an interval of so many seconds, with or without blanks around it. -/
def IsInterval (text : String) (n : Nat) : Prop :=
  ∃ inner, Rule.Trimmed text.toList inner ∧ Denotes inner n

theorem IsInterval.bounds {text : String} {n : Nat} (h : IsInterval text n) : 1 ≤ n ∧ n < 2 ^ 64 := by
  obtain ⟨_, -, _, _, _, _, -, -, -, -, -, hbounds⟩ := h
  exact hbounds

theorem isInterval_iff {text : String} {n : Nat} :
    IsInterval text n ↔ Denotes (trim text.toList) n := by
  constructor
  · rintro ⟨inner, htrimmed, h⟩
    rwa [← htrimmed.eq_trim]
  · exact fun h => ⟨_, Rule.trimmed_trim _, h⟩

section Numbers

variable {s sign digits : List Char} {c : Char} {v : Nat}

/-- What holds of the plus sign and of all digits holds of the characters of numbers. -/
theorem IsNumber.forall_mem {P : Char → Prop} (h : IsNumber sign digits) (hplus : P '+')
    (hdigit : ∀ n < 0x3A, (Char.ofNat n).isDigit = true → P (Char.ofNat n)) :
    ∀ c ∈ sign ++ digits, P c := by
  refine List.forall_mem_append.mpr ⟨?_, fun c hc => of_isDigit hdigit (h.digits c hc)⟩
  rcases h.sign with rfl | rfl
  · simp
  · simpa using hplus

theorem IsNumber.not_isAlpha (h : IsNumber sign digits) : ∀ c ∈ sign ++ digits, c.isAlpha = false :=
  h.forall_mem (by decide) (by decide)

theorem IsNumber.isPlain (h : IsNumber sign digits) : ∀ c ∈ sign ++ digits, IsPlain c :=
  h.forall_mem (by decide) (by decide)

theorem IsNumber.not_isBlank (h : IsNumber sign digits) : ∀ c ∈ sign ++ digits, isBlank c = false :=
  h.forall_mem (by decide) (by decide)

/-- What is left of a number without its plus sign. -/
def unsigned (s : List Char) : List Char := if s.head? = some '+' then s.tail else s

theorem number?_eq (s : List Char) : number? s =
    if unsigned s ≠ [] ∧ (unsigned s).all Char.isDigit ∧ Nat.ofDigitChars 10 (unsigned s) 0 < 2 ^ 64
    then some (Nat.ofDigitChars 10 (unsigned s) 0) else none := rfl

theorem exists_sign (s : List Char) : ∃ sign, (sign = [] ∨ sign = ['+']) ∧ s = sign ++ unsigned s := by
  rw [unsigned]
  split
  next hplus =>
    obtain ⟨rest, rfl⟩ := List.head?_eq_some_iff.mp hplus
    exact ⟨['+'], .inr rfl, rfl⟩
  · exact ⟨[], .inl rfl, rfl⟩

theorem IsNumber.unsigned_append (h : IsNumber sign digits) : unsigned (sign ++ digits) = digits := by
  rcases h.sign with rfl | rfl
  · have hplus : digits.head? ≠ some '+' := fun hplus =>
      absurd (h.digits '+' (List.mem_of_head? hplus)) (by decide)
    exact if_neg hplus
  · rfl

/-- A number is read as it is written, if it fits in 64 bits. -/
theorem number?_eq_some_iff : number? s = some v ↔ ∃ sign digits, s = sign ++ digits ∧
    IsNumber sign digits ∧ Nat.ofDigitChars 10 digits 0 = v ∧ v < 2 ^ 64 := by
  constructor
  · intro h
    rw [number?_eq] at h
    split at h
    next hread =>
      obtain ⟨hnonempty, hdigits, hlt⟩ := hread
      obtain rfl := Option.some.inj h
      obtain ⟨sign, hsign, hs⟩ := exists_sign s
      exact ⟨sign, _, hs, ⟨hsign, hnonempty, List.all_eq_true.mp hdigits⟩, rfl, hlt⟩
    · cases h
  · rintro ⟨sign, digits, rfl, hnumber, rfl, hlt⟩
    rw [number?_eq, hnumber.unsigned_append]
    exact if_pos ⟨hnumber.nonempty, List.all_eq_true.mpr hnumber.digits, hlt⟩

end Numbers

section Units

variable {s sign digits unit : List Char} {c d : Char} {v factor : Nat}

/-- The letters of units in lower case, with their seconds. -/
def unitLetters : List (Char × Nat) := [('s', 1), ('m', 60), ('h', 3600), ('d', 86400)]

/-- The text of a unit in lower case. -/
def IsUnit (unit : List Char) (factor : Nat) : Prop :=
  unit = [] ∧ factor = 1 ∨ ∃ c, unit = [c] ∧ unitSeconds? c = some factor

theorem unitSeconds?_eq_some_iff : unitSeconds? c = some factor ↔ (c, factor) ∈ unitLetters := by
  constructor
  · intro h
    unfold unitSeconds? at h
    split at h <;> simp_all [unitLetters]
  · intro h
    simp only [unitLetters, List.mem_cons, Prod.mk.injEq, List.not_mem_nil, or_false] at h
    rcases h with ⟨rfl, rfl⟩ | ⟨rfl, rfl⟩ | ⟨rfl, rfl⟩ | ⟨rfl, rfl⟩ <;> rfl

theorem isAlpha_of_unitSeconds? (h : unitSeconds? c = some factor) : c.isAlpha = true := by
  have hall : ∀ p ∈ unitLetters, p.1.isAlpha = true := by decide
  exact hall _ (unitSeconds?_eq_some_iff.mp h)

theorem splitUnit_append_letter (h : c.isAlpha = true) : splitUnit (s ++ [c]) = (s, c) := by
  simp [splitUnit, h]

theorem splitUnit_of_not_isAlpha (h : ∀ c ∈ s, c.isAlpha = false) : splitUnit s = (s, 's') := by
  unfold splitUnit
  split
  next c hc =>
    rw [if_neg]
    simp [h c (List.mem_of_getLast? hc)]
  · rfl

/-- Splitting off a unit takes a letter from the end, or nothing. -/
theorem splitUnit_cases (s : List Char) :
    (∃ c, s = (splitUnit s).1 ++ [c] ∧ (splitUnit s).2 = c) ∨ splitUnit s = (s, 's') := by
  unfold splitUnit
  split
  next c hc =>
    obtain ⟨front, rfl⟩ := List.getLast?_eq_some_iff.mp hc
    split
    · exact .inl ⟨c, by simp, rfl⟩
    · exact .inr rfl
  · exact .inr rfl

/-- The number and the unit of a text. -/
theorem number?_splitUnit_iff : (number? (splitUnit s).1 = some v ∧
      unitSeconds? (splitUnit s).2 = some factor) ↔
    ∃ sign digits unit, s = sign ++ digits ++ unit ∧ IsNumber sign digits ∧ IsUnit unit factor ∧
      Nat.ofDigitChars 10 digits 0 = v ∧ v < 2 ^ 64 := by
  constructor
  · rintro ⟨hnumber, hunit⟩
    obtain ⟨sign, digits, hs, hdigits, hv, hlt⟩ := number?_eq_some_iff.mp hnumber
    rcases splitUnit_cases s with ⟨c, hsplit, hc⟩ | hsplit
    · rw [hs] at hsplit
      exact ⟨sign, digits, [c], hsplit, hdigits, .inr ⟨c, rfl, hc ▸ hunit⟩, hv, hlt⟩
    · rw [hsplit] at hs hunit
      obtain rfl := Option.some.inj hunit
      exact ⟨sign, digits, [], by rw [List.append_nil]; exact hs, hdigits, .inl ⟨rfl, rfl⟩, hv, hlt⟩
  · rintro ⟨sign, digits, unit, rfl, hdigits, hunit, hv, hlt⟩
    have hread : number? (sign ++ digits) = some v :=
      number?_eq_some_iff.mpr ⟨sign, digits, rfl, hdigits, hv, hlt⟩
    rcases hunit with ⟨rfl, rfl⟩ | ⟨c, rfl, hc⟩
    · rw [List.append_nil, splitUnit_of_not_isAlpha hdigits.not_isAlpha]
      exact ⟨hread, rfl⟩
    · rw [splitUnit_append_letter (isAlpha_of_unitSeconds? hc)]
      exact ⟨hread, hc⟩

theorem parse?_eq_some_iff_splitUnit {text : String} {n : Nat} : parse? text = some n ↔
    ∃ v factor, (number? (splitUnit (normal text)).1 = some v ∧
      unitSeconds? (splitUnit (normal text)).2 = some factor) ∧
      n = v * factor ∧ 1 ≤ n ∧ n < 2 ^ 64 := by
  have hparse : parse? text = (unitSeconds? (splitUnit (normal text)).2).bind fun factor =>
      (number? (splitUnit (normal text)).1).bind fun v =>
        if 0 < v * factor ∧ v * factor < 2 ^ 64 then some (v * factor) else none := rfl
  simp only [hparse, Option.bind_eq_some_iff, Option.ite_none_right_eq_some, Option.some.injEq]
  constructor
  · rintro ⟨factor, hunit, v, hnumber, ⟨hpos, hlt⟩, rfl⟩
    exact ⟨v, factor, ⟨hnumber, hunit⟩, rfl, hpos, hlt⟩
  · rintro ⟨v, factor, ⟨hnumber, hunit⟩, rfl, hpos, hlt⟩
    exact ⟨factor, hunit, v, hnumber, ⟨hpos, hlt⟩, rfl⟩

end Units

section Case

variable {s digits sign unit : List Char} {c d : Char} {factor : Nat}

/-- What is no letter is the lower case of nothing else. -/
theorem toLower_eq_iff_of_not_isAlpha (hd : d.isAlpha = false) : c.toLower = d ↔ c = d := by
  obtain ⟨hupper, hlower⟩ : d.isUpper = false ∧ d.isLower = false :=
    Bool.or_eq_false_iff.mp hd
  rw [Rule.toLower_eq_iff hupper, Rule.AsciiAlike]
  have hnot : ¬ (c.isUpper = true ∧ d.toNat = c.toNat + 32) := by
    rintro ⟨hc, hd⟩
    obtain ⟨hlow, hhigh⟩ := isUpper_iff_toNat.mp hc
    refine Bool.false_ne_true (hlower.symm.trans (isLower_iff_toNat.mpr ?_))
    simp only [Char.reduceToNat] at *
    omega
  simp [hnot, hupper]

/-- A letter is the lower case of itself and of its capital. -/
theorem toLower_eq_iff_of_isUpper {u : Char} (hd : d.isUpper = false) (hu : u.isUpper = true)
    (h : d.toNat = u.toNat + 32) : c.toLower = d ↔ c = d ∨ c = u := by
  rw [Rule.toLower_eq_iff hd, Rule.AsciiAlike]
  have hsame : c.isUpper = true ∧ d.toNat = c.toNat + 32 ↔ c = u := by
    rw [← Char.toNat_inj]
    constructor
    · rintro ⟨-, hc⟩
      omega
    · intro hc
      obtain rfl := Char.toNat_inj.mp hc
      exact ⟨hu, h⟩
  simp [hsame, hd]

theorem map_toLower_eq_iff_of_not_isAlpha {t : List Char} (ht : ∀ d ∈ t, d.isAlpha = false) :
    s.map Char.toLower = t ↔ s = t := by
  induction t generalizing s with
  | nil => simp
  | cons d t ih =>
    obtain ⟨hd, ht⟩ := List.forall_mem_cons.mp ht
    cases s with
    | nil => simp
    | cons c s =>
      rw [List.map_cons, List.cons.injEq, List.cons.injEq, toLower_eq_iff_of_not_isAlpha hd, ih ht]

/-- A unit is a text that is one in lower case. -/
theorem mem_unitTexts_iff : (unit, factor) ∈ unitTexts ↔ IsUnit (unit.map Char.toLower) factor := by
  match unit with
  | [] => simp [unitTexts, IsUnit]
  | [c] =>
    have hs : c.toLower = 's' ↔ c = 's' ∨ c = 'S' := toLower_eq_iff_of_isUpper rfl rfl rfl
    have hm : c.toLower = 'm' ↔ c = 'm' ∨ c = 'M' := toLower_eq_iff_of_isUpper rfl rfl rfl
    have hh : c.toLower = 'h' ↔ c = 'h' ∨ c = 'H' := toLower_eq_iff_of_isUpper rfl rfl rfl
    have hd : c.toLower = 'd' ↔ c = 'd' ∨ c = 'D' := toLower_eq_iff_of_isUpper rfl rfl rfl
    simp [unitTexts, IsUnit, unitSeconds?_eq_some_iff, unitLetters, hs, hm, hh, hd, or_and_right, or_assoc]
  | _ :: _ :: _ => simp [unitTexts, IsUnit]

theorem IsUnit.isPlain (h : IsUnit unit factor) : ∀ c ∈ unit, IsPlain c := by
  have hall : ∀ p ∈ unitLetters, IsPlain p.1 := by decide
  rcases h with ⟨rfl, -⟩ | ⟨c, rfl, hc⟩
  · simp
  · simpa using hall _ (unitSeconds?_eq_some_iff.mp hc)

/-- A number with a unit is the normal form of the texts that have the number as it stands and the unit
in either case. -/
theorem normal_eq_iff {text : String} (hnumber : IsNumber sign digits) (hunit : IsUnit unit factor) :
    normal text = sign ++ digits ++ unit ↔
      ∃ unit', trim text.toList = sign ++ digits ++ unit' ∧ unit'.map Char.toLower = unit := by
  have hplain : ∀ c ∈ sign ++ digits ++ unit, IsPlain c :=
    List.forall_mem_append.mpr ⟨hnumber.isPlain, hunit.isPlain⟩
  rw [normal, lowercase_eq_iff hplain, List.map_eq_append_iff]
  simp only [map_toLower_eq_iff_of_not_isAlpha hnumber.not_isAlpha]
  constructor
  · rintro ⟨_, unit', h, rfl, hlower⟩
    exact ⟨unit', h, hlower⟩
  · rintro ⟨unit', h, hlower⟩
    exact ⟨_, unit', h, rfl, hlower⟩

end Case

theorem parse?_eq_some_iff {text : String} {n : Nat} : parse? text = some n ↔ IsInterval text n := by
  simp only [isInterval_iff, parse?_eq_some_iff_splitUnit, number?_splitUnit_iff]
  constructor
  · rintro ⟨_, factor, ⟨sign, digits, unit, htext, hnumber, hunit, rfl, hlt⟩, hn⟩
    obtain ⟨unit', htrim, rfl⟩ := (normal_eq_iff hnumber hunit).mp htext
    exact ⟨sign, digits, unit', factor, htrim, hnumber, mem_unitTexts_iff.mpr hunit, hlt, hn⟩
  · rintro ⟨sign, digits, unit, factor, htrim, hnumber, hunit, hlt, hn⟩
    have hlower := mem_unitTexts_iff.mp hunit
    exact ⟨_, factor, ⟨sign, digits, _, (normal_eq_iff hnumber hlower).mpr ⟨unit, htrim, rfl⟩, hnumber,
      hlower, rfl, hlt⟩, hn⟩

/-- A text is read as an interval if without the blanks around it it is a plus sign or none, digits, and a
unit or none, and if its number and its seconds fit in 64 bits and the seconds are not zero. Every other
text is refused, and a daemon that is told such an interval asks nothing of its reader. -/
theorem reading_exact (text : String) :
    (∀ n, parse? text = some n ↔ IsInterval text n) ∧
    (parse? text = none ↔ ∀ n, ¬ IsInterval text n) ∧
    parse? text ≠ some 0 ∧
    ((∀ n, ¬ IsInterval text n) → ∀ {W : Type} (reader : Reader W) (readings : List (Reading W))
      (runOnStart simulate : Bool) (w : W), Task.daemon reader readings text runOnStart simulate w =
        (.error (.settings (.invalidInterval (.ofList (lowercase (trim text.toList))))), w, [])) := by
  have hnone : parse? text = none ↔ ∀ n, ¬ IsInterval text n := by
    simp only [Option.eq_none_iff_forall_ne_some, ne_eq, parse?_eq_some_iff]
  refine ⟨fun n => parse?_eq_some_iff, hnone, fun hzero => ?_, ?_⟩
  · exact absurd (parse?_eq_some_iff.mp hzero).bounds.1 (by decide)
  · intro hrefused W reader readings runOnStart simulate w
    rw [Task.daemon, hnone.mpr hrefused]
    rfl

/-- The most days that fit in 64 bits, with blanks, a sign and a zero in front, and one day more. -/
theorem reading_exact_days :
    IsInterval "\u2003+0213503982334601D\n" 18446744073709526400 ∧
    (∀ n, ¬ IsInterval " 213503982334602D" n) ∧
    (Task.daemon Memory.reader [] " 213503982334602D" true false {}).1 =
      .error (.settings (.invalidInterval "213503982334602d")) := by
  obtain ⟨hread, -⟩ := reading_exact "\u2003+0213503982334601D\n"
  obtain ⟨-, hnone, -, hrefused⟩ := reading_exact " 213503982334602D"
  have hno : ∀ n, ¬ IsInterval " 213503982334602D" n := hnone.mp (by decide +kernel)
  refine ⟨(hread _).mp (by decide +kernel), hno, ?_⟩
  rw [hrefused hno Memory.reader]
  decide +kernel

section Rendering

variable {n : Nat}

/-- An interval is printed as a number and a unit that divides it. -/
theorem exists_unit (n : Nat) : ∃ c factor, ([c], factor) ∈ unitTexts ∧ factor ∣ n ∧
    (render n).toList = Nat.toDigits 10 (n / factor) ++ [c] := by
  unfold render
  split_ifs with hdays hhours hminutes
  · exact ⟨'d', 86400, by decide, Nat.dvd_of_mod_eq_zero hdays.2, by simp⟩
  · exact ⟨'h', 3600, by decide, Nat.dvd_of_mod_eq_zero hhours.2, by simp⟩
  · exact ⟨'m', 60, by decide, Nat.dvd_of_mod_eq_zero hminutes.2, by simp⟩
  · exact ⟨'s', 1, by decide, Nat.one_dvd n, by simp⟩

theorem isNumber_toDigits (n : Nat) : IsNumber [] (Nat.toDigits 10 n) where
  sign := .inl rfl
  nonempty := Nat.toDigits_ne_nil
  digits _ hc := Nat.isDigit_of_mem_toDigits (by decide) (by decide) hc

/-- The seconds of a printed interval are those it was printed for, so they fit where those fit. -/
theorem denotes_render (hpos : 1 ≤ n) (hlt : n < 2 ^ 64) : Denotes (render n).toList n := by
  obtain ⟨c, factor, hunit, hdvd, htext⟩ := exists_unit n
  have hvalue : Nat.ofDigitChars 10 (Nat.toDigits 10 (n / factor)) 0 = n / factor :=
    Nat.ofDigitChars_ten_toDigits
  refine ⟨[], Nat.toDigits 10 (n / factor), [c], factor, htext, isNumber_toDigits _, hunit, ?_, ?_, hpos, hlt⟩
  · rw [hvalue]
    exact Nat.lt_of_le_of_lt (Nat.div_le_self n factor) hlt
  · rw [hvalue, Nat.div_mul_cancel hdvd]

theorem isInterval_render (hpos : 1 ≤ n) (hlt : n < 2 ^ 64) : IsInterval (render n) n := by
  have hsolid : ∀ c ∈ (render n).toList, isBlank c = false := by
    obtain ⟨c, factor, hunit, -, htext⟩ := exists_unit n
    have hletter : ∀ p ∈ unitTexts, ∀ c ∈ p.1, isBlank c = false := by decide
    rw [htext]
    exact List.forall_mem_append.mpr ⟨(isNumber_toDigits _).not_isBlank, hletter _ hunit⟩
  have htrimmed : Rule.Trimmed (render n).toList (render n).toList :=
    ⟨⟨[], [], by simp [Rule.Blanks], by simp [Rule.Blanks], by simp⟩,
      fun c hc => hsolid c (List.mem_of_head? hc), fun c hc => hsolid c (List.mem_of_getLast? hc)⟩
  exact ⟨_, htrimmed, denotes_render hpos hlt⟩

theorem render_injective : Function.Injective render := by
  intro m n h
  obtain ⟨c, factor, hunit, hdvd, htext⟩ := exists_unit m
  obtain ⟨c', factor', hunit', hdvd', htext'⟩ := exists_unit n
  rw [h, htext'] at htext
  obtain ⟨hdigits, hletter⟩ := List.append_inj' htext rfl
  have hsame : factor' = factor := by
    have hall : ∀ p ∈ unitTexts, ∀ q ∈ unitTexts, p.1 = q.1 → p.2 = q.2 := by decide
    exact hall _ hunit' _ hunit hletter
  subst hsame
  have hvalue := congrArg (fun l => Nat.ofDigitChars 10 l 0) hdigits
  simp only [Nat.ofDigitChars_ten_toDigits] at hvalue
  rw [← Nat.div_mul_cancel hdvd, ← Nat.div_mul_cancel hdvd', hvalue]

/-- An interval that is printed is read back, if it fits in 64 bits and is not zero. No two intervals are
printed alike, and a text that is read as an interval can be exchanged for the interval as it is
printed. -/
theorem reading_rendered :
    (∀ n, parse? (render n) = some n ↔ 1 ≤ n ∧ n < 2 ^ 64) ∧
    Function.Injective render ∧
    ∀ text, ((parse? text).map render).bind parse? = parse? text := by
  have hread : ∀ n, parse? (render n) = some n ↔ 1 ≤ n ∧ n < 2 ^ 64 := by
    intro n
    rw [parse?_eq_some_iff]
    exact ⟨IsInterval.bounds, fun h => isInterval_render h.1 h.2⟩
  refine ⟨hread, render_injective, fun text => ?_⟩
  cases h : parse? text with
  | none => rfl
  | some n =>
    rw [Option.map_some, Option.bind_some]
    exact (hread n).mpr (parse?_eq_some_iff.mp h).bounds

/-- Half an hour is printed in minutes, and the greatest interval in seconds. -/
example : render 1800 = "30m" ∧ render 18446744073709551615 = "18446744073709551615s" := by
  decide +kernel

end Rendering

end Killfile.Interval

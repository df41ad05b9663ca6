import Killfile.Proofs.Json.Grammar

/-! Texts of JSON as they are printed: without blanks, with strings that need no escapes and integers in
their shortest form. -/

namespace Killfile.Json

section Strings

variable {s : List Char}

/-- The characters that stand for themselves in a string. -/
def Printed (s : List Char) : Prop := ∀ c ∈ s, c ≠ '"' ∧ c ≠ '\\' ∧ 0x20 ≤ c.toNat

instance (s : List Char) : Decidable (Printed s) := List.decidableBAll _ s

theorem Printed.letters (h : Printed s) : Letters (ofChars s) (s.map fun c => some c.toNat) := by
  induction s with
  | nil => exact .nil
  | cons c s ih =>
    obtain ⟨⟨hquote, hbackslash, hprinted⟩, hs⟩ := List.forall_mem_cons.mp h
    exact .char hquote hbackslash hprinted (ih hs)

/-- No character is a surrogate, so characters are never joined. -/
theorem joinSurrogates_chars (s : List Char) : joinSurrogates (s.map fun c => some c.toNat) = some s := by
  have hvalid (c : Char) : ¬ (0xD800 ≤ c.toNat ∧ c.toNat ≤ 0xDBFF) := by
    have h : c.toNat < 0xD800 ∨ 0xDFFF < c.toNat ∧ c.toNat < 0x110000 := c.valid
    omega
  match s with
  | [] => rfl
  | [c] => simp [joinSurrogates, Text.Utf8.scalar?_toNat]
  | c :: d :: s =>
    have ih := joinSurrogates_chars (d :: s)
    rw [List.map_cons] at ih
    rw [List.map_cons, List.map_cons, joinSurrogates, if_neg fun h => hvalid c ⟨h.1, h.2.1⟩,
      Text.Utf8.scalar?_toNat, ih]
    rfl

theorem textOf_chars (s : List Char) : textOf (s.map fun c => some c.toNat) = some (.ofList s) := by
  rw [textOf, joinSurrogates_chars, Option.map_some]

theorem Printed.spells (h : Printed s) :
    Spells (some '"' :: (ofChars s ++ [some '"'])) (.value (.string (some (.ofList s)))) := by
  rw [← textOf_chars]
  exact .string h.letters

end Strings

section Numbers

/-- No needless zero is printed. -/
theorem isWhole_toDigits (n : Nat) : IsWhole (Nat.toDigits 10 n) where
  nonempty := Nat.toDigits_ne_nil
  digits _ hc := Nat.isDigit_of_mem_toDigits (by decide) (by decide) hc
  leading := by
    induction n using Nat.strongRecOn with
    | ind n ih =>
      rw [Nat.toDigits_eq_if (by decide)]
      split
      next h =>
        intro hzero
        simpa using hzero
      next h =>
        intro hzero
        have hhead : (Nat.toDigits 10 (n / 10)).head? = some '0' := by
          obtain ⟨d, ds, hds⟩ := List.exists_cons_of_ne_nil (Nat.toDigits_ne_nil (b := 10) (n := n / 10))
          rw [hds] at hzero ⊢
          exact hzero
        -- All digits but the last are zero alone, yet they have a value that is more.
        have hfront := ih (n / 10) (by omega) hhead
        have hvalue : n / 10 = 0 := by
          rw [← Nat.ofDigitChars_ten_toDigits (n := n / 10), hfront]
          rfl
        omega

/-- The text of an integer. -/
theorem spells_int (n : Int) : Spells (ofChars ((if n < 0 then ['-'] else []) ++ Nat.toDigits 10 n.natAbs))
    (.value (.number (some n))) := by
  have hsign : (if n < 0 then ['-'] else ([] : List Char)) = [] ∨
      (if n < 0 then ['-'] else ([] : List Char)) = ['-'] := by
    split <;> simp
  have hspells := Spells.number ⟨hsign, isWhole_toDigits n.natAbs, .absent, .absent⟩
  have hvalue : integer? (if n < 0 then ['-'] else []) (Nat.toDigits 10 n.natAbs) [] [] = some n := by
    rw [integer?, Nat.ofDigitChars_ten_toDigits]
    by_cases h : n < 0
    · have hne : n.natAbs ≠ 0 := by omega
      simp only [if_pos h, true_and, reduceCtorEq, false_or, if_pos hne, if_false]
      congr 1
      omega
    · simp only [if_neg h, true_and, true_or, if_true]
      congr 1
      omega
  rwa [hvalue, List.append_nil, List.append_nil] at hspells

end Numbers

section Values

variable {s : Input} {j : Json}

/-- A value needs no blanks around it. -/
theorem Spells.bare (h : Spells s (.value j)) : Spells s (.element j) := by
  have hnil : Blanks [] := by simp [Blanks]
  have helement := Spells.element hnil h hnil
  rwa [List.nil_append, List.append_nil] at helement

/-- A member without blanks whose key stands for itself. -/
theorem Printed.member {k : List Char} (hk : Printed k) (h : Spells s (.value j)) :
    Spells (some '"' :: (ofChars k ++ some '"' :: some ':' :: s)) (.member (some (.ofList k), j)) := by
  have hnil : Blanks [] := by simp [Blanks]
  rw [← textOf_chars]
  exact .member hnil hk.letters hnil h.bare

end Values

end Killfile.Json

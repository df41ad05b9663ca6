import Killfile.Url.Percent

/-! Encoded text. Nothing in it is encoded a second time, so that it is read as it is written. -/

namespace Killfile.Url

/-- What holds of the characters of a text is decided by going through the text, not through all
characters that there are. -/
instance (priority := high) decidableForallMem {P : Char → Prop} [DecidablePred P] (s : List Char) :
    Decidable (∀ c ∈ s, P c) := List.decidableBAll P s

/-- A text of ASCII characters of which none belongs to a set. -/
def Plain (set : Char → Bool) (s : List Char) : Prop := ∀ c ∈ s, c.toNat < 0x80 ∧ set c = false

/-- The characters that percent encoding writes. -/
def percentChars : List Char := "%0123456789ABCDEF".toList

section

variable {set : Char → Bool} {s t : List Char} {c : Char}

theorem plain_nil : Plain set [] := fun _ hc => absurd hc List.not_mem_nil

theorem plain_append : Plain set (s ++ t) ↔ Plain set s ∧ Plain set t := List.forall_mem_append

theorem plain_cons : Plain set (c :: s) ↔ (c.toNat < 0x80 ∧ set c = false) ∧ Plain set s :=
  List.forall_mem_cons

instance : Decidable (Plain set s) := inferInstanceAs (Decidable (∀ c ∈ s, _))

theorem Plain.not_mem (h : Plain set s) (hc : set c = true) : c ∉ s := by
  intro hmem
  simp [(h c hmem).2] at hc

/-- Text that needs no encoding stays as it is. -/
theorem encode_of_plain (h : Plain set s) : encode set s = s := by
  induction s with
  | nil => rfl
  | cons c s ih =>
    obtain ⟨⟨hc, hset⟩, hs⟩ := plain_cons.mp h
    rw [encode, List.flatMap_cons, encodeChar_of_not hc hset]
    exact congrArg (c :: ·) (ih hs)

theorem hexChar_mem {n : Nat} (h : n < 16) : hexChar n ∈ percentChars := by
  revert n
  decide

theorem percentByte_subset (b : UInt8) : percentByte b ⊆ percentChars := by
  have hb : b.toNat < 256 := b.toNat_lt
  intro c hc
  simp only [percentByte, List.mem_cons, List.not_mem_nil, or_false] at hc
  obtain rfl | rfl | rfl := hc
  · decide
  · exact hexChar_mem (by omega)
  · exact hexChar_mem (by omega)

/-- What stands in an encoded text is no member of the set, or comes from the encoding. -/
theorem mem_encode (hc : c ∈ encode set s) :
    (c ∈ s ∧ c.toNat < 0x80 ∧ set c = false) ∨ c ∈ percentChars := by
  obtain ⟨d, hd, hcd⟩ := List.mem_flatMap.mp hc
  rw [encodeChar] at hcd
  split at hcd
  next hplain =>
    obtain rfl := List.mem_singleton.mp hcd
    simp only [Bool.and_eq_true, decide_eq_true_eq, Bool.not_eq_true'] at hplain
    exact .inl ⟨hd, hplain⟩
  next =>
    obtain ⟨b, -, hcb⟩ := List.mem_flatMap.mp hcd
    exact .inr (percentByte_subset b hcb)

/-- Encoded text needs no encoding. -/
theorem plain_encode (h : Plain set percentChars) : Plain set (encode set s) := by
  intro c hc
  obtain ⟨-, hplain⟩ | hpercent := mem_encode hc
  · exact hplain
  · exact h c hpercent

end

theorem plain_inFragment : Plain inFragment percentChars := by decide

theorem plain_inPath : Plain inPath percentChars := by decide

theorem plain_inUserinfo : Plain inUserinfo percentChars := by decide

theorem plain_inSpecialQuery : Plain inSpecialQuery percentChars := by decide

end Killfile.Url

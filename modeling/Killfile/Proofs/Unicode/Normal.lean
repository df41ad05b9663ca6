import Killfile.Proofs.Pieces
import Killfile.Unicode.Normal
import Mathlib.Data.List.Chain

/-! The composed normal form is stable: composing undoes what taking apart does, so that a text in
normal form is its own normal form, and so is every part of it between full stops. -/

namespace Killfile.Unicode

section Marks

variable {c d : Nat} {l r : List Nat}

/-- Marks that follow each other are in order of their classes. -/
def InOrder (l : List Nat) : Prop :=
  l.IsChain fun c d => combiningClass d = 0 ∨ combiningClass c ≤ combiningClass d

theorem insertMark_cons (c d : Nat) (l : List Nat) : insertMark c (d :: l) =
    if combiningClass d ≠ 0 ∧ combiningClass d < combiningClass c then d :: insertMark c l
    else c :: d :: l := rfl

theorem insertMark_of_inOrder (h : InOrder (c :: l)) : insertMark c l = c :: l := by
  cases l with
  | nil => rfl
  | cons d l =>
    have := (List.isChain_cons_cons.mp h).1
    rw [insertMark_cons, if_neg]
    omega

theorem orderMarks_of_inOrder (h : InOrder l) : orderMarks l = l := by
  induction l with
  | nil => rfl
  | cons c l ih =>
    have hl : InOrder l := List.IsChain.tail h
    rw [orderMarks, List.foldr_cons]
    exact (congrArg (insertMark c) (ih hl)).trans (insertMark_of_inOrder h)

theorem inOrder_insertMark (h : InOrder l) : InOrder (insertMark c l) := by
  induction l with
  | nil => exact List.isChain_singleton c
  | cons d l ih =>
    have hl : InOrder l := List.IsChain.tail h
    rw [insertMark_cons]
    split
    next hd =>
      have hins := ih hl
      cases l with
      | nil => exact List.isChain_cons_cons.mpr ⟨.inr (Nat.le_of_lt hd.2), List.isChain_singleton c⟩
      | cons e l =>
        rw [insertMark_cons] at hins ⊢
        split at hins
        next he =>
          rw [if_pos he]
          exact List.isChain_cons_cons.mpr ⟨(List.isChain_cons_cons.mp h).1, hins⟩
        next he =>
          rw [if_neg he]
          exact List.isChain_cons_cons.mpr ⟨.inr (Nat.le_of_lt hd.2), hins⟩
    next hd =>
      exact List.isChain_cons_cons.mpr ⟨by omega, h⟩

theorem inOrder_orderMarks (l : List Nat) : InOrder (orderMarks l) := by
  induction l with
  | nil => exact List.isChain_nil
  | cons c l ih => exact inOrder_insertMark ih

theorem orderMarks_append : orderMarks (l ++ r) = l.foldr insertMark (orderMarks r) :=
  List.foldr_append

/-- Marks of different classes may be inserted in any order. -/
theorem insertMark_comm (h0 : combiningClass d ≠ 0) (hlt : combiningClass d < combiningClass c) :
    insertMark c (insertMark d l) = insertMark d (insertMark c l) := by
  induction l with
  | nil => simp [insertMark, h0, hlt, Nat.not_lt.mpr (Nat.le_of_lt hlt)]
  | cons e l ih =>
    by_cases hed : combiningClass e ≠ 0 ∧ combiningClass e < combiningClass d
    · have hec : combiningClass e ≠ 0 ∧ combiningClass e < combiningClass c := ⟨hed.1, by omega⟩
      simp only [insertMark_cons, if_pos hed, if_pos hec, ih]
    · by_cases hec : combiningClass e ≠ 0 ∧ combiningClass e < combiningClass c
      · simp only [insertMark_cons, if_neg hed, if_pos hec, if_pos (And.intro h0 hlt)]
      · have hcd : ¬(combiningClass c ≠ 0 ∧ combiningClass c < combiningClass d) := by omega
        simp only [insertMark_cons, if_neg hed, if_neg hec, if_pos (And.intro h0 hlt), if_neg hcd]

/-- A mark may be put before marks of lower classes. -/
theorem orderMarks_move {between : List Nat}
    (h : ∀ b ∈ between, combiningClass b ≠ 0 ∧ combiningClass b < combiningClass c) :
    orderMarks (c :: (between ++ r)) = orderMarks (between ++ c :: r) := by
  induction between with
  | nil => rfl
  | cons b between ih =>
    obtain ⟨⟨hb, hlt⟩, hbetween⟩ := List.forall_mem_cons.mp h
    calc orderMarks (c :: (b :: between ++ r))
        = insertMark c (insertMark b (orderMarks (between ++ r))) := rfl
      _ = insertMark b (orderMarks (c :: (between ++ r))) := insertMark_comm hb hlt
      _ = orderMarks (b :: between ++ c :: r) := by rw [ih hbetween]; rfl

/-- What comes first does not matter to the order of the rest. -/
theorem orderMarks_congr {l' : List Nat} (h : orderMarks l = orderMarks l') :
    orderMarks (r ++ l) = orderMarks (r ++ l') := by
  rw [orderMarks_append, orderMarks_append, h]

/-- Characters of class zero part the marks. -/
theorem orderMarks_append_cons (h : combiningClass c = 0) :
    orderMarks (l ++ c :: r) = orderMarks l ++ c :: orderMarks r := by
  have hstarter : ∀ m, insertMark c m = c :: m := by
    intro m
    cases m with
    | nil => rfl
    | cons d m => rw [insertMark_cons, if_neg (by omega)]
  have hinsert : ∀ d m, insertMark d (m ++ c :: orderMarks r) = insertMark d m ++ c :: orderMarks r := by
    intro d m
    induction m with
    | nil => simp [insertMark, h]
    | cons e m ih =>
      rw [List.cons_append, insertMark_cons, insertMark_cons, ih]
      split <;> rfl
  induction l with
  | nil => exact hstarter _
  | cons d l ih =>
    calc orderMarks (d :: l ++ c :: r) = insertMark d (orderMarks (l ++ c :: r)) := rfl
      _ = insertMark d (orderMarks l ++ c :: orderMarks r) := by rw [ih]
      _ = orderMarks (d :: l) ++ c :: orderMarks r := hinsert d _

end Marks

section Table

/-- A set of numbers in the bits of one. -/
def bitsOf (l : List Nat) : Nat := l.foldr (fun n m => m ||| 1 <<< n) 0

theorem testBit_bitsOf {l : List Nat} {n : Nat} : (bitsOf l).testBit n = true ↔ n ∈ l := by
  induction l with
  | nil => simp [bitsOf]
  | cons m l ih =>
    rw [bitsOf, List.foldr_cons, Nat.testBit_or, Bool.or_eq_true, ← bitsOf, ih, Nat.one_shiftLeft,
      Nat.testBit_two_pow, decide_eq_true_eq, List.mem_cons]
    exact or_comm.trans (or_congr eq_comm Iff.rfl)

/-- The characters that are composed. -/
def composed : List Nat := compositionTable.map (·.1)

/-- The characters whose first part is composed itself. -/
def composedTwice : List Nat :=
  (compositionTable.filter fun p => (bitsOf composed).testBit p.2.1).map (·.1)

def isJamo (c : Nat) : Bool := Nat.ble 0x1100 c && Nat.blt c 0x1200

/-- What holds of every row of the table. The second part is not composed, and the first part not
more than once. -/
def isRow (p : Nat × Nat × Nat) : Bool :=
  !(bitsOf composed).testBit p.2.2 && !(bitsOf composedTwice).testBit p.2.1 &&
    !isJamo p.1 && [p.1, p.2.1, p.2.2].all fun c => !isSyllable c && decide c.isValidChar && c != 0x2E

set_option maxRecDepth 10000 in
theorem rows : compositionTable.all isRow = true := by decide +kernel

set_option maxRecDepth 10000 in
theorem composed_isChain : composed.IsChain (· < ·) := by decide +kernel

variable {a b c n : Nat}

/-- A character that stands for itself alone. -/
structure IsWhole (c : Nat) : Prop where
  syllable : isSyllable c = false
  composed : c ∉ composed

/-- What a row of the table says. -/
theorem row_of_mem (h : (c, a, b) ∈ compositionTable) :
    b ∉ composed ∧ a ∉ composedTwice ∧ isJamo c = false ∧
      ∀ x ∈ [c, a, b], isSyllable x = false ∧ x.isValidChar ∧ x ≠ 0x2E := by
  have hrow := List.all_eq_true.mp rows _ h
  simp only [isRow, Bool.and_eq_true, Bool.not_eq_true', List.all_eq_true, decide_eq_true_eq,
    bne_iff_ne] at hrow
  obtain ⟨⟨⟨hb, ha⟩, hc⟩, hall⟩ := hrow
  refine ⟨fun hmem => ?_, fun hmem => ?_, hc, fun x hx => ⟨(hall x hx).1.1, (hall x hx).1.2, (hall x hx).2⟩⟩
  · simp [testBit_bitsOf.mpr hmem] at hb
  · simp [testBit_bitsOf.mpr hmem] at ha

theorem exists_row (h : c ∈ composed) : ∃ a b, (c, a, b) ∈ compositionTable := by
  obtain ⟨⟨c', a, b⟩, hp, rfl⟩ := List.mem_map.mp h
  exact ⟨a, b, hp⟩

theorem find?_of_pairwise {l : List (Nat × Nat × Nat)} (hl : (l.map (·.1)).Pairwise (· < ·))
    (h : (c, a, b) ∈ l) :
    (l.map fun p => (p.1, [p.2.1, p.2.2])).find? (fun p => p.1 = c) = some (c, [a, b]) := by
  induction l with
  | nil => cases h
  | cons p l ih =>
    obtain ⟨hp, hl⟩ := List.pairwise_cons.mp hl
    rcases List.mem_cons.mp h with rfl | h
    · simp
    · have hlt := hp c (List.mem_map.mpr ⟨_, h, rfl⟩)
      rw [List.map_cons, List.find?_cons_of_neg (by simpa using Nat.ne_of_lt hlt)]
      exact ih hl h

theorem find?_compositions (h : (c, a, b) ∈ compositionTable) :
    compositions.find? (fun p => p.1 = c) = some (c, [a, b]) :=
  find?_of_pairwise (List.isChain_iff_pairwise.mp composed_isChain) h

theorem decomposeFor_row (h : (c, a, b) ∈ compositionTable) :
    decomposeFor (n + 1) c = decomposeFor n a ++ decomposeFor n b := by
  obtain ⟨-, -, -, hall⟩ := row_of_mem h
  rw [decomposeFor, if_neg (by simp [hall c (by simp)]), find?_compositions h]
  simp

theorem decomposeFor_whole (h : IsWhole c) : decomposeFor n c = [c] := by
  cases n with
  | zero => rfl
  | succ n =>
    have hnone : compositions.find? (fun p => p.1 = c) = none := by
      refine List.find?_eq_none.mpr fun p hp => ?_
      obtain ⟨q, hq, rfl⟩ := List.mem_map.mp hp
      simpa using fun he : q.1 = c => h.composed (List.mem_map.mpr ⟨q, hq, he⟩)
    rw [decomposeFor, if_neg (by simp [h.syllable]), hnone]

/-- The second part of a composed character is whole, and so is the first one, or both its parts. -/
theorem parts_of_row (h : (c, a, b) ∈ compositionTable) : IsWhole b ∧ (IsWhole a ∨
    ∃ a' b', (a, a', b') ∈ compositionTable ∧ IsWhole a' ∧ IsWhole b') := by
  obtain ⟨hb, ha, -, hall⟩ := row_of_mem h
  refine ⟨⟨(hall b (by simp)).1, hb⟩, ?_⟩
  by_cases hmem : a ∈ composed
  · obtain ⟨a', b', hrow⟩ := exists_row hmem
    obtain ⟨hb', -, -, hall'⟩ := row_of_mem hrow
    have ha' : a' ∉ composed := by
      intro hmem'
      refine ha (List.mem_map.mpr ⟨_, List.mem_filter.mpr ⟨hrow, ?_⟩, rfl⟩)
      exact testBit_bitsOf.mpr hmem'
    exact .inr ⟨a', b', hrow, ⟨(hall' a' (by simp)).1, ha'⟩, ⟨(hall' b' (by simp)).1, hb'⟩⟩
  · exact .inl ⟨(hall a (by simp)).1, hmem⟩

/-- A composed character comes apart into the parts of its first part, and its second part. -/
theorem decompose_row (h : (c, a, b) ∈ compositionTable) : decompose c = decompose a ++ [b] := by
  obtain ⟨hb, ha⟩ := parts_of_row h
  have hsame : decomposeFor 4 a = decomposeFor 5 a := by
    obtain ha | ⟨a', b', hrow, ha', hb'⟩ := ha
    · rw [decomposeFor_whole ha, decomposeFor_whole ha]
    · rw [decomposeFor_row hrow, decomposeFor_row hrow]
      simp only [decomposeFor_whole ha', decomposeFor_whole hb']
  rw [decompose, decomposeFor_row h, decomposeFor_whole hb, hsame, decompose]

theorem decompose_whole (h : IsWhole c) : decompose c = [c] := decomposeFor_whole h

theorem isSyllable_iff : isSyllable c = true ↔ 0xAC00 ≤ c ∧ c < 0xD7A4 := by
  unfold isSyllable
  rw [Bool.and_eq_true, decide_eq_true_eq, decide_eq_true_eq]
  exact Iff.rfl

theorem isJamo_iff : isJamo c = true ↔ 0x1100 ≤ c ∧ c < 0x1200 := by
  simp [isJamo]

theorem syllableParts_eq : syllableParts c =
    [0x1100 + (c - 0xAC00) / 588, 0x1161 + (c - 0xAC00) / 28 % 21] ++
      if (c - 0xAC00) % 28 = 0 then [] else [0x11A7 + (c - 0xAC00) % 28] := rfl

theorem isWhole_of_isJamo (h : isJamo c = true) : IsWhole c := by
  constructor
  · rw [← Bool.not_eq_true, isSyllable_iff]
    have := isJamo_iff.mp h
    omega
  · intro hmem
    obtain ⟨a, b, hrow⟩ := exists_row hmem
    simp [(row_of_mem hrow).2.2.1] at h

/-- What a character is made of: a whole one, a syllable, or a row of the table. -/
theorem kind (c : Nat) : IsWhole c ∨ isSyllable c = true ∨ ∃ a b, (c, a, b) ∈ compositionTable := by
  by_cases hs : isSyllable c = true
  · exact .inr (.inl hs)
  · by_cases hc : c ∈ composed
    · exact .inr (.inr (exists_row hc))
    · exact .inl ⟨by simpa using hs, hc⟩

theorem decompose_syllable (h : isSyllable c = true) : decompose c = syllableParts c := by
  rw [decompose, decomposeFor, if_pos h]

theorem isJamo_syllableParts (h : isSyllable c = true) : ∀ x ∈ syllableParts c, isJamo x = true := by
  intro x hx
  have hc := isSyllable_iff.mp h
  rw [isJamo_iff]
  rw [syllableParts_eq] at hx
  rcases List.mem_append.mp hx with hx | hx
  · rcases List.mem_cons.mp hx with rfl | hx
    · omega
    · rw [List.mem_singleton.mp hx]
      omega
  · split at hx
    · cases hx
    · rw [List.mem_singleton.mp hx]
      omega

/-- A property of all whole characters that are parts of others: they are valid, and no full stop. -/
theorem mem_decompose {x : Nat} (h : x ∈ decompose c) :
    IsWhole x ∧ (x = c ∨ x.isValidChar ∧ x ≠ 0x2E) := by
  obtain hc | hc | ⟨a, b, hrow⟩ := kind c
  · rw [decompose_whole hc, List.mem_singleton] at h
    exact ⟨h ▸ hc, .inl h⟩
  · rw [decompose_syllable hc] at h
    have hjamo := isJamo_syllableParts hc x h
    have hx := isJamo_iff.mp hjamo
    exact ⟨isWhole_of_isJamo hjamo, .inr ⟨.inl (by omega), by omega⟩⟩
  · obtain ⟨hb, ha⟩ := parts_of_row hrow
    obtain ⟨-, -, -, hall⟩ := row_of_mem hrow
    have hpart {x : Nat} (hx : x ∈ [c, a, b]) : x.isValidChar ∧ x ≠ 0x2E := (hall x hx).2
    rw [decompose_row hrow, List.mem_append, List.mem_singleton] at h
    rcases h with h | rfl
    · obtain ha | ⟨a', b', hrow', ha', hb'⟩ := ha
      · rw [decompose_whole ha, List.mem_singleton] at h
        exact ⟨h ▸ ha, .inr (h ▸ hpart (by simp))⟩
      · obtain ⟨-, -, -, hall'⟩ := row_of_mem hrow'
        rw [decompose_row hrow', decompose_whole ha'] at h
        rcases List.mem_cons.mp h with rfl | h
        · exact ⟨ha', .inr (hall' x (by simp)).2⟩
        · obtain rfl := List.mem_singleton.mp h
          exact ⟨hb', .inr (hall' x (by simp)).2⟩
    · exact ⟨hb, .inr (hpart (by simp))⟩

/-- A leading consonant and a vowel make a syllable. -/
theorem syllableParts_pair (ha : 0x1100 ≤ a ∧ a < 0x1113) (hb : 0x1161 ≤ b ∧ b < 0x1176) :
    isSyllable (0xAC00 + ((a - 0x1100) * 21 + (b - 0x1161)) * 28) = true ∧
      syllableParts (0xAC00 + ((a - 0x1100) * 21 + (b - 0x1161)) * 28) = [a, b] := by
  rw [isSyllable_iff, syllableParts_eq, if_pos (by omega)]
  refine ⟨by omega, ?_⟩
  simp only [List.append_nil, List.cons.injEq, and_true]
  omega

/-- A syllable without a trailing consonant takes one. -/
theorem syllableParts_trailing (ha : isSyllable a = true) (h0 : (a - 0xAC00) % 28 = 0)
    (hb : 0x11A8 ≤ b ∧ b < 0x11C3) :
    isSyllable (a + (b - 0x11A7)) = true ∧ syllableParts (a + (b - 0x11A7)) = syllableParts a ++ [b] := by
  have ha := isSyllable_iff.mp ha
  rw [isSyllable_iff, syllableParts_eq, syllableParts_eq, if_neg (by omega), if_pos h0]
  refine ⟨by omega, ?_⟩
  simp only [List.append_nil, List.cons_append, List.nil_append, List.cons.injEq, and_true]
  omega

/-- What two characters compose comes apart into them. -/
theorem decompose_pair? (h : pair? a b = some c) :
    decompose c = decompose a ++ [b] ∧ c.isValidChar ∧ ∀ x ∈ [a, b, c], x ≠ 0x2E := by
  simp only [List.forall_mem_cons, List.not_mem_nil, false_imp_iff, implies_true, and_true]
  unfold pair? at h
  split at h
  next hjamo =>
    obtain rfl := Option.some.inj h
    obtain ⟨hsyllable, hparts⟩ := syllableParts_pair ⟨hjamo.1, hjamo.2.1⟩ hjamo.2.2
    have ha : IsWhole a := isWhole_of_isJamo (isJamo_iff.mpr (by omega))
    have hc := isSyllable_iff.mp hsyllable
    refine ⟨?_, .inl (by unfold hangulBase; omega), by omega, by omega, by unfold hangulBase; omega⟩
    rw [decompose_whole ha]
    exact (decompose_syllable hsyllable).trans hparts
  next =>
    split at h
    next hsyllable =>
      obtain rfl := Option.some.inj h
      obtain ⟨hc, hparts⟩ := syllableParts_trailing hsyllable.1 hsyllable.2.1 hsyllable.2.2
      have ha := isSyllable_iff.mp hsyllable.1
      have hlt := isSyllable_iff.mp hc
      refine ⟨?_, .inl (by omega), by omega, by omega, by omega⟩
      rw [decompose_syllable hc, decompose_syllable hsyllable.1, hparts]
    next =>
      obtain ⟨p, hfind, rfl⟩ := Option.map_eq_some_iff.mp h
      obtain ⟨q, hq, rfl⟩ := List.mem_map.mp (List.mem_of_find?_eq_some hfind)
      have hparts : [q.2.1, q.2.2] = [a, b] := by simpa using List.find?_some hfind
      obtain ⟨rfl, rfl⟩ : q.2.1 = a ∧ q.2.2 = b := by simpa using hparts
      obtain ⟨-, -, -, hall⟩ := row_of_mem (show (q.1, q.2.1, q.2.2) ∈ compositionTable from hq)
      exact ⟨decompose_row hq, (hall _ (by simp)).2.1, (hall _ (by simp)).2.2, (hall _ (by simp)).2.2,
        (hall _ (by simp)).2.2⟩

end Table

section Composing

variable {c p n starter lastClass : Nat} {between l s u v : List Nat}

/-- Characters taken apart. -/
def parts (l : List Nat) : List Nat := l.flatMap decompose

theorem parts_append : parts (u ++ v) = parts u ++ parts v := List.flatMap_append

theorem parts_cons : parts (c :: l) = decompose c ++ parts l := List.flatMap_cons

theorem parts_of_whole (h : ∀ c ∈ l, IsWhole c) : parts l = l := by
  induction l with
  | nil => rfl
  | cons c l ih =>
    obtain ⟨hc, hl⟩ := List.forall_mem_cons.mp h
    rw [parts_cons, decompose_whole hc, ih hl]
    rfl

/-- What a starter composes with, if nothing is in its way. -/
def meets (starter : Nat) (between : List Nat) (lastClass c : Nat) : Option Nat :=
  if between ≠ [] ∧ combiningClass c ≤ lastClass then none else pair? starter c

theorem composeAfter_cons : composeAfter starter between lastClass (c :: s) =
    match meets starter between lastClass c with
    | some p => composeAfter p between lastClass s
    | none =>
      if combiningClass c = 0 then starter :: between.reverse ++ composeAfter c [] 0 s
      else composeAfter starter (c :: between) (combiningClass c) s := rfl

/-- A pair meets where no mark of the same class or a higher one stands between. -/
theorem of_meets {p : Nat} (h : meets starter between lastClass c = some p) :
    pair? starter c = some p ∧ (between ≠ [] → lastClass < combiningClass c) := by
  unfold meets at h
  split at h
  · cases h
  next hfree => exact ⟨h, fun hne => Nat.lt_of_not_le fun hle => hfree ⟨hne, hle⟩⟩

/-- What is composed after a starter comes apart into what it was composed of. The marks between have
classes up to the last one, and the first mark behind them has no lower class. -/
theorem parts_composeAfter (hs : InOrder s) (hwhole : ∀ c ∈ s, IsWhole c)
    (hmarks : ∀ b ∈ between, IsWhole b ∧ combiningClass b ≠ 0 ∧ combiningClass b ≤ lastClass)
    (hhead : ∀ c ∈ s.head?, between ≠ [] → combiningClass c = 0 ∨ lastClass ≤ combiningClass c) :
    orderMarks (parts (composeAfter starter between lastClass s)) =
      orderMarks (decompose starter ++ (between.reverse ++ s)) := by
  induction s generalizing starter between lastClass with
  | nil =>
    have hbetween : ∀ b ∈ between.reverse, IsWhole b := fun b hb =>
      (hmarks b (List.mem_reverse.mp hb)).1
    rw [composeAfter, parts_cons, parts_of_whole hbetween, List.append_nil]
  | cons c s ih =>
    obtain ⟨hc, hwhole⟩ := List.forall_mem_cons.mp hwhole
    have htail : InOrder s := List.IsChain.tail hs
    have hnext : ∀ d ∈ s.head?, combiningClass d = 0 ∨ combiningClass c ≤ combiningClass d := by
      intro d hd
      obtain ⟨r, rfl⟩ := List.head?_eq_some_iff.mp hd
      exact (List.isChain_cons_cons.mp hs).1
    rw [composeAfter_cons]
    split
    next p hmeets =>
      obtain ⟨hpair, hfree⟩ := of_meets hmeets
      have hmove : ∀ b ∈ between.reverse,
          combiningClass b ≠ 0 ∧ combiningClass b < combiningClass c := by
        intro b hb
        obtain ⟨-, hb0, hle⟩ := hmarks b (List.mem_reverse.mp hb)
        have := hfree (List.ne_nil_of_mem (List.mem_reverse.mp hb))
        exact ⟨hb0, by omega⟩
      rw [ih htail hwhole hmarks fun d hd hne => ?_, (decompose_pair? hpair).1, List.append_assoc]
      · exact orderMarks_congr (orderMarks_move hmove)
      · have := hnext d hd
        have := hfree hne
        omega
    next hnone =>
      split
      next hzero =>
        have hrest : orderMarks (parts (composeAfter c [] 0 s)) = orderMarks (c :: s) := by
          rw [ih htail hwhole (by simp) (by simp), decompose_whole hc]
          rfl
        have hbetween : ∀ b ∈ between.reverse, IsWhole b := fun b hb =>
          (hmarks b (List.mem_reverse.mp hb)).1
        rw [List.cons_append, parts_cons, parts_append, parts_of_whole hbetween]
        exact orderMarks_congr (orderMarks_congr hrest)
      next hclass =>
        rw [ih htail hwhole ?_ fun d hd _ => hnext d hd]
        · simp
        · refine List.forall_mem_cons.mpr ⟨⟨hc, hclass, Nat.le_refl _⟩, fun b hb => ?_⟩
          obtain ⟨hb', hb0, hle⟩ := hmarks b hb
          have := hhead c rfl (List.ne_nil_of_mem hb)
          exact ⟨hb', hb0, by omega⟩

/-- Text that is composed comes apart into what it was composed of. -/
theorem parts_compose (hs : InOrder s) (hwhole : ∀ c ∈ s, IsWhole c) :
    orderMarks (parts (compose s)) = s := by
  induction s with
  | nil => rfl
  | cons c s ih =>
    obtain ⟨hc, hwhole'⟩ := List.forall_mem_cons.mp hwhole
    have htail : InOrder s := List.IsChain.tail hs
    rw [compose]
    split
    · rw [parts_composeAfter htail hwhole' (by simp) (by simp), decompose_whole hc]
      exact orderMarks_of_inOrder hs
    · rw [parts_cons, decompose_whole hc, orderMarks_append, ih htail hwhole']
      exact insertMark_of_inOrder hs

/-- The composed normal form of code points. -/
def normalPoints (l : List Nat) : List Nat := compose (orderMarks (parts l))

theorem mem_insertMark {x c : Nat} {l : List Nat} (h : x ∈ insertMark c l) : x = c ∨ x ∈ l := by
  induction l with
  | nil => exact .inl (List.mem_singleton.mp h)
  | cons d l ih =>
    rw [insertMark_cons] at h
    split at h
    · rcases List.mem_cons.mp h with rfl | h
      · exact .inr List.mem_cons_self
      · exact (ih h).imp_right (List.mem_cons_of_mem d)
    · exact List.mem_cons.mp h

theorem mem_orderMarks {x : Nat} {l : List Nat} (h : x ∈ orderMarks l) : x ∈ l := by
  induction l with
  | nil => exact h
  | cons c l ih =>
    rcases mem_insertMark h with rfl | h
    · exact List.mem_cons_self
    · exact List.mem_cons_of_mem c (ih h)

theorem isWhole_parts : ∀ x ∈ orderMarks (parts l), IsWhole x := by
  intro x hx
  obtain ⟨c, -, hc⟩ := List.mem_flatMap.mp (mem_orderMarks hx)
  exact (mem_decompose hc).1

/-- Taking a normal form apart gives what the text itself comes apart into. -/
theorem parts_normalPoints (l : List Nat) :
    orderMarks (parts (normalPoints l)) = orderMarks (parts l) :=
  parts_compose (inOrder_orderMarks _) isWhole_parts

theorem normalPoints_idem (l : List Nat) : normalPoints (normalPoints l) = normalPoints l :=
  congrArg compose (parts_normalPoints l)

end Composing

section Stops

variable {c x starter lastClass : Nat} {between l s u v : List Nat}

theorem ascii_unclassed : combiningClasses.all (fun p => Nat.ble 0x300 p.1.1) = true := by
  decide +kernel

theorem combiningClass_stop : combiningClass 0x2E = 0 := by
  have hnone : combiningClasses.find? (fun p => p.1.1 ≤ 0x2E && 0x2E ≤ p.1.2) = none := by
    refine List.find?_eq_none.mpr fun p hp => ?_
    have hlow := Nat.le_of_ble_eq_true (List.all_eq_true.mp ascii_unclassed p hp)
    simp only [Bool.and_eq_true, decide_eq_true_eq]
    omega
  rw [combiningClass, hnone]

theorem isWhole_stop : IsWhole 0x2E := by
  refine ⟨by decide, fun hmem => ?_⟩
  obtain ⟨a, b, hrow⟩ := exists_row hmem
  exact ((row_of_mem hrow).2.2.2 0x2E (by simp)).2.2 rfl

theorem meets_stop : meets starter between lastClass 0x2E = none := by
  unfold meets
  split
  · rfl
  · refine Option.eq_none_iff_forall_ne_some.mpr fun p hp => ?_
    exact (decompose_pair? hp).2.2 0x2E (by simp) rfl

theorem stop_meets : meets 0x2E between lastClass c = none := by
  unfold meets
  split
  · rfl
  · refine Option.eq_none_iff_forall_ne_some.mpr fun p hp => ?_
    exact (decompose_pair? hp).2.2 0x2E (by simp) rfl

/-- Nothing composes with a full stop before it. -/
theorem composeAfter_stop :
    composeAfter 0x2E between lastClass v = 0x2E :: between.reverse ++ compose v := by
  induction v generalizing between lastClass with
  | nil => rw [composeAfter, compose, List.append_nil]
  | cons c v ih =>
    rw [composeAfter_cons, stop_meets, compose]
    by_cases hc : combiningClass c = 0
    · simp only [if_pos hc]
    · simp only [if_neg hc, ih, List.reverse_cons, List.append_assoc, List.cons_append,
        List.nil_append]

theorem composeAfter_append_stop : composeAfter starter between lastClass (u ++ 0x2E :: v) =
    composeAfter starter between lastClass u ++ 0x2E :: compose v := by
  induction u generalizing starter between lastClass with
  | nil =>
    rw [List.nil_append, composeAfter_cons, meets_stop, composeAfter]
    simp only [combiningClass_stop, if_true]
    rw [composeAfter_stop]
    rfl
  | cons c u ih =>
    rw [List.cons_append, composeAfter_cons, composeAfter_cons]
    cases meets starter between lastClass c with
    | some p => exact ih
    | none =>
      simp only []
      split
      · rw [ih, List.append_assoc]
      · exact ih

theorem compose_append_stop : compose (u ++ 0x2E :: v) = compose u ++ 0x2E :: compose v := by
  induction u with
  | nil =>
    have hstart : compose (0x2E :: v) = composeAfter 0x2E [] 0 v := if_pos combiningClass_stop
    rw [List.nil_append, hstart, composeAfter_stop]
    rfl
  | cons c u ih =>
    rw [List.cons_append, compose, compose]
    split
    · exact composeAfter_append_stop
    · rw [ih, List.cons_append]

theorem normalPoints_append_stop :
    normalPoints (u ++ 0x2E :: v) = normalPoints u ++ 0x2E :: normalPoints v := by
  have hparts : parts (u ++ 0x2E :: v) = parts u ++ 0x2E :: parts v := by
    rw [parts_append, parts_cons, decompose_whole isWhole_stop]
    rfl
  rw [normalPoints, hparts, orderMarks_append_cons combiningClass_stop, compose_append_stop]
  rfl

/-- A character that comes about by composing or taking apart: it is valid, and no full stop. -/
def IsMade (x : Nat) : Prop := x.isValidChar ∧ x ≠ 0x2E

theorem mem_composeAfter (h : x ∈ composeAfter starter between lastClass s) :
    x ∈ starter :: (between ++ s) ∨ IsMade x := by
  induction s generalizing starter between lastClass with
  | nil => exact .inl (by simpa [composeAfter] using h)
  | cons c s ih =>
    rw [composeAfter_cons] at h
    split at h
    next p hmeets =>
      obtain ⟨-, hvalid, hstop⟩ := decompose_pair? (of_meets hmeets).1
      rcases ih h with h | h
      · rcases List.mem_cons.mp h with rfl | h
        · exact .inr ⟨hvalid, hstop x (by simp)⟩
        · left
          simp only [List.mem_cons, List.mem_append] at h ⊢
          tauto
      · exact .inr h
    next =>
      split at h
      · rcases List.mem_append.mp h with h | h
        · left
          simp only [List.mem_cons, List.mem_append, List.mem_reverse] at h ⊢
          tauto
        · rcases ih h with h | h
          · left
            simp only [List.mem_cons, List.mem_append, List.nil_append] at h ⊢
            tauto
          · exact .inr h
      · rcases ih h with h | h
        · left
          simp only [List.mem_cons, List.mem_append] at h ⊢
          tauto
        · exact .inr h

theorem mem_compose (h : x ∈ compose s) : x ∈ s ∨ IsMade x := by
  induction s with
  | nil => exact .inl h
  | cons c s ih =>
    rw [compose] at h
    split at h
    · simpa using mem_composeAfter h
    · rcases List.mem_cons.mp h with rfl | h
      · exact .inl List.mem_cons_self
      · exact (ih h).imp_left (List.mem_cons_of_mem c)

theorem mem_normalPoints (h : x ∈ normalPoints l) : x ∈ l ∨ IsMade x := by
  rcases mem_compose h with h | h
  · obtain ⟨c, hc, hx⟩ := List.mem_flatMap.mp (mem_orderMarks h)
    rcases (mem_decompose hx).2 with rfl | hmade
    · exact .inl hc
    · exact .inr hmade
  · exact .inr h

end Stops

section Text

variable {s t u v : List Char}

/-- No code point of a normal form is lost. -/
theorem map_normalForm (s : List Char) :
    (normalForm s).map Char.toNat = normalPoints (s.map Char.toNat) := by
  have hparts : (s.flatMap fun c => decompose c.toNat) = parts (s.map Char.toNat) := by
    rw [parts, List.flatMap_map]
  have hvalid : ∀ x ∈ normalPoints (s.map Char.toNat), (Text.Utf8.scalar? x).map Char.toNat = some x := by
    intro x hx
    have hx : x.isValidChar := by
      rcases mem_normalPoints hx with h | h
      · obtain ⟨c, -, rfl⟩ := List.mem_map.mp h
        exact c.valid
      · exact h.1
    have hsome : Text.Utf8.scalar? x = some (Char.ofNatAux x hx) := dif_pos hx
    rw [hsome, Option.map_some, Text.Utf8.toNat_of_scalar? hsome]
  rw [normalForm, hparts, ← normalPoints, List.map_filterMap]
  exact (List.filterMap_congr hvalid).trans List.filterMap_some

theorem map_toNat_inj (h : s.map Char.toNat = t.map Char.toNat) : s = t := by
  refine List.map_injective_iff.mpr (fun c d hcd => ?_) h
  exact Char.ext (UInt32.toNat_inj.mp hcd)

/-- A text in normal form is its own normal form. -/
theorem normalForm_idem (s : List Char) : normalForm (normalForm s) = normalForm s := by
  refine map_toNat_inj ?_
  rw [map_normalForm, map_normalForm, normalPoints_idem]

theorem normalForm_append_stop : normalForm (u ++ '.' :: v) = normalForm u ++ '.' :: normalForm v := by
  refine map_toNat_inj ?_
  rw [map_normalForm, List.map_append, List.map_cons, List.map_append, List.map_cons, map_normalForm,
    map_normalForm]
  exact normalPoints_append_stop

theorem stop_not_mem_normalForm (h : '.' ∉ s) : '.' ∉ normalForm s := by
  intro hmem
  have hpoint : 0x2E ∈ normalPoints (s.map Char.toNat) := by
    rw [← map_normalForm]
    exact List.mem_map.mpr ⟨'.', hmem, rfl⟩
  rcases mem_normalPoints hpoint with hs | hmade
  · obtain ⟨c, hc, hpoint⟩ := List.mem_map.mp hs
    obtain rfl : c = '.' := Char.ext (UInt32.toNat_inj.mp hpoint)
    exact h hc
  · exact hmade.2 rfl

/-- The parts of a normal form between its full stops are in normal form. -/
theorem normalForm_of_mem_pieces (h : normalForm s = s) : ∀ p ∈ Text.pieces '.' s, normalForm p = p := by
  induction hn : s.length using Nat.strongRecOn generalizing s with
  | ind n ih =>
    by_cases hstop : '.' ∈ s
    · obtain ⟨u, v, rfl, hu⟩ := List.eq_append_cons_of_mem hstop
      have hparts : normalForm u ++ '.' :: normalForm v = u ++ '.' :: v := by
        rw [← normalForm_append_stop, h]
      have hfirst : normalForm u = u := by
        have hpieces := congrArg (Text.pieces '.') hparts
        rw [Text.pieces_append_cons, Text.pieces_append_cons, Text.pieces_of_not_mem hu,
          Text.pieces_of_not_mem (stop_not_mem_normalForm hu)] at hpieces
        exact (List.cons.inj hpieces).1
      have hrest : normalForm v = v := by
        rw [hfirst] at hparts
        exact (List.cons.inj (List.append_cancel_left hparts)).2
      rw [Text.pieces_append_cons, Text.pieces_of_not_mem hu, List.singleton_append]
      refine List.forall_mem_cons.mpr ⟨hfirst, ih v.length ?_ hrest rfl⟩
      rw [← hn, List.length_append, List.length_cons]
      omega
    · rw [Text.pieces_of_not_mem hstop]
      simpa using h

end Text

end Killfile.Unicode

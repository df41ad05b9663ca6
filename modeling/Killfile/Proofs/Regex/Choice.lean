import Killfile.Proofs.CharSet
import Killfile.Proofs.Regex.Search
import Killfile.Regex.Size

/-! A choice matches what its branches match. Branches may become one set, and what they all begin with
may be matched before the choice, but neither changes a match. -/

namespace Killfile.Regex

variable {text : List Char} {a b : Regex} {l m : List Regex} {i j : Nat}

theorem le_length_of_turns {R : Nat → Nat → Prop} {n length : Nat}
    (h : ∀ i j, R i j → i ≤ length → j ≤ length) (ht : Turns R n i j) (hi : i ≤ length) :
    j ≤ length := by
  induction n generalizing i with
  | zero => exact ht ▸ hi
  | succ n ih =>
    obtain ⟨k, hk, ht⟩ := ht
    exact ih ht (h i k hk hi)

/-- No match ends behind the text. -/
theorem Matches.le_length (h : Matches text a i j) (hi : i ≤ text.length) : j ≤ text.length := by
  induction a generalizing i j with
  | nothing => exact h.1 ▸ hi
  | set s =>
    obtain ⟨rfl, c, hc, -⟩ := h
    exact (List.getElem?_eq_some_iff.mp hc).1
  | condition c => exact h.1 ▸ hi
  | seq a b iha ihb =>
    obtain ⟨k, ha, hb⟩ := h
    exact ihb hb (iha ha hi)
  | alt a b iha ihb => exact h.elim (iha · hi) (ihb · hi)
  | repetition min max a ih =>
    obtain ⟨n, -, -, ht⟩ := h
    exact le_length_of_turns (fun i j => ih) ht hi
  | capture a ih => exact ih h hi

theorem matches_andThen (hi : i ≤ text.length) :
    Matches text (a.andThen b) i j ↔ Matches text (.seq a b) i j := by
  unfold andThen
  split
  · simp [Matches, hi]
  · constructor
    · exact fun h => ⟨j, h, rfl, h.le_length hi⟩
    · rintro ⟨k, h, rfl, -⟩
      exact h
  · rfl

/-- Matches one after the other. -/
def Steps (text : List Char) : List Regex → Nat → Nat → Prop
  | [], i, j => i = j
  | a :: l, i, j => ∃ k, Matches text a i k ∧ Steps text l k j

theorem steps_append : Steps text (l ++ m) i j ↔ ∃ k, Steps text l i k ∧ Steps text m k j := by
  induction l generalizing i with
  | nil => simp [Steps]
  | cons a l ih =>
    simp only [List.cons_append, Steps, ih]
    constructor
    · rintro ⟨k, ha, n, hl, hm⟩
      exact ⟨n, ⟨k, ha, hl⟩, hm⟩
    · rintro ⟨n, ⟨k, ha, hl⟩, hm⟩
      exact ⟨k, ha, n, hl, hm⟩

theorem matches_sequence (hi : i ≤ text.length) :
    Matches text (sequence l) i j ↔ Steps text l i j := by
  induction l generalizing i with
  | nil => simp [sequence, Matches, Steps, hi]
  | cons a l ih =>
    change Matches text (a.andThen (sequence l)) i j ↔ _
    rw [matches_andThen hi]
    exact exists_congr fun k => and_congr_right fun ha => ih (ha.le_length hi)

theorem steps_parts (hi : i ≤ text.length) : Steps text a.parts i j ↔ Matches text a i j := by
  induction a generalizing i j with
  | nothing => simp [parts, Steps, Matches, hi]
  | seq a b iha ihb =>
    rw [parts, steps_append]
    refine exists_congr fun k => ?_
    rw [iha hi]
    exact and_congr_right fun ha => ihb (ha.le_length hi)
  | _ => simp [parts, Steps]

theorem matches_branches : Matches text a i j ↔ ∃ b ∈ a.branches, Matches text b i j := by
  induction a generalizing i j with
  | alt a b iha ihb => simp only [Matches, branches, List.mem_append, or_and_right, exists_or, iha, ihb]
  | _ => simp [branches]

theorem exists_mem_flatMap_branches :
    (∃ b ∈ l.flatMap branches, Matches text b i j) ↔ ∃ a ∈ l, Matches text a i j := by
  simp only [List.mem_flatMap]
  constructor
  · rintro ⟨b, ⟨a, ha, hb⟩, h⟩
    exact ⟨a, ha, matches_branches.mpr ⟨b, hb, h⟩⟩
  · rintro ⟨a, ha, h⟩
    obtain ⟨b, hb, h⟩ := matches_branches.mp h
    exact ⟨b, ⟨a, ha, hb⟩, h⟩

theorem matches_oneOf : Matches text (oneOf l) i j ↔ ∃ a ∈ l, Matches text a i j := by
  fun_induction oneOf l with
  | case1 => simp [Matches, CharSet.contains, CharSet.empty]
  | case2 a => simp
  | case3 a rest _ ih => simp [Matches, ih]

theorem exists_set_of_isLetter (h : a.isLetter = true) : ∃ s, a = .set s := by
  cases a with
  | set s => exact ⟨s, rfl⟩
  | _ => cases h

theorem exists_set_of_isSome (h : a.set?.isSome = true) : ∃ s, a = .set s := by
  cases a with
  | set s => exact ⟨s, rfl⟩
  | _ => cases h

/-- Sets match together what the union of their members matches. -/
theorem matches_unions (h : ∀ a ∈ l, ∃ s, a = .set s) :
    Matches text (.set (.unions (l.filterMap set?))) i j ↔ ∃ a ∈ l, Matches text a i j := by
  simp only [Matches, CharSet.contains_unions, List.mem_filterMap]
  constructor
  · rintro ⟨rfl, c, hc, s, ⟨a, ha, hs⟩, hcs⟩
    obtain ⟨s', rfl⟩ := h a ha
    obtain rfl := Option.some.inj hs
    exact ⟨_, ha, rfl, c, hc, hcs⟩
  · rintro ⟨a, ha, hij⟩
    obtain ⟨s, rfl⟩ := h a ha
    obtain ⟨rfl, c, hc, hcs⟩ := hij
    exact ⟨rfl, c, hc, s, ⟨_, ha, rfl⟩, hcs⟩

theorem matches_joined : Matches text (joined l) i j ↔ ∃ a ∈ l, Matches text a i j := by
  unfold joined
  split
  · next h =>
    simp only [Bool.or_eq_true, List.all_eq_true, Bool.and_eq_true] at h
    refine matches_unions fun a ha => h.elim (fun hl => ?_) fun hs => ?_
    · exact exists_set_of_isLetter (hl a ha)
    · exact exists_set_of_isSome (hs a ha).1
  · exact matches_oneOf

theorem flatten_runs : (runs l).flatten = l := by
  fun_induction runs l with
  | case1 => rfl
  | case2 a rest b run more hrest _ ih =>
    rw [hrest] at ih
    simp [← ih]
  | case3 a rest b run more hrest _ ih =>
    rw [hrest] at ih
    simp [← ih]
  | case4 a rest _ ih => simp [ih]

theorem commonStart_isPrefix (l m : List (List Regex)) :
    commonStart l m <+: l ∧ commonStart l m <+: m := by
  fun_induction commonStart l m with
  | case1 a l b m h ih =>
    obtain ⟨rfl, -⟩ := h
    exact ⟨List.cons_prefix_cons.mpr ⟨rfl, ih.1⟩, List.cons_prefix_cons.mpr ⟨rfl, ih.2⟩⟩
  | case2 => exact ⟨List.nil_prefix, List.nil_prefix⟩
  | case3 => exact ⟨List.nil_prefix, List.nil_prefix⟩

theorem foldl_commonStart_isPrefix (first : List (List Regex)) (rest : List (List (List Regex))) :
    ∀ r ∈ first :: rest, rest.foldl commonStart first <+: r := by
  induction rest generalizing first with
  | nil => simp
  | cons r rest ih =>
    obtain ⟨hfirst, hr⟩ := commonStart_isPrefix first r
    have hstart := ih (commonStart first r) _ List.mem_cons_self
    intro q hq
    rcases List.mem_cons.mp hq with rfl | hq
    · exact hstart.trans hfirst
    · rcases List.mem_cons.mp hq with rfl | hq
      · exact hstart.trans hr
      · exact ih _ q (List.mem_cons_of_mem _ hq)

/-- What is shared comes first in every branch. -/
theorem sharedStart_isPrefix (h : a ∈ l) : (sharedStart l).flatten <+: a.parts := by
  have hruns : runs a.parts ∈ l.map fun a => runs a.parts := List.mem_map_of_mem h
  have hstart : sharedStart l <+: runs a.parts := by
    unfold sharedStart
    split
    · exact List.nil_prefix
    · next first rest hl =>
      split
      · exact foldl_commonStart_isPrefix first rest _ (hl ▸ hruns)
      · exact List.nil_prefix
  obtain ⟨rest, hrest⟩ := hstart
  exact ⟨rest.flatten, by rw [← List.flatten_append, hrest, flatten_runs]⟩

/-- Behind what is shared, a branch goes on with the parts that are left of it. -/
theorem steps_drop {start : List Regex} (h : start <+: a.parts) (hi : i ≤ text.length) :
    (∃ k, Steps text start i k ∧ Steps text (a.parts.drop start.length) k j) ↔
      Matches text a i j := by
  obtain ⟨rest, hrest⟩ := h
  rw [← steps_parts hi, ← hrest, List.drop_left, steps_append]

/-- A choice matches what one of its branches matches. -/
theorem matches_choice (hi : i ≤ text.length) :
    Matches text (choice l) i j ↔ ∃ a ∈ l, Matches text a i j := by
  rw [← exists_mem_flatMap_branches, choice]
  generalize l.flatMap branches = l'
  split
  · exact matches_joined
  · rw [matches_andThen hi]
    constructor
    · rintro ⟨k, hstart, h⟩
      have hk := hstart.le_length hi
      rw [matches_joined, exists_mem_flatMap_branches] at h
      obtain ⟨b, hb, h⟩ := h
      obtain ⟨a, ha, rfl⟩ := List.mem_map.mp hb
      exact ⟨a, ha, (steps_drop (sharedStart_isPrefix ha) hi).mp
        ⟨k, (matches_sequence hi).mp hstart, (matches_sequence hk).mp h⟩⟩
    · rintro ⟨a, ha, h⟩
      obtain ⟨k, hstart, h⟩ := (steps_drop (sharedStart_isPrefix ha) hi).mpr h
      have hstart := (matches_sequence hi).mpr hstart
      refine ⟨k, hstart, ?_⟩
      rw [matches_joined, exists_mem_flatMap_branches]
      exact ⟨_, List.mem_map_of_mem ha, (matches_sequence (hstart.le_length hi)).mpr h⟩

/-- Two letters are one set, so there is room for a long row of them. -/
example : (times 100000 (some 100000)
    (choice [.set (.singleton 'a'), .set (.singleton 'b')])).fits = true := by
  have hset : CharSet.unions [.singleton 'a', .singleton 'b'] = ⟨[(97, 98)]⟩ :=
    (CharSet.ofRanges_of_pairwise (by decide) (by decide)).trans
      (by simp [CharSet.singleton, CharSet.join])
  have hchoice : choice [.set (.singleton 'a'), .set (.singleton 'b')] =
      .set (.unions [.singleton 'a', .singleton 'b']) := rfl
  rw [hchoice, hset]
  decide +kernel

end Killfile.Regex

import Killfile.Json
import Killfile.Proofs.Url.Domain

/-! Records from the members of objects. What a record comes to depends on the members that have the names
of its fields, one by one: neither on their order nor on other members. -/

namespace Killfile.Json

/-- Members of an object. A key is absent when it is no text. -/
abbrev Members := List (Option String × Json)

/-- Two objects differ in the order of their members, in members of other names than those given, and
in the values of members as far as is allowed for their names. -/
inductive Alike (names : List String) (within : String → Json → Json → Prop) : Members → Members → Prop
  | order {ms ns : Members} (perm : ms.Perm ns) : Alike names within ms ns
  | unknown {before after : Members} {name : String} {v : Json} (unknown : name ∉ names) :
      Alike names within (before ++ (some name, v) :: after) (before ++ after)
  | within {before after : Members} {name : String} {v w : Json} (alike : within name v w) :
      Alike names within (before ++ (some name, v) :: after) (before ++ (some name, w) :: after)
  | symm {ms ns : Members} (alike : Alike names within ms ns) : Alike names within ns ms
  | trans {ms ns ps : Members} (first : Alike names within ms ns) (second : Alike names within ns ps) :
      Alike names within ms ps

/-- The members of one name. -/
def named (ms : Members) (name : String) : Members := ms.filter fun m => m.1 = some name

/-- All keys are texts. -/
def Keyed (ms : Members) : Prop := ∀ m ∈ ms, m.1 ≠ none

/-- The members give a field: one has its name, and what the value of that one comes to. -/
inductive States {α : Type} (ms : Members) (name : String) (value : Json → Option α) : α → Prop
  | intro {v : Json} {a : α} (once : named ms name = [(some name, v)])
      (read : value v = some a) : States ms name value a

/-- The members give a field, or there is none of its name and the field has another value. -/
inductive StatesOr {α : Type} (ms : Members) (name : String) (default : α) (value : Json → Option α) :
    α → Prop
  | given {a : α} (given : States ms name value a) : StatesOr ms name default value a
  | absent (absent : ∀ v, (some name, v) ∉ ms) : StatesOr ms name default value default

/-- A field of records: its name, whether it has to be given, and the values that it can have. -/
structure Field where
  name : String
  required : Bool
  admits : Json → Prop

/-- A field that has to be given. -/
def Field.needed {α : Type} (name : String) (value : Json → Option α) : Field :=
  ⟨name, true, fun v => (value v).isSome⟩

/-- A field with a value of its own if it is not given. -/
def Field.spared {α : Type} (name : String) (value : Json → Option α) : Field :=
  ⟨name, false, fun v => (value v).isSome⟩

/-- Members from which the fields of a record can be read. -/
structure Fits (fields : List Field) (ms : Members) : Prop where
  keyed : Keyed ms
  given : ∀ f ∈ fields, f.required = true → ∃ v, (some f.name, v) ∈ ms
  once : ∀ f ∈ fields, (ms.map Prod.fst).count (some f.name) ≤ 1
  admitted : ∀ f ∈ fields, ∀ v, (some f.name, v) ∈ ms → f.admits v

section Fields

variable {α : Type} {names : List String} {members : List (Option String × Json)}
  {fields : List (String × Json)} {name : String} {value : Json → Option α} {a default : α}
  {ms ns : Members} {within : String → Json → Json → Prop}

theorem record?_object_eq_some_iff : (object members).record? names = some fields ↔
    members = fields.map fun p => (some p.1, p.2) := by
  have hmember : ∀ (p : Option String × Json) (q : String × Json),
      (p.1.map fun k => (k, p.2)) = some q ↔ p = (some q.1, q.2) := by
    rintro ⟨_ | k, v⟩ ⟨k', v'⟩ <;> simp
  rw [record?, Url.mapM_eq_some_iff]
  simp only [hmember]
  rw [← List.forall₂_map_right_iff, List.forall₂_eq_eq_eq]

theorem required?_eq_some_iff : required? fields name value = some a ↔
    ∃ v, fields.filter (fun p => p.1 = name) = [(name, v)] ∧ value v = some a := by
  have hname : ∀ p ∈ fields.filter (fun p => p.1 = name), p.1 = name := fun p hp => by
    simpa using (List.mem_filter.mp hp).2
  unfold required? field?
  split
  next h => simp [h]
  next p h =>
    obtain ⟨k, v⟩ := p
    obtain rfl : k = name := hname (k, v) (h ▸ List.mem_singleton_self _)
    cases hv : value v <;> simp [h, hv]
  next hnil hone =>
    simp only [Option.bind_none, reduceCtorEq, false_iff]
    rintro ⟨v, h, -⟩
    exact hone _ h

theorem exists_record?_iff (names : List String) :
    (∃ fields, (object ms).record? names = some fields) ↔ Keyed ms := by
  simp only [record?_object_eq_some_iff]
  constructor
  · rintro ⟨fields, rfl⟩ m hm
    obtain ⟨p, -, rfl⟩ := List.mem_map.mp hm
    simp
  · intro h
    induction ms with
    | nil => exact ⟨[], rfl⟩
    | cons m ms ih =>
      obtain ⟨hm, hms⟩ := List.forall_mem_cons.mp h
      obtain ⟨k, hk⟩ := Option.ne_none_iff_exists'.mp hm
      obtain ⟨fields, rfl⟩ := ih hms
      exact ⟨(k, m.2) :: fields, by simp [← hk]⟩

theorem mem_named {m : Option String × Json} : m ∈ named ms name ↔ m ∈ ms ∧ m.1 = some name := by
  simp [named]

theorem named_append (ms ns : Members) (name : String) :
    named (ms ++ ns) name = named ms name ++ named ns name := List.filter_append ..

theorem named_cons (k : Option String) (v : Json) (ms : Members) (name : String) :
    named ((k, v) :: ms) name = if k = some name then (k, v) :: named ms name else named ms name := by
  simp [named, List.filter_cons]

theorem absent_iff : (∀ v, (some name, v) ∉ ms) ↔ named ms name = [] := by
  rw [named, List.filter_eq_nil_iff]
  simp only [decide_eq_true_eq, Prod.forall]
  exact ⟨fun h k v hv hk => h v (hk ▸ hv), fun h v hv => h _ v hv rfl⟩

theorem states_iff : States ms name value a ↔ ∃ v, named ms name = [(some name, v)] ∧ value v = some a :=
  ⟨fun ⟨once, read⟩ => ⟨_, once, read⟩, fun ⟨_, once, read⟩ => ⟨once, read⟩⟩

theorem statesOr_iff : StatesOr ms name default value a ↔
    States ms name value a ∨ named ms name = [] ∧ a = default := by
  rw [← absent_iff]
  constructor
  · rintro (h | h)
    · exact .inl h
    · exact .inr ⟨h, rfl⟩
  · rintro (h | ⟨h, rfl⟩)
    · exact .given h
    · exact .absent h

/-- The members of a name, with keys that are texts. -/
theorem named_map (fields : List (String × Json)) (name : String) :
    named (fields.map fun p => (some p.1, p.2)) name =
      (fields.filter fun p => p.1 = name).map fun p => (some p.1, p.2) := by
  rw [named, List.filter_map]
  congr 2
  funext p
  simp

theorem required?_iff_states (h : (object ms).record? names = some fields) :
    required? fields name value = some a ↔ States ms name value a := by
  obtain rfl := record?_object_eq_some_iff.mp h
  rw [required?_eq_some_iff, states_iff, named_map]
  simp only [List.map_eq_singleton_iff, Prod.mk.injEq, Option.some.injEq]
  constructor
  · rintro ⟨v, hv, ha⟩
    exact ⟨v, ⟨_, hv, rfl, rfl⟩, ha⟩
  · rintro ⟨v, ⟨⟨k, w⟩, hv, rfl, rfl⟩, ha⟩
    exact ⟨w, hv, ha⟩

/-- A field that may be left out is read like one that has to be given, if there is a member for it. -/
theorem optional?_eq_some_iff : optional? fields name default value = some a ↔
    required? fields name value = some a ∨ fields.filter (fun p => p.1 = name) = [] ∧ a = default := by
  unfold optional? required? field?
  split
  next h =>
    rw [h]
    simp [eq_comm]
  next h =>
    rw [h]
    cases value _ <;> simp
  next hnil hone =>
    simp only [Option.map_none, Option.bind_none, reduceCtorEq, false_or, false_iff, not_and]
    exact fun h => absurd h hnil

theorem optional?_iff_statesOr (h : (object ms).record? names = some fields) :
    optional? fields name default value = some a ↔ StatesOr ms name default value a := by
  rw [optional?_eq_some_iff, statesOr_iff, required?_iff_states h]
  obtain rfl := record?_object_eq_some_iff.mp h
  rw [named_map, List.map_eq_nil_iff]

/-- Members of one name, counted. -/
theorem count_keys (ms : Members) (name : String) :
    (ms.map Prod.fst).count (some name) = (named ms name).length := by
  rw [List.count_eq_countP, List.countP_map, List.countP_eq_length_filter, named]
  congr 2
  funext m
  exact Bool.beq_eq_decide_eq _ _

theorem exists_states_iff : (∃ a, States ms name value a) ↔ (∃ v, (some name, v) ∈ ms) ∧
    (ms.map Prod.fst).count (some name) ≤ 1 ∧ ∀ v, (some name, v) ∈ ms → (value v).isSome := by
  have hmem : ∀ v, (some name, v) ∈ ms ↔ (some name, v) ∈ named ms name := by simp [mem_named]
  have hname : ∀ m ∈ named ms name, m.1 = some name := fun m hm => (mem_named.mp hm).2
  simp only [states_iff, count_keys, hmem]
  match named ms name, hname with
  | [], _ => simp
  | [(k, v)], hname =>
    obtain rfl : k = some name := hname _ List.mem_cons_self
    simp [Option.isSome_iff_exists]
  | _ :: _ :: _, _ => simp

theorem exists_statesOr_iff : (∃ a, StatesOr ms name default value a) ↔
    (ms.map Prod.fst).count (some name) ≤ 1 ∧ ∀ v, (some name, v) ∈ ms → (value v).isSome := by
  by_cases h : ∀ v, (some name, v) ∉ ms
  · have hcount : (ms.map Prod.fst).count (some name) = 0 := by
      rw [count_keys, absent_iff.mp h, List.length_nil]
    exact ⟨fun _ => ⟨hcount.trans_le (Nat.zero_le 1), fun v hv => absurd hv (h v)⟩,
      fun _ => ⟨_, .absent h⟩⟩
  · have hgiven : ∃ v, (some name, v) ∈ ms := by simpa using h
    simp only [statesOr_iff, ← absent_iff, h, false_and, or_false, exists_states_iff, hgiven, true_and]

/-- Two objects give the same for a field. -/
structure StatesSame (ms ns : Members) (name : String) (value : Json → Option α) : Prop where
  states : ∀ a, States ms name value a ↔ States ns name value a
  absent : (∀ v, (some name, v) ∉ ms) ↔ ∀ v, (some name, v) ∉ ns

theorem StatesSame.of_perm (h : (named ms name).Perm (named ns name)) : StatesSame ms ns name value where
  states a := by
    simp only [states_iff, ← List.perm_singleton]
    exact exists_congr fun v => and_congr_left' ⟨h.symm.trans, h.trans⟩
  absent := by
    rw [absent_iff, absent_iff, ← List.perm_nil, ← List.perm_nil]
    exact ⟨h.symm.trans, h.trans⟩

/-- The value of a member is exchanged for one that comes to the same. -/
theorem StatesSame.replace {before after : Members} {key : String} {v w : Json}
    (h : key = name → value v = value w) :
    StatesSame (before ++ (some key, v) :: after) (before ++ (some key, w) :: after) name value := by
  by_cases hkey : key = name
  · subst hkey
    have hnamed : ∀ x, named (before ++ (some key, x) :: after) key =
        named before key ++ (some key, x) :: named after key := by simp [named_append, named_cons]
    have honly : ∀ x y, named (before ++ (some key, x) :: after) key = [(some key, y)] ↔
        (named before key = [] ∧ named after key = []) ∧ x = y := by
      intro x y
      rw [hnamed]
      cases named before key <;> simp [and_comm]
    constructor
    · simp [states_iff, honly, h rfl]
    · rw [absent_iff, absent_iff, hnamed, hnamed]
      simp
  · exact .of_perm (by simp [named_append, named_cons, hkey])

theorem Alike.statesSame (h : Alike names within ms ns) (hname : name ∈ names)
    (hwithin : ∀ v w, within name v w → value v = value w) : StatesSame ms ns name value := by
  induction h with
  | order perm => exact .of_perm (perm.filter _)
  | @unknown before after key v unknown =>
    have hkey : key ≠ name := fun h => unknown (h ▸ hname)
    exact .of_perm (by simp [named_append, named_cons, hkey])
  | within alike => exact .replace fun hkey => hwithin _ _ (hkey ▸ alike)
  | symm _ ih => exact ⟨fun a => (ih.states a).symm, ih.absent.symm⟩
  | trans _ _ ih ih' => exact ⟨fun a => (ih.states a).trans (ih'.states a), ih.absent.trans ih'.absent⟩

theorem Alike.keyed_iff (h : Alike names within ms ns) : Keyed ms ↔ Keyed ns := by
  induction h with
  | order perm => exact forall_congr' fun m => by rw [perm.mem_iff]
  | unknown => simp [Keyed, or_imp, forall_and]
  | within => simp [Keyed, or_imp, forall_and]
  | symm _ ih => exact ih.symm
  | trans _ _ ih ih' => exact ih.trans ih'

theorem Alike.states (h : Alike names within ms ns) (hname : name ∈ names)
    (hwithin : ∀ v w, within name v w → value v = value w) (hstates : States ms name value a) :
    States ns name value a :=
  ((h.statesSame hname hwithin).states a).mp hstates

theorem Alike.statesOr (h : Alike names within ms ns) (hname : name ∈ names)
    (hwithin : ∀ v w, within name v w → value v = value w) (hstates : StatesOr ms name default value a) :
    StatesOr ns name default value a := by
  have hsame := h.statesSame hname hwithin
  cases hstates with
  | given hstates => exact .given ((hsame.states a).mp hstates)
  | absent habsent => exact .absent (hsame.absent.mp habsent)

/-- What members have to be for a field to be read. -/
def Field.HeldBy (f : Field) (ms : Members) : Prop :=
  (f.required = true → ∃ v, (some f.name, v) ∈ ms) ∧ (ms.map Prod.fst).count (some f.name) ≤ 1 ∧
    ∀ v, (some f.name, v) ∈ ms → f.admits v

theorem needed_heldBy : (Field.needed name value).HeldBy ms ↔ ∃ a, States ms name value a := by
  simp [Field.HeldBy, Field.needed, exists_states_iff]

theorem spared_heldBy :
    (Field.spared name value).HeldBy ms ↔ ∃ a, StatesOr ms name default value a := by
  simp [Field.HeldBy, Field.spared, exists_statesOr_iff]

theorem fits_iff {fs : List Field} : Fits fs ms ↔ Keyed ms ∧ ∀ f ∈ fs, f.HeldBy ms :=
  ⟨fun h => ⟨h.keyed, fun f hf => ⟨h.given f hf, h.once f hf, h.admitted f hf⟩⟩,
    fun ⟨hkeyed, h⟩ => ⟨hkeyed, fun f hf => (h f hf).1, fun f hf => (h f hf).2.1, fun f hf => (h f hf).2.2⟩⟩

end Fields

/-- Objects are decoded by the names of their members. Objects that are alike come to the same, and what
they come to is told by their members. They come to something if the members fit the fields, and to
nothing else. -/
structure GoesByNames {α : Type} (fields : List Field) (within : String → Json → Json → Prop)
    (told : Members → α → Prop) (ofJson? : Json → Option α) : Prop where
  alike : ∀ {ms ns}, Alike (fields.map Field.name) within ms ns →
    ofJson? (.object ms) = ofJson? (.object ns)
  decoded : ∀ {ms x}, ofJson? (.object ms) = some x ↔ Keyed ms ∧ told ms x
  decodes : ∀ {ms}, (ofJson? (.object ms)).isSome = true ↔ Fits fields ms

theorem GoesByNames.of_told {α : Type} {fields : List Field} {within : String → Json → Json → Prop}
    {told : Members → α → Prop} {ofJson? : Json → Option α}
    (decoded : ∀ ms x, ofJson? (.object ms) = some x ↔ Keyed ms ∧ told ms x)
    (alike : ∀ {ms ns x}, Alike (fields.map Field.name) within ms ns → told ms x → told ns x)
    (held : ∀ ms, (∃ x, told ms x) ↔ ∀ f ∈ fields, f.HeldBy ms) :
    GoesByNames fields within told ofJson? where
  alike h := by
    refine Option.ext fun x => ?_
    rw [decoded, decoded, h.keyed_iff]
    exact and_congr_right' ⟨alike h, alike h.symm⟩
  decoded := decoded _ _
  decodes := by
    intro ms
    simp only [Option.isSome_iff_exists, decoded, fits_iff, exists_and_left, held]

end Killfile.Json

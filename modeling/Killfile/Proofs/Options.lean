import Killfile.CommandLine
import Killfile.Proofs.Line

/-! The grammar of command lines. A command line that is accepted is made of options before its
command and options after it, in one way alone. What an option means is told by its value on either
side and by its environment variable. -/

namespace Killfile

namespace CommandLine

/-- A text that may be the value of the option before it: nothing that begins like an option. -/
def IsValue (v : String) : Prop := v = "-" ∨ v.toList.head? ≠ some '-'

/-- The ways to write an option. Its value is the next argument, or follows an equals sign, or follows
the letter of the option. -/
inductive Written (scope : Scope) : List String → Opt × String → Prop
  | apart {o : Opt} {name value : String} (known : o ∈ scope.options) (takes : o.takesValue = true)
      (named : name ∈ o.names) (plain : IsValue value) :
      Written scope ["--" ++ name, value] (o, value)
  | joined {o : Opt} {name value : String} (known : o ∈ scope.options) (takes : o.takesValue = true)
      (named : name ∈ o.names) : Written scope ["--" ++ name ++ "=" ++ value] (o, value)
  | flag {o : Opt} {name : String} (known : o ∈ scope.options) (takes : o.takesValue = false)
      (wanted : o ≠ .help) (named : name ∈ o.names) : Written scope ["--" ++ name] (o, "true")
  | letterApart {o : Opt} {c : Char} {value : String} (known : o ∈ scope.options)
      (takes : o.takesValue = true) (letter : o.letter? = some c) (plain : IsValue value) :
      Written scope ["-" ++ String.singleton c, value] (o, value)
  | letterJoined {o : Opt} {c : Char} {value : String} (known : o ∈ scope.options)
      (takes : o.takesValue = true) (letter : o.letter? = some c) :
      Written scope ["-" ++ String.singleton c ++ "=" ++ value] (o, value)
  | letterAttached {o : Opt} {c : Char} {value : String} (known : o ∈ scope.options)
      (takes : o.takesValue = true) (letter : o.letter? = some c) (nonempty : value ≠ "")
      (unmarked : value.toList.head? ≠ some '=') :
      Written scope ["-" ++ String.singleton c ++ value] (o, value)

/-- Arguments that spell options, one after the other. -/
inductive Spells (scope : Scope) : List String → List (Opt × String) → Prop
  | nil : Spells scope [] []
  | cons {piece rest : List String} {p : Opt × String} {ps : List (Opt × String)}
      (first : Written scope piece p) (tail : Spells scope rest ps) :
      Spells scope (piece ++ rest) (p :: ps)

/-- A command line with its command, and with the options before the command and after it. At the end
may stand the mark that ends options. -/
def Spelled (args : List String) (scope : Scope) (before after : List (Opt × String)) : Prop :=
  ∃ l c r mark, args = l ++ c :: (r ++ mark) ∧ (mark = [] ∨ mark = ["--"]) ∧
    Scope.ofCommand? c = some scope ∧ Spells .top l before ∧ Spells scope r after

namespace Given

/-- The options with values, the one that has not been taken up included. -/
def all (g : Given) : List (Opt × String) :=
  g.values ++ match g.pending with
    | some (o, some v) => [(o, v)]
    | _ => []

variable {g g' : Given} {o : Opt} {v : String} {value : Option String}

theorem take_ok (h : g.take o v = .ok g') : g' = ⟨g.values ++ [(o, v)], none⟩ := by
  unfold take at h
  split at h
  · cases h
  · split at h
    · cases h
    · exact (Except.ok.inj h).symm

theorem settle_ok (h : g.settle = .ok g') : g.wanting = none ∧ g' = ⟨g.all, none⟩ := by
  obtain ⟨values, pending⟩ := g
  match pending, h with
  | none, h =>
    obtain rfl := Except.ok.inj h
    exact ⟨rfl, by simp [all]⟩
  | some (o, none), h => cases h
  | some (o, some v), h => exact ⟨rfl, take_ok h⟩

theorem wanting_value (h : g.wanting = some o) :
    ({ g with pending := some (o, some v) } : Given).wanting = none ∧
      ({ g with pending := some (o, some v) } : Given).all = g.all ++ [(o, v)] := by
  obtain ⟨values, pending⟩ := g
  match pending, h with
  | some (_, none), _ => exact ⟨rfl, by simp [all]⟩

/-- What is known of the options after one more has been named. -/
theorem name_ok (h : g.name o value = .ok g') : g.wanting = none ∧
    ((o.takesValue = true ∧ ∃ v, value = some v ∧ g'.wanting = none ∧ g'.all = g.all ++ [(o, v)]) ∨
      (o.takesValue = true ∧ value = none ∧ g'.wanting = some o ∧ g'.all = g.all) ∨
      (o.takesValue = false ∧ value = none ∧ o ≠ .help ∧ g'.wanting = none ∧
        g'.all = g.all ++ [(o, "true")])) := by
  unfold name at h
  cases hsettle : g.settle with
  | error e =>
    rw [hsettle] at h
    cases htakes : o.takesValue <;> cases value <;> simp [htakes, bind, Except.bind] at h
  | ok g₁ =>
    obtain ⟨hwanting, rfl⟩ := settle_ok hsettle
    refine ⟨hwanting, ?_⟩
    cases htakes : o.takesValue with
    | true =>
      cases value with
      | some v =>
        have hg' : (⟨g.all, none⟩ : Given).take o v = .ok g' := by
          simpa [htakes, hsettle, bind, Except.bind] using h
        obtain rfl := take_ok hg'
        exact .inl ⟨rfl, v, rfl, rfl, by simp [all]⟩
      | none =>
        have hg' : (⟨g.all, some (o, none)⟩ : Given) = g' := by
          simpa [htakes, hsettle, bind, Except.bind, pure, Except.pure] using h
        obtain rfl := hg'
        exact .inr (.inl ⟨rfl, rfl, rfl, by simp [all]⟩)
    | false =>
      cases value with
      | some v => simp [htakes, bind, Except.bind, throw, throwThe, MonadExceptOf.throw] at h
      | none =>
        by_cases hhelp : o = .help
        · subst hhelp
          simp [Opt.takesValue, hsettle, bind, Except.bind, throw, throwThe, MonadExceptOf.throw] at h
        · have hg' : (⟨g.all, none⟩ : Given).take o "true" = .ok g' := by
            simpa [htakes, hsettle, hhelp, bind, Except.bind] using h
          obtain rfl := take_ok hg'
          exact .inr (.inr ⟨rfl, rfl, hhelp, rfl, by simp [all]⟩)

end Given

/-- What reading one argument that begins like an option leaves: an option with its value is there
as well, or an option is named that wants the argument after it as its value. -/
def Reads (scope : Scope) (a : String) (g g' : Given) : Prop :=
  g.wanting = none ∧
    ((∃ p, Written scope [a] p ∧ g'.wanting = none ∧ g'.all = g.all ++ [p]) ∨
      ∃ o, g'.wanting = some o ∧ g'.all = g.all ∧ ∀ v, IsValue v → Written scope [a, v] (o, v))

section Arguments

theorem ok_of_bind {α β : Type} {x : Except UsageError α} {f : α → Except UsageError β} {b : β}
    (h : x.bind f = .ok b) : ∃ y, x = .ok y ∧ f y = .ok b := by
  cases x with
  | error e => cases h
  | ok y => exact ⟨y, rfl, h⟩

variable {scope : Scope} {g g' : Given} {a : String} {args : List String}

/-- A split at the first equals sign, seen from the text that it splits. -/
theorem splitValue_eq {s : List Char} : splitValue s =
    (.ofList (s.takeWhile (· != '=')), (s.dropWhile (· != '=')).tail?.map String.ofList) := rfl

theorem eq_of_splitValue {s : List Char} {name : String} {value : Option String}
    (h : splitValue s = (name, value)) :
    s = name.toList ++ value.elim [] fun v => '=' :: v.toList := by
  obtain ⟨hs, -, hhead⟩ := span_iff (p := (· != '=')) (s := s).mp ⟨rfl, rfl⟩
  rw [splitValue_eq, Prod.mk.injEq] at h
  obtain ⟨rfl, rfl⟩ := h
  cases hrest : s.dropWhile (· != '=') with
  | nil => simpa [hrest] using hs
  | cons c v =>
    have hc : c = '=' := by simpa [hrest] using hhead
    subst hc
    simpa [hrest] using hs

theorem splitValue_of_name {name : String} (h : '=' ∉ name.toList) :
    splitValue name.toList = (name, none) := by
  have hplain : ∀ c ∈ name.toList, (c != '=') = true := by
    intro c hc
    simpa using fun he : c = '=' => h (he ▸ hc)
  obtain ⟨htake, hdrop⟩ := span_iff (y := []).mpr ⟨(List.append_nil _).symm, hplain, by simp⟩
  rw [splitValue_eq, htake, hdrop]
  simp

theorem splitValue_of_value {name value : String} (h : '=' ∉ name.toList) :
    splitValue (name.toList ++ '=' :: value.toList) = (name, some value) := by
  have hplain : ∀ c ∈ name.toList, (c != '=') = true := by
    intro c hc
    simpa using fun he : c = '=' => h (he ▸ hc)
  obtain ⟨htake, hdrop⟩ := span_iff (y := '=' :: value.toList).mpr ⟨rfl, hplain, by simp⟩
  rw [splitValue_eq, htake, hdrop]
  simp

/-- Names of options tell them apart. -/
theorem find?_name {o : Opt} {name : String} (known : o ∈ scope.options) (named : name ∈ o.names) :
    (scope.options.find? fun o => name ∈ o.names) = some o := by
  cases scope <;> cases o <;> simp_all [Scope.options, Opt.shared, Opt.names]
  grind

theorem find?_letter {o : Opt} {c : Char} (known : o ∈ scope.options) (letter : o.letter? = some c) :
    (scope.options.find? fun o => o.letter? = some c) = some o := by
  cases scope <;> cases o <;> simp_all [Scope.options, Opt.shared, Opt.letter?] <;> grind

theorem names_plain {o : Opt} {name : String} (named : name ∈ o.names) :
    '=' ∉ name.toList ∧ name ≠ "" := by
  revert named name
  cases o <;> decide

/-- An option named after two dashes. -/
theorem reads_long {s : List Char} (ha : a.toList = '-' :: '-' :: s)
    (h : readLong scope g s = .ok g') : Reads scope a g g' := by
  have key : ∃ name value o, splitValue s = (name, value) ∧ o ∈ scope.options ∧ name ∈ o.names ∧
      g.name o value = .ok g' := by
    unfold readLong at h
    split at h
    next name value hsplit =>
      split at h
      next o hfind =>
        exact ⟨name, value, o, hsplit, List.mem_of_find?_eq_some hfind,
          by simpa using List.find?_some hfind, h⟩
      · cases h
  obtain ⟨name, value, o, hsplit, known, named, hname⟩ := key
  have hs := eq_of_splitValue hsplit
  obtain ⟨hwanting, ⟨takes, v, rfl, hw, hall⟩ | ⟨takes, rfl, hw, hall⟩ |
    ⟨takes, rfl, wanted, hw, hall⟩⟩ := Given.name_ok hname
  all_goals refine ⟨hwanting, ?_⟩
  · obtain rfl : a = "--" ++ name ++ "=" ++ v := String.toList_inj.mp (by simp [ha, hs])
    exact .inl ⟨_, .joined known takes named, hw, hall⟩
  · obtain rfl : a = "--" ++ name := String.toList_inj.mp (by simp [ha, hs])
    exact .inr ⟨o, hw, hall, fun v plain => .apart known takes named plain⟩
  · obtain rfl : a = "--" ++ name := String.toList_inj.mp (by simp [ha, hs])
    exact .inl ⟨_, .flag known takes wanted named, hw, hall⟩

/-- An option named by its letter, after one dash. -/
theorem reads_letters {c : Char} {s : List Char} (ha : a.toList = '-' :: c :: s)
    (h : readLetters scope g (c :: s) = .ok g') : Reads scope a g g' := by
  unfold readLetters at h
  split at h
  · cases h
  next o hfind =>
    have known := List.mem_of_find?_eq_some hfind
    have letter : o.letter? = some c := by simpa using List.find?_some hfind
    split at h
    next takes =>
      have hvalue {v : String} (hname : g.name o (some v) = .ok g')
          (written : Written scope [a] (o, v)) : Reads scope a g g' := by
        obtain ⟨hwanting, ⟨-, w, hv, hw, hall⟩ | ⟨-, hv, -⟩ | ⟨-, hv, -⟩⟩ := Given.name_ok hname
        · obtain rfl := Option.some.inj hv
          exact ⟨hwanting, .inl ⟨_, written, hw, hall⟩⟩
        all_goals cases hv
      split at h
      · obtain ⟨hwanting, ⟨-, w, hv, -⟩ | ⟨-, -, hw, hall⟩ | ⟨hflag, -⟩⟩ := Given.name_ok h
        · cases hv
        · obtain rfl : a = "-" ++ String.singleton c := String.toList_inj.mp (by simp [ha])
          exact ⟨hwanting, .inr ⟨o, hw, hall, fun v plain => .letterApart known takes letter plain⟩⟩
        · simp [takes] at hflag
      next v =>
        obtain rfl : a = "-" ++ String.singleton c ++ "=" ++ .ofList v :=
          String.toList_inj.mp (by simp [ha])
        exact hvalue h (.letterJoined known takes letter)
      next hnil hequals =>
        obtain rfl : a = "-" ++ String.singleton c ++ .ofList s :=
          String.toList_inj.mp (by simp [ha])
        refine hvalue h (.letterAttached known takes letter ?_ ?_)
        · simpa [← String.toList_inj] using hnil
        · rw [String.toList_ofList]
          cases s with
          | nil => exact absurd rfl hnil
          | cons d s => simpa using fun hd : d = '=' => hequals s (by rw [hd])
    next hflag =>
      -- The only letter that stands for no value is the one of help, which ends the reading.
      cases hname : g.name o none with
      | error e => simp [hname, bind, Except.bind] at h
      | ok g₁ =>
        obtain ⟨-, ⟨takes, -⟩ | ⟨takes, -⟩ | ⟨-, -, wanted, -⟩⟩ := Given.name_ok hname
        · exact absurd takes hflag
        · exact absurd takes hflag
        · cases o <;> simp_all [Opt.letter?, Opt.takesValue]

/-- An argument that begins like an option is no command. -/
theorem ofCommand?_dash (h : a.toList.head? = some '-') :
    Scope.ofCommand? a = none ∧ a ≠ "help" := by
  constructor
  · unfold Scope.ofCommand?
    split
    iterate 3 exact absurd h (by decide)
    rfl
  · rintro rfl
    exact absurd h (by decide)

theorem readArguments_ended :
    readArguments scope false g ("--" :: args) = readArguments scope true g args := by
  simp [readArguments, Scope.ofCommand?]

theorem readArguments_long {s : List Char} (ha : a.toList = '-' :: '-' :: s) (hs : s ≠ []) :
    readArguments scope false g (a :: args) =
      (readLong scope g s).bind fun g' => readArguments scope false g' args := by
  obtain ⟨hcommand, hhelp⟩ := ofCommand?_dash (a := a) (by simp [ha])
  cases s with
  | nil => exact absurd rfl hs
  | cons c s => simp [readArguments, hcommand, hhelp, ha, bind]

theorem readArguments_letters {c : Char} {s : List Char} (ha : a.toList = '-' :: c :: s)
    (hc : c ≠ '-') : readArguments scope false g (a :: args) =
      (readLetters scope g (c :: s)).bind fun g' => readArguments scope false g' args := by
  obtain ⟨hcommand, hhelp⟩ := ofCommand?_dash (a := a) (by simp [ha])
  simp [readArguments, hcommand, hhelp, ha, hc, bind]

theorem readArguments_command {c : Scope} (hw : g.wanting = none) (hc : Scope.ofCommand? a = some c) :
    readArguments .top false g (a :: args) = .ok (g, some (c, args)) := by
  simp [readArguments, hw, hc]

theorem readArguments_value {o : Opt} (hw : g.wanting = some o) (plain : IsValue a) :
    readArguments scope false g (a :: args) =
      readArguments scope false { g with pending := some (o, some a) } args := by
  obtain rfl | hhead := plain
  · simp [readArguments, hw]
  · cases ha : a.toList with
    | nil => simp [readArguments, hw, ha]
    | cons c s =>
      have hc : c ≠ '-' := by simpa [ha] using hhead
      simp [readArguments, hw, ha, hc]

/-- An argument that is no option and no value is a command, and stands where no command was yet. -/
theorem readArguments_plain {r : Option (Scope × List String)} (hw : g.wanting = none)
    (hdash : ¬∃ s, a.toList = '-' :: s)
    (h : readArguments scope false g (a :: args) = .ok (g', r)) :
    scope = .top ∧ g' = g ∧ ∃ c, Scope.ofCommand? a = some c ∧ r = some (c, args) := by
  cases hcommand : Scope.ofCommand? a with
  | some c =>
    by_cases htop : scope = .top
    · subst htop
      rw [readArguments_command hw hcommand] at h
      obtain ⟨rfl, rfl⟩ := Prod.mk.inj (Except.ok.inj h)
      exact ⟨rfl, rfl, c, rfl, rfl⟩
    · exfalso
      simp [readArguments, hw, htop] at h
      split at h <;> simp_all
  | none =>
    exfalso
    simp [readArguments, hw, hcommand] at h
    split at h <;> simp_all

/-- What an argument is, when arguments that begin with it are read to their end. -/
theorem readArguments_cons {r : Option (Scope × List String)}
    (h : readArguments scope false g (a :: args) = .ok (g', r)) :
    (g.wanting = none ∧ scope = .top ∧ g' = g ∧ ∃ c, Scope.ofCommand? a = some c ∧
      r = some (c, args)) ∨
    (a = "--" ∧ args = [] ∧ g' = g ∧ r = none) ∨
    (∃ g₁, Reads scope a g g₁ ∧ readArguments scope false g₁ args = .ok (g', r)) ∨
    ∃ o, g.wanting = some o ∧ IsValue a ∧
      readArguments scope false { g with pending := some (o, some a) } args = .ok (g', r) := by
  by_cases hdash : ∃ s, a.toList = '-' :: s
  · obtain ⟨s, ha⟩ := hdash
    cases s with
    | nil =>
      obtain rfl : a = "-" := String.toList_inj.mp ha
      cases hw : g.wanting with
      | none => simp [readArguments, hw, Scope.ofCommand?] at h
      | some o =>
        rw [readArguments_value hw (.inl rfl)] at h
        exact .inr (.inr (.inr ⟨o, rfl, .inl rfl, h⟩))
    | cons c s =>
      by_cases hc : c = '-'
      · subst hc
        cases s with
        | nil =>
          obtain rfl : a = "--" := String.toList_inj.mp ha
          rw [readArguments_ended] at h
          cases args with
          | nil =>
            obtain ⟨rfl, rfl⟩ := Prod.mk.inj (Except.ok.inj h)
            exact .inr (.inl ⟨rfl, rfl, rfl, rfl⟩)
          | cons b args => simp [readArguments] at h
        | cons d s =>
          rw [readArguments_long ha (List.cons_ne_nil d s)] at h
          obtain ⟨g₁, hread, hrest⟩ := ok_of_bind h
          exact .inr (.inr (.inl ⟨g₁, reads_long ha hread, hrest⟩))
      · rw [readArguments_letters ha hc] at h
        obtain ⟨g₁, hread, hrest⟩ := ok_of_bind h
        exact .inr (.inr (.inl ⟨g₁, reads_letters ha hread, hrest⟩))
  · have hhead : a.toList.head? ≠ some '-' := by
      intro hhead
      exact hdash (List.head?_eq_some_iff.mp hhead)
    cases hw : g.wanting with
    | some o =>
      rw [readArguments_value hw (.inr hhead)] at h
      exact .inr (.inr (.inr ⟨o, rfl, .inr hhead, h⟩))
    | none =>
      obtain ⟨htop, hg, hcommand⟩ := readArguments_plain hw hdash h
      exact .inl ⟨rfl, htop, hg, hcommand⟩

/-- Arguments behind an option that may want its value: this value first, and then options. -/
def Resumes (scope : Scope) : Option Opt → List String → List (Opt × String) → Prop
  | none, args, os => Spells scope args os
  | some o, args, os => ∃ v rest os', args = v :: rest ∧ os = (o, v) :: os' ∧ IsValue v ∧
      Spells scope rest os'

/-- What is left of arguments when reading them ends: nothing, the mark that ends options, or a
command and what stands behind it. -/
def Leaves (scope : Scope) (args : List String) : Option (Scope × List String) → Prop
  | none => args = [] ∨ args = ["--"]
  | some (command, rest) => scope = .top ∧ ∃ c, Scope.ofCommand? c = some command ∧ args = c :: rest

/-- Arguments that are read begin with options, all of which are there in the end. -/
theorem readArguments_sound {r : Option (Scope × List String)}
    (h : readArguments scope false g args = .ok (g', r)) (hw : g'.wanting = none) :
    ∃ used rest os, args = used ++ rest ∧ Resumes scope g.wanting used os ∧
      g'.all = g.all ++ os ∧ Leaves scope rest r := by
  induction args generalizing g with
  | nil =>
    obtain ⟨rfl, rfl⟩ := Prod.mk.inj (Except.ok.inj h)
    exact ⟨[], [], [], rfl, by rw [hw]; exact .nil, (List.append_nil _).symm, .inl rfl⟩
  | cons a args ih =>
    obtain ⟨hg, rfl, rfl, c, hc, rfl⟩ | ⟨rfl, rfl, rfl, rfl⟩ | ⟨g₁, ⟨hg, hread⟩, hrest⟩ |
      ⟨o, hg, plain, hrest⟩ := readArguments_cons h
    · exact ⟨[], a :: args, [], rfl, by rw [hg]; exact .nil, (List.append_nil _).symm, rfl, a, hc, rfl⟩
    · exact ⟨[], ["--"], [], rfl, by rw [hw]; exact .nil, (List.append_nil _).symm, .inr rfl⟩
    · obtain ⟨used, rest, os, rfl, hused, hall, hleaves⟩ := ih hrest
      rw [hg]
      obtain ⟨p, written, hg₁, hp⟩ | ⟨o, hg₁, hp, written⟩ := hread
      · rw [hg₁] at hused
        exact ⟨a :: used, rest, p :: os, rfl, .cons written hused, by simp [hall, hp], hleaves⟩
      · rw [hg₁] at hused
        obtain ⟨v, tail, os', rfl, rfl, plain, htail⟩ := hused
        exact ⟨a :: v :: tail, rest, (o, v) :: os', rfl, .cons (written v plain) htail,
          by rw [hall, hp], hleaves⟩
    · obtain ⟨used, rest, os, rfl, hused, hall, hleaves⟩ := ih hrest
      obtain ⟨hanswered, hp⟩ := Given.wanting_value (v := a) hg
      rw [hanswered] at hused
      exact ⟨a :: used, rest, (o, a) :: os, rfl, by rw [hg]; exact ⟨a, used, os, rfl, rfl, plain, hused⟩,
        by simp [hall, hp], hleaves⟩

theorem readLong_name {o : Opt} {name : String} {value : Option String} (known : o ∈ scope.options)
    (named : name ∈ o.names) :
    readLong scope g (name.toList ++ value.elim [] fun v => '=' :: v.toList) = g.name o value := by
  have hplain := (names_plain named).1
  cases value with
  | none => simp [readLong, splitValue_of_name hplain, find?_name known named]
  | some v => simp [readLong, splitValue_of_value hplain, find?_name known named]

/-- An option by its name, and maybe with a value behind an equals sign. -/
theorem readArguments_name {o : Opt} {name : String} (value : Option String)
    (known : o ∈ scope.options) (named : name ∈ o.names)
    (ha : a.toList = '-' :: '-' :: (name.toList ++ value.elim [] fun v => '=' :: v.toList)) :
    readArguments scope false g (a :: args) =
      (g.name o value).bind fun g' => readArguments scope false g' args := by
  have hne : name.toList ≠ [] := by simpa using (names_plain named).2
  rw [readArguments_long ha (by simp [hne]), readLong_name known named]

/-- An option by its letter, and maybe with a value behind it. -/
theorem readArguments_letter {o : Opt} {c : Char} (s : List Char) {value : Option String}
    (letter : o.letter? = some c) (ha : a.toList = '-' :: c :: s)
    (hs : readLetters scope g (c :: s) = g.name o value) :
    readArguments scope false g (a :: args) =
      (g.name o value).bind fun g' => readArguments scope false g' args := by
  have hc : c ≠ '-' := by
    cases o <;> simp [Opt.letter?] at letter <;> subst letter <;> decide
  rw [readArguments_letters ha hc, hs]

theorem readLetters_attached {o : Opt} {c : Char} {value : String} (known : o ∈ scope.options)
    (takes : o.takesValue = true) (letter : o.letter? = some c) (nonempty : value ≠ "")
    (unmarked : value.toList.head? ≠ some '=') :
    readLetters scope g (c :: value.toList) = g.name o (some value) := by
  cases hv : value.toList with
  | nil => exact absurd (String.toList_inj.mp hv) nonempty
  | cons d s =>
    have hd : d ≠ '=' := by simpa [hv] using unmarked
    have hvalue : String.ofList (d :: s) = value := by rw [← hv, String.ofList_toList]
    simp [readLetters, find?_letter known letter, takes, hd, hvalue]

section Named

variable {o : Opt} {value : String} {x : Given × Option (Scope × List String)}

/-- What an option leaves that is given with its value. -/
theorem name_value (takes : o.takesValue = true)
    (h : (g.name o (some value)).bind (fun g' => readArguments scope false g' args) = .ok x) :
    ∃ g', g'.wanting = none ∧ g'.all = g.all ++ [(o, value)] ∧
      readArguments scope false g' args = .ok x := by
  obtain ⟨g', hname, hrest⟩ := ok_of_bind h
  obtain ⟨-, ⟨-, v, hv, hw, hall⟩ | ⟨-, hv, -⟩ | ⟨hflag, -⟩⟩ := Given.name_ok hname
  · obtain rfl := Option.some.inj hv
    exact ⟨g', hw, hall, hrest⟩
  · cases hv
  · simp [takes] at hflag

/-- What an option leaves that is given its value by the next argument. -/
theorem name_apart (takes : o.takesValue = true) (plain : IsValue value)
    (h : (g.name o none).bind (fun g' => readArguments scope false g' (value :: args)) = .ok x) :
    ∃ g', g'.wanting = none ∧ g'.all = g.all ++ [(o, value)] ∧
      readArguments scope false g' args = .ok x := by
  obtain ⟨g', hname, hrest⟩ := ok_of_bind h
  obtain ⟨-, ⟨-, _, hv, -⟩ | ⟨-, -, hw, hall⟩ | ⟨hflag, -⟩⟩ := Given.name_ok hname
  · cases hv
  · rw [readArguments_value hw plain] at hrest
    obtain ⟨hanswered, hp⟩ := Given.wanting_value (v := value) hw
    exact ⟨_, hanswered, hall ▸ hp, hrest⟩
  · simp [takes] at hflag

/-- What an option leaves that has no value. -/
theorem name_flag (takes : o.takesValue = false)
    (h : (g.name o none).bind (fun g' => readArguments scope false g' args) = .ok x) :
    ∃ g', g'.wanting = none ∧ g'.all = g.all ++ [(o, "true")] ∧
      readArguments scope false g' args = .ok x := by
  obtain ⟨g', hname, hrest⟩ := ok_of_bind h
  obtain ⟨-, ⟨htakes, -⟩ | ⟨htakes, -⟩ | ⟨-, -, -, hw, hall⟩⟩ := Given.name_ok hname
  · simp [takes] at htakes
  · simp [takes] at htakes
  · exact ⟨g', hw, hall, hrest⟩

end Named

/-- Every way to write an option is read as this option. -/
theorem readArguments_written {piece : List String} {p : Opt × String}
    {x : Given × Option (Scope × List String)} (written : Written scope piece p)
    (h : readArguments scope false g (piece ++ args) = .ok x) :
    ∃ g', g'.wanting = none ∧ g'.all = g.all ++ [p] ∧ readArguments scope false g' args = .ok x := by
  cases written with
  | apart known takes named plain =>
    exact name_apart takes plain
      ((readArguments_name none known named (by simp)).symm.trans h)
  | @joined o name value known takes named =>
    exact name_value takes
      ((readArguments_name (some value) known named (by simp)).symm.trans h)
  | flag known takes wanted named =>
    exact name_flag takes ((readArguments_name none known named (by simp)).symm.trans h)
  | letterApart known takes letter plain =>
    refine name_apart takes plain
      ((readArguments_letter [] letter (by simp) ?_).symm.trans h)
    simp [readLetters, find?_letter known letter, takes]
  | @letterJoined o c value known takes letter =>
    refine name_value takes ((readArguments_letter ('=' :: value.toList) letter (by simp) ?_).symm.trans h)
    simp [readLetters, find?_letter known letter, takes]
  | @letterAttached o c value known takes letter nonempty unmarked =>
    exact name_value takes ((readArguments_letter value.toList letter (by simp)
      (readLetters_attached known takes letter nonempty unmarked)).symm.trans h)

/-- Arguments that spell options are read as these options. -/
theorem readArguments_spells {used : List String} {os : List (Opt × String)}
    {x : Given × Option (Scope × List String)} (spelled : Spells scope used os)
    (hw : g.wanting = none) (h : readArguments scope false g (used ++ args) = .ok x) :
    ∃ g', g'.wanting = none ∧ g'.all = g.all ++ os ∧ readArguments scope false g' args = .ok x := by
  induction spelled generalizing g with
  | nil => exact ⟨g, hw, (List.append_nil _).symm, h⟩
  | cons first tail ih =>
    rw [List.append_assoc] at h
    obtain ⟨g₁, hw₁, hp, hrest⟩ := readArguments_written first h
    obtain ⟨g', hw', hall, hread⟩ := ih hw₁ hrest
    exact ⟨g', hw', by rw [hall, hp, List.append_assoc]; rfl, hread⟩

end Arguments

section Parsing

variable {env : String → Option String} {args : List String} {scope : Scope} {i : Invocation}
  {before after given : List (Opt × String)} {vs : List (Opt × Value)} {o : Opt}

theorem complete_ok {g : Given} (h : complete env scope g = .ok vs) :
    g.wanting = none ∧ addVariables env g.all scope.options = .ok vs := by
  obtain ⟨g', hsettle, hvs⟩ := ok_of_bind h
  obtain ⟨hw, rfl⟩ := Given.settle_ok hsettle
  exact ⟨hw, hvs⟩

/-- What is read of a command line that is accepted. -/
theorem parse_ok (h : parse env args = .ok i) : ∃ scope g rest g' r vs ws,
    readArguments .top false {} args = .ok (g, some (scope, rest)) ∧ g.wanting = none ∧
    readArguments scope false {} rest = .ok (g', r) ∧ g'.wanting = none ∧
    addVariables env g.all Scope.top.options = .ok vs ∧
    addVariables env g'.all scope.options = .ok ws ∧ i = invocation scope vs ws := by
  obtain ⟨⟨g, command⟩, hread, h⟩ := ok_of_bind h
  cases command with
  | none =>
    obtain ⟨vs, -, h⟩ := ok_of_bind h
    by_cases hvs : vs = [] <;> simp [hvs, bind, Except.bind, throw, throwThe, MonadExceptOf.throw] at h
  | some command =>
    obtain ⟨scope, rest⟩ := command
    obtain ⟨⟨g', r⟩, hread', h⟩ := ok_of_bind h
    obtain ⟨ws, hafter, h⟩ := ok_of_bind h
    obtain ⟨vs, hbefore, h⟩ := ok_of_bind h
    obtain ⟨hw, hvs⟩ := complete_ok hbefore
    obtain ⟨hw', hws⟩ := complete_ok hafter
    exact ⟨scope, g, rest, g', r, vs, ws, hread, hw, hread', hw', hvs, hws, (Except.ok.inj h).symm⟩

theorem ofCommand?_ne_top {c : String} (h : Scope.ofCommand? c = some scope) : scope ≠ .top := by
  rintro rfl
  unfold Scope.ofCommand? at h
  split at h <;> cases h

/-- A command line that is accepted has a reading. -/
theorem exists_spelled (h : parse env args = .ok i) :
    ∃ scope before after, Spelled args scope before after := by
  obtain ⟨scope, g, rest, g', r, vs, ws, hread, hw, hread', hw', -⟩ := parse_ok h
  obtain ⟨l, tail, before, rfl, hbefore, -, -, c, hc, rfl⟩ := readArguments_sound hread hw
  obtain ⟨words, mark, after, rfl, hafter, -, hmark⟩ := readArguments_sound hread' hw'
  cases r with
  | none => exact ⟨scope, before, after, l, c, words, mark, rfl, hmark, hc, hbefore, hafter⟩
  | some => exact absurd hmark.1 (ofCommand?_ne_top hc)

/-- A command line that is accepted means what any reading of it says. -/
theorem parse_spelled (h : parse env args = .ok i) (spelled : Spelled args scope before after) :
    ∃ vs ws, addVariables env before Scope.top.options = .ok vs ∧
      addVariables env after scope.options = .ok ws ∧ i = invocation scope vs ws := by
  obtain ⟨scope', g, rest, g', r', vs, ws, hread, -, hread', -, hvs, hws, rfl⟩ := parse_ok h
  obtain ⟨l, c, r, mark, rfl, hmark, hc, hbefore, hafter⟩ := spelled
  obtain ⟨g₁, hw₁, hall₁, hrest₁⟩ := readArguments_spells hbefore rfl hread
  rw [readArguments_command hw₁ hc] at hrest₁
  obtain ⟨rfl, hcommand⟩ := Prod.mk.inj (Except.ok.inj hrest₁)
  obtain ⟨rfl, rfl⟩ := Prod.mk.inj (Option.some.inj hcommand)
  obtain ⟨g₂, hw₂, hall₂, hrest₂⟩ := readArguments_spells hafter rfl hread'
  have hend : g₂ = g' := by
    obtain rfl | rfl := hmark
    · exact (Prod.mk.inj (Except.ok.inj hrest₂)).1
    · rw [readArguments_ended] at hrest₂
      exact (Prod.mk.inj (Except.ok.inj hrest₂)).1
  subst hend
  rw [hall₁] at hvs
  rw [hall₂] at hws
  exact ⟨vs, ws, hvs, hws, rfl⟩

theorem find?_append {vs ws : List (Opt × Value)} : find? o (vs ++ ws) = (find? o vs <|> find? o ws) := by
  simp [find?, List.find?_append, Option.map_or]

theorem find?_given :
    find? o (given.map fun p => (p.1, ⟨p.2, true⟩)) = (given.lookup o).map (⟨·, true⟩) := by
  induction given with
  | nil => rfl
  | cons p given ih =>
    obtain ⟨q, v⟩ := p
    by_cases hp : q = o
    · simp [find?, hp]
    · have hne : (o == q) = false := by simpa using Ne.symm hp
      simpa [find?, List.lookup_cons, hp, hne] using ih

theorem any_given : (given.any fun p => p.1 = o) = (given.lookup o).isSome := by
  induction given with
  | nil => rfl
  | cons p given ih =>
    obtain ⟨q, v⟩ := p
    by_cases hp : q = o
    · simp [hp]
    · have hne : (o == q) = false := by simpa using Ne.symm hp
      simpa [List.lookup_cons, hp, hne] using ih

/-- One more option adds what the environment holds for it, unless it is given. -/
theorem addVariables_cons {os : List Opt} (h : addVariables env given (o :: os) = .ok vs) :
    ∃ us, addVariables env given os = .ok us ∧
      vs = us ++ if given.lookup o = none then
        ((o.envName?.bind env).map fun v => (o, ⟨v, false⟩)).toList else [] := by
  rw [addVariables, any_given] at h
  cases hgiven : given.lookup o with
  | some v => exact ⟨vs, by simpa [hgiven] using h, by simp⟩
  | none =>
    cases hvar : o.envName?.bind env with
    | none => exact ⟨vs, by simpa [hgiven, hvar] using h, by simp⟩
    | some v =>
      simp only [hgiven, hvar, Option.isSome_none, Bool.false_eq_true, if_false] at h
      split at h
      · cases h
      · cases hus : addVariables env given os with
        | error e => simp [hus, Except.map] at h
        | ok us => exact ⟨us, rfl, by simpa [hus, Except.map, eq_comm] using h⟩

/-- The value of an option in a scope is the one that is given, or else the one of the environment. -/
theorem find?_addVariables {os : List Opt} (h : addVariables env given os = .ok vs) :
    find? o vs = ((given.lookup o).map (⟨·, true⟩) <|>
      if o ∈ os then (o.envName?.bind env).map (⟨·, false⟩) else none) := by
  induction os generalizing vs with
  | nil =>
    obtain rfl := Except.ok.inj h
    simp [find?_given]
  | cons o' os ih =>
    obtain ⟨us, hus, rfl⟩ := addVariables_cons h
    rw [find?_append, ih hus]
    by_cases ho : o = o'
    · subst ho
      cases given.lookup o <;> cases o.envName?.bind env <;> by_cases hmem : o ∈ os <;>
        simp [find?, hmem]
    · have hother : find? o (if given.lookup o' = none then
          ((o'.envName?.bind env).map fun v => (o', (⟨v, false⟩ : Value))).toList else []) = none := by
        cases given.lookup o' <;> cases o'.envName?.bind env <;> simp [find?, Ne.symm ho]
      rw [hother]
      simp [ho]

/-- What a command line and an environment say of an option: the value behind the command, or else
the one before it, or else the one of the environment. -/
def stated (env : String → Option String) (before after : List (Opt × String)) (o : Opt) :
    Option String :=
  after.lookup o <|> before.lookup o <|> o.envName?.bind env

theorem choose_stated {vs ws : List (Opt × Value)}
    (hvs : addVariables env before Scope.top.options = .ok vs)
    (hws : addVariables env after scope.options = .ok ws) (known : o ∈ scope.options) :
    choose (find? o vs) (find? o ws) = stated env before after o := by
  rw [find?_addVariables hvs, find?_addVariables hws, if_pos known, stated]
  cases after.lookup o <;> cases before.lookup o <;> cases o.envName?.bind env <;>
    by_cases htop : o ∈ Scope.top.options <;> simp [choose, htop]

end Parsing

end CommandLine

end Killfile

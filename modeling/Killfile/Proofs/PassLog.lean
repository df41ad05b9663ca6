import Killfile.Client
import Killfile.Pass
import Killfile.Proofs.MatchLog
import Killfile.Reader.Memory

/-! Patterns in the log of a pass. One cache goes with a pass from feed to feed. Whatever happens on
the way, the patterns that the log names as invalid are new to the cache when they are named and known
to it from then on, so none is named twice. -/

namespace Killfile

/-- The pattern that an event of an error names, if it names one. -/
def Event.pattern? (e : Event) : Option String :=
  if e.level = .error then
    e.fields.findSome? fun
      | ("pattern", .text p) => some p
      | _ => none
  else none

/-- The patterns that a log names as invalid. -/
def namedPatterns (log : Log) : List String := log.filterMap Event.pattern?

@[simp] theorem pattern?_invalidPattern (p : String) : (Matcher.invalidPattern p).pattern? = some p :=
  rfl

theorem pattern?_of_ne_error {e : Event} (h : e.level ≠ .error) : e.pattern? = none := if_neg h

theorem namedPatterns_append (l l' : Log) :
    namedPatterns (l ++ l') = namedPatterns l ++ namedPatterns l' := List.filterMap_append

/-- Events that are no errors do not matter. -/
theorem namedPatterns_filter (l : Log) :
    namedPatterns (l.filter fun e => e.level ≠ .info) = namedPatterns l := by
  rw [namedPatterns, namedPatterns, List.filterMap_filter]
  refine List.filterMap_congr fun e _ => ?_
  by_cases h : e.level = .info
  · have hne : e.level ≠ .error := by
      rw [h]
      exact nofun
    simp [h, pattern?_of_ne_error hne]
  · simp [h]

theorem Reports.namedPatterns_eq {α : Type} {m : Logged PatternCache α} {found : Log}
    {patterns : List String} (h : Reports m found patterns) {c : PatternCache} (hc : c.Faithful) :
    namedPatterns (m c).2.2 = newlyInvalid c.patterns patterns := by
  rw [← namedPatterns_filter, (h c hc).2.2, namedPatterns, List.filterMap_map]
  exact (List.filterMap_congr fun p _ => pattern?_invalidPattern p).trans List.filterMap_some

/-- From one cache to a later one, with the log between them: nothing is forgotten, and the patterns
that are named do not compile and become known just then. -/
structure Learns (c c' : PatternCache) (log : Log) : Prop where
  faithful : c'.Faithful
  kept : c.patterns ⊆ c'.patterns
  once : (namedPatterns log).Nodup
  learned : ∀ p ∈ namedPatterns log, Regex.compile p = none ∧ p ∉ c.patterns ∧ p ∈ c'.patterns

namespace Learns

theorem refl {c : PatternCache} (hc : c.Faithful) {log : Log} (h : namedPatterns log = []) :
    Learns c c log := by
  refine ⟨hc, List.Subset.refl _, ?_, ?_⟩
  · rw [h]
    exact List.nodup_nil
  · rw [h]
    exact nofun

theorem trans {c c' c'' : PatternCache} {log log' : Log} (h : Learns c c' log)
    (h' : Learns c' c'' log') : Learns c c'' (log ++ log') := by
  refine ⟨h'.faithful, List.Subset.trans h.kept h'.kept, ?_, fun p hp => ?_⟩
  · rw [namedPatterns_append, List.nodup_append]
    refine ⟨h.once, h'.once, fun p hp q hq => ?_⟩
    rintro rfl
    exact (h'.learned p hq).2.1 (h.learned p hp).2.2
  · rw [namedPatterns_append, List.mem_append] at hp
    rcases hp with hp | hp
    · obtain ⟨hnone, hnew, hknown⟩ := h.learned p hp
      exact ⟨hnone, hnew, h'.kept hknown⟩
    · obtain ⟨hnone, hnew, hknown⟩ := h'.learned p hp
      exact ⟨hnone, fun hmem => hnew (h.kept hmem), hknown⟩

end Learns

theorem Reports.learns {α : Type} {m : Logged PatternCache α} {a : α} {found : Log}
    {patterns : List String} (h : Reports m found patterns) (ha : Gives m a) {c : PatternCache}
    (hc : c.Faithful) : Learns c (m c).2.1 (m c).2.2 := by
  obtain ⟨hknown, -, -⟩ := h c hc
  refine ⟨(ha c hc).2, fun p hp => ?_, ?_, fun p hp => ?_⟩
  · exact (hknown p).mpr (List.mem_append_left _ hp)
  · rw [h.namedPatterns_eq hc]
    exact nodup_newlyInvalid _ _
  · rw [h.namedPatterns_eq hc, mem_newlyInvalid] at hp
    obtain ⟨hp, hnone, hnew⟩ := hp
    exact ⟨hnone, hnew, (hknown p).mpr (List.mem_append_right _ hp)⟩

/-- A computation never names a pattern. -/
def Quiet {σ α : Type} (m : Logged σ α) : Prop := ∀ s, namedPatterns (m s).2.2 = []

namespace Quiet

variable {σ α β : Type}

theorem pure (a : α) : Quiet (Pure.pure a : Logged σ α) := fun _ => rfl

theorem report {e : Event} (h : e.pattern? = none) : Quiet (Logged.report e : Logged σ Unit) := by
  intro s
  simp [namedPatterns, h]

theorem bind {m : Logged σ α} {k : α → Logged σ β} (hm : Quiet m) (hk : ∀ a, Quiet (k a)) :
    Quiet (m >>= k) := by
  intro s
  rw [Logged.bind_apply, namedPatterns_append, hm s, hk]
  rfl

end Quiet

/-- The reader itself never names a pattern as invalid. -/
def Reader.Quiet {W : Type} (reader : Reader W) : Prop := ∀ c, Killfile.Quiet (reader.answer c)

theorem Memory.quiet_reader : Memory.reader.Quiet := fun _ _ => rfl

theorem Client.quiet_exchange {W : Type} {t : Http.Transport W} (h : ∀ r, Quiet (t.send r))
    (r : Http.Request) : Quiet (t.exchange r) := by
  rw [Http.Transport.exchange]
  split
  · exact h r
  · exact Quiet.pure _

/-- Of an answer only the page of a feed's entries is reported. -/
theorem Client.namedPatterns_classify (call : Call) (r : Http.Response) :
    namedPatterns (classify call r).2 = [] := by
  rw [classify]
  split
  · cases call with
    | unreadEntries feed =>
      rw [accept]
      cases decodeBody EntryPage.ofJson? r with
      | ok p => rfl
      | error x => rfl
    | _ => rfl
  · rfl

theorem Client.quiet_reader {W : Type} {t : Http.Transport W} (h : ∀ r, Quiet (t.send r))
    (c : Credentials) : (Client.reader t c).Quiet := by
  intro call
  rw [reader]
  dsimp only
  cases request c call with
  | error e => exact Quiet.pure _
  | ok r =>
    refine Quiet.bind (quiet_exchange h r) fun answer => ?_
    cases answer with
    | error e => exact Quiet.pure _
    | ok a => exact fun _ => namedPatterns_classify call a

/-- A computation that goes with a cache: what it names it learns. -/
def NamesOnce {W α : Type} (m : Logged (W × PatternCache) α) : Prop :=
  ∀ s : W × PatternCache, s.2.Faithful → Learns s.2 (m s).2.1.2 (m s).2.2

namespace NamesOnce

variable {W α β : Type}

theorem pure (a : α) : NamesOnce (Pure.pure a : Logged (W × PatternCache) α) :=
  fun _ hs => Learns.refl hs rfl

theorem report {e : Event} (h : e.pattern? = none) :
    NamesOnce (Logged.report e : Logged (W × PatternCache) Unit) := fun s hs =>
  Learns.refl hs (Quiet.report h s)

theorem bind {m : Logged (W × PatternCache) α} {k : α → Logged (W × PatternCache) β}
    (hm : NamesOnce m) (hk : ∀ a, NamesOnce (k a)) : NamesOnce (m >>= k) := by
  intro s hs
  have h := hm s hs
  exact h.trans (hk _ _ h.faithful)

theorem onFst {m : Logged W α} (h : Quiet m) : NamesOnce (m.onFst : Logged (W × PatternCache) α) :=
  fun s hs => Learns.refl hs (h s.1)

theorem onSnd {m : Logged PatternCache α} {a : α} {found : Log} {patterns : List String}
    (h : Reports m found patterns) (ha : Gives m a) :
    NamesOnce (m.onSnd : Logged (W × PatternCache) α) := fun _ hs => h.learns ha hs

end NamesOnce

namespace Pass

variable {W : Type} {reader : Reader W}

theorem quiet_killEntry (h : reader.Quiet) (simulate : Bool) (f : Feed) (id : Int) :
    Quiet (killEntry reader simulate f id) := by
  rw [killEntry]
  split
  · refine Quiet.bind (h (.entry id)) fun answer => ?_
    cases answer with
    | ok e => exact Quiet.bind (Quiet.report rfl) fun _ => Quiet.pure _
    | error x => exact Quiet.bind (Quiet.report rfl) fun _ => Quiet.pure _
  · refine Quiet.bind (Quiet.report rfl) fun _ => ?_
    refine Quiet.bind (h (.updateEntries [id] .read)) fun answer => ?_
    cases answer with
    | ok u => exact Quiet.pure _
    | error x => exact Quiet.bind (Quiet.report rfl) fun _ => Quiet.pure _

theorem quiet_killEntries (h : reader.Quiet) (simulate : Bool) (f : Feed) (ids : List Int) :
    Quiet (killEntries reader simulate f ids) := by
  induction ids with
  | nil => exact Quiet.pure _
  | cons id ids ih =>
    refine Quiet.bind (quiet_killEntry h simulate f id) fun result => ?_
    cases result with
    | ok u => exact ih
    | error x => exact Quiet.pure _

theorem namesOnce_visit (h : reader.Quiet) (simulate : Bool) (rules : List Rule) (f : Feed) :
    NamesOnce (visit reader simulate rules f) := by
  rw [visit]
  split
  · refine NamesOnce.bind (NamesOnce.onFst (h (.unreadEntries f.id))) fun answer => ?_
    cases answer with
    | error x => exact NamesOnce.bind (NamesOnce.report rfl) fun _ => NamesOnce.pure _
    | ok es =>
      refine NamesOnce.bind (NamesOnce.onSnd (Rule.reports_killSet rules f es)
        (Rule.gives_killSet rules f es)) fun ids => ?_
      refine NamesOnce.bind (NamesOnce.onFst (quiet_killEntries h simulate f ids)) fun result => ?_
      cases result with
      | error x => exact NamesOnce.pure _
      | ok u =>
        by_cases hids : ids = []
        · simp only [hids, ne_eq, not_true_eq_false, ↓reduceIte]
          exact NamesOnce.pure _
        · simp only [hids, ne_eq, not_false_eq_true, ↓reduceIte]
          exact NamesOnce.bind (NamesOnce.report rfl) fun _ => NamesOnce.pure _
  · exact NamesOnce.pure _

theorem namesOnce_visitAll (h : reader.Quiet) (simulate : Bool) (rules : List Rule)
    (fs : List Feed) : NamesOnce (visitAll reader simulate rules fs) := by
  induction fs with
  | nil => exact NamesOnce.pure _
  | cons f fs ih =>
    refine NamesOnce.bind (namesOnce_visit h simulate rules f) fun result => ?_
    cases result with
    | error x => exact NamesOnce.pure _
    | ok s =>
      refine NamesOnce.bind ih fun rest => ?_
      cases rest with
      | error x => exact NamesOnce.pure _
      | ok t => exact NamesOnce.pure _

/-- A pass begins with a cache that knows no patterns, so what it names is named once. -/
theorem namedPatterns_run (h : reader.Quiet) (simulate : Bool) (rules : List Rule) (w : W) :
    (namedPatterns (run reader simulate rules w).2.2).Nodup ∧
      ∀ p ∈ namedPatterns (run reader simulate rules w).2.2, Regex.compile p = none := by
  have hfeeds := h .feeds w
  rcases hanswer : reader.answer .feeds w with ⟨x | fs, v, log⟩
  · rw [hanswer] at hfeeds
    have hrun : namedPatterns (run reader simulate rules w).2.2 = [] := by
      simp only [run, Logged.bind_apply, hanswer, namedPatterns_append, hfeeds]
      rfl
    rw [hrun]
    exact ⟨List.nodup_nil, nofun⟩
  · rw [hanswer] at hfeeds
    have hrun : namedPatterns (run reader simulate rules w).2.2 =
        namedPatterns (visitAll reader simulate rules fs (v, [])).2.2 := by
      simp only [run, Logged.bind_apply, hanswer, namedPatterns_append, hfeeds,
        Logged.starting_apply, List.nil_append]
      rcases visitAll reader simulate rules fs (v, []) with ⟨x | s, u, log'⟩
      · exact List.append_nil _
      · exact List.append_nil _
    obtain ⟨-, -, honce, hlearned⟩ :=
      namesOnce_visitAll h simulate rules fs (v, []) PatternCache.faithful_nil
    rw [hrun]
    exact ⟨honce, fun p hp => (hlearned p hp).1⟩

end Pass

namespace Rule

/-- The log of an evaluation that begins without patterns has an event for each pair of a rule in force
and an entry that it matches, in the order of the rules and then of the entries. It names the entry, the
feed and the rule as it is written, and the ids of the entries make up the kill set. All other events
are errors, and name those patterns that were tried and do not compile, each once. Nor does the log of
a whole pass name a pattern twice, unless the reader itself names some, which readers in memory and over
HTTP do not. -/
theorem killSet_log (rules : List Rule) (f : Feed) (es : List Entry) :
    (∃ pairs : List (Fin rules.length × Fin es.length),
      pairs.Pairwise (Prod.Lex (· < ·) (· < ·)) ∧
      (∀ j k, (j, k) ∈ pairs ↔
        (∃ i, i ≤ j ∧ (rules.get i).selects f = true) ∧ (rules.get j).HoldsOf (es.get k)) ∧
      (killSet rules f es []).2.2.filter (fun e => e.level = .info) = pairs.map fun p =>
        ⟨.info, "entry matches rules in the killfile", [("entry_id", .int (es.get p.2).id),
          ("feed_id", .int f.id), ("rule", .text (rules.get p.1).render)]⟩) ∧
    (∀ n, n ∈ (killSet rules f es []).1 ↔
      ∃ e ∈ (killSet rules f es []).2.2, e.level = .info ∧ ("entry_id", .int n) ∈ e.fields) ∧
    (∃ invalid : List String, invalid.Nodup ∧
      (∀ p, p ∈ invalid ↔ Regex.compile p = none ∧
        ∃ r ∈ inForce f rules, ∃ e ∈ es, p ∈ r.tried (texts r.attr e)) ∧
      (killSet rules f es []).2.2.filter (fun e => e.level ≠ .info) = invalid.map fun p =>
        ⟨.error, "invalid pattern in killfile, rule will not match", [("pattern", .text p)]⟩) ∧
    (∀ {W : Type} (reader : Reader W), reader.Quiet → ∀ (simulate : Bool) (w : W),
      (namedPatterns (Pass.run reader simulate rules w).2.2).Nodup ∧
        ∀ p ∈ namedPatterns (Pass.run reader simulate rules w).2.2, Regex.compile p = none) ∧
    Memory.reader.Quiet ∧
    ∀ {W : Type} (t : Http.Transport W) (c : Credentials),
      (∀ r, Quiet (t.send r)) → (Client.reader t c).Quiet := by
  obtain ⟨-, hinfo, herror⟩ := reports_killSet rules f es [] PatternCache.faithful_nil
  refine ⟨⟨killPairs rules f es, pairwise_killPairs rules f es, fun j k => mem_killPairs, ?_⟩,
    fun n => ?_, ⟨_, nodup_newlyInvalid _ _, fun p => ?_, herror⟩,
    fun reader h simulate w => Pass.namedPatterns_run h simulate rules w, Memory.quiet_reader,
    fun t c h => Client.quiet_reader h c⟩
  · exact hinfo.trans (map_killPairs rules f es).symm
  · rw [(gives_killSet rules f es [] PatternCache.faithful_nil).1, mem_killed_iff_event, ← hinfo]
    simp only [List.mem_filter, decide_eq_true_iff, and_assoc]
  · rw [mem_newlyInvalid]
    simp only [triedOn, List.mem_flatMap, PatternCache.patterns, List.map_nil, List.not_mem_nil,
      not_false_eq_true, and_true]
    exact And.comm

/-- A reader with two feeds that have an unread entry each. -/
def twoFeeds : Memory where
  feeds := [sampleFeed, { id := 8, url := "http://example.org/feed.xml" }]
  entries := [(7, [moonEntry]), (8, [{ id := 3, feedId := 8, title := "Sun" }])]

/-- A rule with a bracket that is not closed, for all feeds, and then one that kills an entry. -/
def bracketRules : List Rule :=
  [.ofFields "ignore-article" "*" "title" "=~" "[", .ofFields "ignore-article" "*" "title" "#" "Moon"]

/-- The bracket is named before the entry that the other rule kills. -/
example : (killSet bracketRules sampleFeed [moonEntry] []).2.2 =
    [⟨.error, "invalid pattern in killfile, rule will not match", [("pattern", .text "[")]⟩,
      ⟨.info, "entry matches rules in the killfile", [("entry_id", .int 1), ("feed_id", .int 7),
        ("rule", .text "ignore-article \"*\" \"title # Moon\"")]⟩] := by
  decide +kernel

/-- The bracket is tried for both feeds and named for the first. A server that answers by a script
names nothing of its own. -/
theorem killSet_log_bracket :
    Memory.reader.Quiet ∧ (∀ c, (Client.reader Http.Script.transport c).Quiet) ∧
    (namedPatterns (Pass.run Memory.reader false bracketRules twoFeeds).2.2).Nodup ∧
    namedPatterns (Pass.run Memory.reader false bracketRules twoFeeds).2.2 = ["["] ∧
    Regex.compile "[" = none := by
  obtain ⟨-, -, -, hpass, hquiet, hclient⟩ := killSet_log bracketRules sampleFeed [moonEntry]
  have hscript : ∀ r, Quiet (Http.Script.transport.send r) := by
    intro r s
    rw [Http.Script.log_send]
    rfl
  obtain ⟨honce, hinvalid⟩ := hpass Memory.reader hquiet false twoFeeds
  have hnamed : namedPatterns (Pass.run Memory.reader false bracketRules twoFeeds).2.2 = ["["] := by
    decide +kernel
  refine ⟨hquiet, fun c => hclient _ c hscript, honce, hnamed, hinvalid "[" ?_⟩
  rw [hnamed]
  exact List.mem_singleton_self _

end Rule

end Killfile

import Killfile.Client
import Killfile.Proofs.SecondPass

/-! Feeds of which nothing comes: those that no rule selects, and those whose entries cannot be
fetched. A pass that does not find them in the list of feeds gives the same orders, looks up the same
entries, and ends in the same way. What is compared are two readers in states that a relation ties,
so that a record of all calls may be kept on the side. -/

namespace Killfile

/-- The call is about entries that are known: it gives them a status, or looks one up. -/
def Call.isAboutEntries : Call → Bool
  | .updateEntries _ _ => true
  | .entry _ => true
  | _ => false

/-- A call with what it gave. -/
abbrev Exchange := (c : Call) × Except Failure c.Answer

/-- The exchanges that are about known entries. -/
def aboutEntries (l : List Exchange) : List Exchange := l.filter fun x => x.1.isAboutEntries

theorem aboutEntries_append (l l' : List Exchange) :
    aboutEntries (l ++ l') = aboutEntries l ++ aboutEntries l' := List.filter_append _ _

namespace Reader

variable {W W' : Type}

/-- The same reader with a record of its calls and of what they gave. -/
def exchanging (r : Reader W) : Reader (W × List Exchange) where
  answer c := fun w =>
    let (a, v, l) := r.answer c w.1
    (a, (v, w.2 ++ [⟨c, a⟩]), l)

/-- The same reader with other feeds in its list. -/
def relisted (r : Reader W) (fs : List Feed) : Reader W where
  answer
    | .feeds => fun w =>
      let (a, v, l) := r.answer .feeds w
      (a.map fun _ => fs, v, l)
    | c => r.answer c

/-- Two readers give the same answer to a call in states that a relation ties, and go on to such
states. -/
def AlikeOn (r : Reader W) (r' : Reader W') (same : W → W' → Prop) (c : Call) : Prop :=
  ∀ w w', same w w' → (r.answer c w).1 = (r'.answer c w').1 ∧
    same (r.answer c w).2.1 (r'.answer c w').2.1

variable {r : Reader W} {r' : Reader W'} {same : W → W' → Prop} {c : Call} {w v : W} {w' : W'}

theorem AlikeOn.answers (h : AlikeOn r r' same c) {a : Except Failure c.Answer} {log : Log}
    (answer : r.answer c w = (a, v, log)) (hw : same w w') :
    ∃ v' log', r'.answer c w' = (a, v', log') ∧ same v v' := by
  obtain ⟨ha, hv⟩ := h w w' hw
  rw [answer] at ha hv
  exact ⟨_, _, Prod.ext ha.symm rfl, hv⟩

/-- States of readers with records, tied when those of the readers are and the records agree on known
entries. -/
def SameExchanges (same : W → W' → Prop) (s : W × List Exchange) (s' : W' × List Exchange) : Prop :=
  same s.1 s'.1 ∧ aboutEntries s.2 = aboutEntries s'.2

theorem SameExchanges.equivalence {same : W → W → Prop} (equiv : Equivalence same) :
    Equivalence (SameExchanges same) where
  refl s := ⟨equiv.refl s.1, rfl⟩
  symm h := ⟨equiv.symm h.1, h.2.symm⟩
  trans h h' := ⟨equiv.trans h.1 h'.1, h.2.trans h'.2⟩

theorem AlikeOn.exchanging (h : AlikeOn r r' same c) :
    AlikeOn r.exchanging r'.exchanging (SameExchanges same) c := by
  rintro s s' ⟨hs, hrecord⟩
  obtain ⟨ha, hv⟩ := h _ _ hs
  refine ⟨ha, hv, ?_⟩
  change aboutEntries (s.2 ++ [⟨c, _⟩]) = aboutEntries (s'.2 ++ [⟨c, _⟩])
  rw [aboutEntries_append, aboutEntries_append, hrecord, ha]

theorem alikeOn_of_exchanging (r : Reader W) (c : Call) :
    AlikeOn r.exchanging r (fun s w => s.1 = w) c := by
  rintro s w rfl
  exact ⟨rfl, rfl⟩

theorem alikeOn_exchanging_relisted (r : Reader W) (fs : List Feed) (hc : c ≠ .feeds) :
    AlikeOn r.exchanging (r.relisted fs).exchanging Eq c := by
  rintro s _ rfl
  cases c with
  | feeds => exact absurd rfl hc
  | me => exact ⟨rfl, rfl⟩
  | unreadEntries feed => exact ⟨rfl, rfl⟩
  | entry id => exact ⟨rfl, rfl⟩
  | updateEntries ids status => exact ⟨rfl, rfl⟩

end Reader

namespace Pass

open Reader (AlikeOn SameExchanges)

section

variable {W W' : Type} {reader : Reader W} {reader' : Reader W'} {same : W → W' → Prop}
  {simulate : Bool} {rules : List Rule} {w v : W} {w' : W'} {calls : List Call}

theorem killCall_ne_feeds (id : Int) : killCall simulate id ≠ .feeds := by
  cases simulate <;> exact nofun

theorem Killing.alike (h : ∀ c, c ≠ .feeds → AlikeOn reader reader' same c) {ids : List Int}
    {result : Except Failure Unit} (killing : Killing reader simulate w ids calls v result)
    (hw : same w w') : ∃ v', same v v' ∧ Killing reader' simulate w' ids calls v' result := by
  induction killing generalizing w' with
  | done => exact ⟨w', hw, .done⟩
  | failed answer =>
    obtain ⟨v', _, answer', hv⟩ := (h _ (killCall_ne_feeds _)).answers answer hw
    exact ⟨v', hv, .failed answer'⟩
  | next answer rest ih =>
    obtain ⟨_, _, answer', hv⟩ := (h _ (killCall_ne_feeds _)).answers answer hw
    obtain ⟨v', hend, rest'⟩ := ih hv
    exact ⟨v', hend, .next answer' rest'⟩

theorem Visit.alike (h : ∀ c, c ≠ .feeds → AlikeOn reader reader' same c) {f : Feed}
    {result : Except Failure Outcome} (visit : Visit reader simulate rules f w calls v result)
    (hw : same w w') : ∃ v', same v v' ∧ Visit reader' simulate rules f w' calls v' result := by
  have hfetch := h (.unreadEntries f.id) nofun
  cases visit with
  | unselected leaves => exact ⟨w', hw, .unselected leaves⟩
  | unfetched selects answer =>
    obtain ⟨v', _, answer', hv⟩ := hfetch.answers answer hw
    exact ⟨v', hv, .unfetched selects answer'⟩
  | failed selects answer list killing =>
    obtain ⟨_, _, answer', hv⟩ := hfetch.answers answer hw
    obtain ⟨v', hend, killing'⟩ := killing.alike h hv
    exact ⟨v', hend, .failed selects answer' list killing'⟩
  | killed selects answer list killing =>
    obtain ⟨_, _, answer', hv⟩ := hfetch.answers answer hw
    obtain ⟨v', hend, killing'⟩ := killing.alike h hv
    exact ⟨v', hend, .killed selects answer' list killing'⟩

theorem Tour.alike (h : ∀ c, c ≠ .feeds → AlikeOn reader reader' same c) {fs : List Feed}
    {result : Except Failure (List Outcome)} (tour : Tour reader simulate rules w fs calls v result)
    (hw : same w w') : ∃ v', same v v' ∧ Tour reader' simulate rules w' fs calls v' result := by
  induction tour generalizing w' with
  | done => exact ⟨w', hw, .done⟩
  | failed visit =>
    obtain ⟨v', hv, visit'⟩ := visit.alike h hw
    exact ⟨v', hv, .failed visit'⟩
  | next visit rest ih =>
    obtain ⟨_, hv, visit'⟩ := visit.alike h hw
    obtain ⟨v', hend, rest'⟩ := ih hv
    exact ⟨v', hend, .next visit' rest'⟩

/-- Two readers that are alike have passes with the same result. -/
theorem run_alike (h : ∀ c, AlikeOn reader reader' same c) (hw : same w w') (simulate : Bool)
    (rules : List Rule) :
    (run reader simulate rules w).1 = (run reader' simulate rules w').1 ∧
      same (run reader simulate rules w).2.1 (run reader' simulate rules w').2.1 := by
  have htour := fun c (_ : c ≠ .feeds) => h c
  obtain ⟨calls, v, result, trace⟩ := exists_trace reader simulate rules w
  obtain ⟨hresult, hstate, -⟩ := trace.run
  rw [hresult, hstate]
  cases trace with
  | unlisted answer =>
    obtain ⟨v', _, answer', hv⟩ := (h .feeds).answers answer hw
    obtain ⟨hresult', hstate', -⟩ := (Trace.unlisted answer').run
    rw [hresult', hstate']
    exact ⟨rfl, hv⟩
  | aborted answer tour =>
    obtain ⟨_, _, answer', hv⟩ := (h .feeds).answers answer hw
    obtain ⟨v', hend, tour'⟩ := tour.alike htour hv
    obtain ⟨hresult', hstate', -⟩ := (Trace.aborted answer' tour').run
    rw [hresult', hstate']
    exact ⟨rfl, hend⟩
  | finished answer tour =>
    obtain ⟨_, _, answer', hv⟩ := (h .feeds).answers answer hw
    obtain ⟨v', hend, tour'⟩ := tour.alike htour hv
    obtain ⟨hresult', hstate', -⟩ := (Trace.finished answer' tour').run
    rw [hresult', hstate']
    exact ⟨rfl, hend⟩

/-- A tour of the feeds that a reader lists makes a trace, and its outcomes add up to the summary. -/
theorem Trace.of_tour {fs : List Feed} {u : W} {log : Log}
    {result : Except Failure (List Outcome)} (answer : reader.answer .feeds w = (.ok fs, u, log))
    (tour : Tour reader simulate rules u fs calls v result) :
    Trace reader simulate rules w (.feeds :: calls) v (result.map Outcome.total) := by
  rw [tour.map_total]
  cases result with
  | error x => exact .aborted answer tour
  | ok os => exact .finished answer tour

end

section

variable {W : Type} (reader : Reader W) (same : W → W → Prop) (simulate : Bool) (rules : List Rule)

/-- Nothing comes of a feed: no rule selects it, or its entries cannot be fetched and the attempt
leaves the reader as it was. -/
def Idle (f : Feed) (w : W) : Prop :=
  (∀ r ∈ rules, r.selects f = false) ∨
    ∃ x v log, reader.answer (.unreadEntries f.id) w = (.error x, v, log) ∧ same w v

/-- Nothing comes of the marked feeds when their turn comes in a tour of all. -/
def IdleMarks (w : W) (marked : List (Feed × Bool)) : Prop :=
  ∀ before f after, marked = before ++ (f, true) :: after → ∀ calls v os,
    Tour reader simulate rules w (before.map Prod.fst) calls v (.ok os) →
      Idle reader same rules f v

/-- The feeds without a mark. -/
def unmarked (marked : List (Feed × Bool)) : List Feed :=
  (marked.filter fun p => !p.2).map Prod.fst

/-- The number of marked feeds that some rule selects. -/
def selectedMarks (marked : List (Feed × Bool)) : Nat :=
  marked.countP fun p => p.2 && Rule.anySelects rules p.1

end

section

variable {W : Type} {reader : Reader W} {same : W → W → Prop} {simulate : Bool} {rules : List Rule}
  {w w' v : W} {calls : List Call} {f : Feed} {b : Bool} {marked : List (Feed × Bool)}

theorem IdleMarks.head (h : IdleMarks reader same simulate rules w ((f, true) :: marked)) :
    Idle reader same rules f w :=
  h [] f marked rfl [] w [] .done

theorem IdleMarks.tail {o : Outcome} (h : IdleMarks reader same simulate rules w ((f, b) :: marked))
    (visit : Visit reader simulate rules f w calls v (.ok o)) :
    IdleMarks reader same simulate rules v marked := by
  rintro before g after rfl calls' v' os tour
  exact h ((f, b) :: before) g after rfl _ v' (o :: os) (.next visit tour)

theorem idleMarks_cons (h : Idle reader same rules f w) (rest : ∀ p ∈ marked, p.2 = false) :
    IdleMarks reader same simulate rules w ((f, true) :: marked) := by
  rintro before g after hmarked calls v os tour
  cases before with
  | nil =>
    obtain ⟨rfl, -⟩ := Prod.mk.inj (List.cons.inj hmarked).1
    cases tour
    exact h
  | cons p before =>
    have hg : (g, true) ∈ marked := by simp [(List.cons.inj hmarked).2]
    exact absurd (rest _ hg) nofun

theorem Idle.unfetched (h : Idle reader same rules f w) (selects : ∃ r ∈ rules, r.selects f = true) :
    ∃ x v log, reader.answer (.unreadEntries f.id) w = (.error x, v, log) ∧ same w v := by
  obtain ⟨r, hr, hselects⟩ := selects
  exact h.resolve_left fun leaves => Bool.false_ne_true ((leaves r hr).symm.trans hselects)

/-- The visit of a feed of which nothing comes counts at most as one that failed. -/
theorem Visit.idle {result : Except Failure Outcome} (h : Idle reader same rules f w)
    (refl : ∀ w, same w w) (visit : Visit reader simulate rules f w calls v result) :
    same w v ∧ ∃ o, result = .ok o ∧
      o.summary = if Rule.anySelects rules f then ⟨1, 1, 0⟩ else {} := by
  cases visit with
  | unselected leaves =>
    have hf : Rule.anySelects rules f = false := List.any_eq_false.mpr fun r hr => by
      simp [leaves r hr]
    exact ⟨refl w, .unselected, rfl, by rw [hf]; rfl⟩
  | unfetched selects answer =>
    obtain ⟨x, u, _, answer', hsame⟩ := h.unfetched selects
    obtain rfl : u = v := congrArg (·.2.1) (answer'.symm.trans answer)
    have hf : Rule.anySelects rules f = true := List.any_eq_true.mpr selects
    exact ⟨hsame, .unfetched, rfl, by rw [hf]; rfl⟩
  | failed selects answer list killing =>
    obtain ⟨x, u, _, answer', -⟩ := h.unfetched selects
    cases congrArg Prod.fst (answer'.symm.trans answer)
  | killed selects answer list killing =>
    obtain ⟨x, u, _, answer', -⟩ := h.unfetched selects
    cases congrArg Prod.fst (answer'.symm.trans answer)

theorem Outcome.map_total_cons (o : Outcome) (result : Except Failure (List Outcome)) :
    (result.map (o :: ·)).map Outcome.total = (result.map Outcome.total).map o.summary.add := by
  cases result <;> rfl

theorem selectedMarks_cons_unmarked (rules : List Rule) (f : Feed) (marked : List (Feed × Bool)) :
    selectedMarks rules ((f, false) :: marked) = selectedMarks rules marked := by
  simp [selectedMarks]

theorem selectedMarks_cons_marked (rules : List Rule) (f : Feed) (marked : List (Feed × Bool)) :
    selectedMarks rules ((f, true) :: marked) =
      selectedMarks rules marked + if Rule.anySelects rules f then 1 else 0 := by
  simp [selectedMarks, List.countP_cons]

/-- A tour of the feeds without a mark ends like the tour of all, when nothing comes of the others. -/
theorem Tour.unmarked (equiv : Equivalence same) (h : ∀ c, AlikeOn reader reader same c)
    {result : Except Failure (List Outcome)}
    (idle : IdleMarks reader same simulate rules w marked)
    (tour : Tour reader simulate rules w (marked.map Prod.fst) calls v result) (hw : same w w') :
    ∃ calls' v' result', Tour reader simulate rules w' (unmarked marked) calls' v' result' ∧
      same v v' ∧ result.map Outcome.total = result'.map fun os =>
        (Outcome.total os).add ⟨selectedMarks rules marked, selectedMarks rules marked, 0⟩ := by
  induction marked generalizing w w' calls result with
  | nil =>
    cases tour with
    | done => exact ⟨[], w', .ok [], .done, hw, rfl⟩
  | cons p marked ih =>
    obtain ⟨f, _ | _⟩ := p
    · rw [selectedMarks_cons_unmarked]
      cases tour with
      | failed visit =>
        obtain ⟨v', hv, visit'⟩ := visit.alike (fun c _ => h c) hw
        exact ⟨_, v', _, .failed visit', hv, rfl⟩
      | next visit rest =>
        obtain ⟨_, hu, visit'⟩ := visit.alike (fun c _ => h c) hw
        obtain ⟨_, v', result', rest', hv, htotal⟩ := ih (idle.tail visit) rest hu
        refine ⟨_, v', _, .next visit' rest', hv, ?_⟩
        rw [Outcome.map_total_cons, htotal]
        cases result' with
        | error x => rfl
        | ok os => exact congrArg Except.ok (by simp [Summary.add, Outcome.total, Nat.add_assoc])
    · rw [selectedMarks_cons_marked]
      cases tour with
      | failed visit =>
        obtain ⟨-, o, ho, -⟩ := visit.idle idle.head equiv.refl
        cases ho
      | next visit rest =>
        obtain ⟨hu, _, ho, hsummary⟩ := visit.idle idle.head equiv.refl
        obtain rfl := Except.ok.inj ho
        obtain ⟨_, v', result', rest', hv, htotal⟩ :=
          ih (idle.tail visit) rest (equiv.trans (equiv.symm hu) hw)
        refine ⟨_, v', _, rest', hv, ?_⟩
        rw [Outcome.map_total_cons, htotal, hsummary]
        cases result' with
        | error x => rfl
        | ok os =>
          refine congrArg Except.ok ?_
          by_cases hf : Rule.anySelects rules f = true
          · simp only [hf, ↓reduceIte, Summary.add, Summary.mk.injEq]
            omega
          · simp [hf, Summary.add]

theorem IdleMarks.exchanging (h : IdleMarks reader same simulate rules w marked)
    (l : List Exchange) :
    IdleMarks reader.exchanging (SameExchanges same) simulate rules (w, l) marked := by
  rintro before f after hmarked calls s os tour
  obtain ⟨_, rfl, tour'⟩ := tour.alike (fun c _ => Reader.alikeOn_of_exchanging reader c) rfl
  rcases h before f after hmarked calls s.1 os tour' with leaves | ⟨x, u, log, answer, hu⟩
  · exact .inl leaves
  · refine .inr ⟨x, (u, s.2 ++ [⟨.unreadEntries f.id, .error x⟩]), log, ?_, hu, ?_⟩
    · simp [Reader.exchanging, answer]
    · rw [aboutEntries_append]
      exact (List.append_nil _).symm

/-- A record of the exchanges changes nothing else. -/
theorem run_exchanging (reader : Reader W) (simulate : Bool) (rules : List Rule) (w : W) :
    (run reader.exchanging simulate rules (w, [])).1 = (run reader simulate rules w).1 ∧
      (run reader.exchanging simulate rules (w, [])).2.1.1 = (run reader simulate rules w).2.1 :=
  run_alike (Reader.alikeOn_of_exchanging reader) rfl simulate rules

theorem run_exchanging_relisted (equiv : Equivalence same)
    (alike : ∀ c, AlikeOn reader reader same c)
    (listed : ∀ fs v log, reader.answer .feeds w = (.ok fs, v, log) →
      fs = marked.map Prod.fst ∧ IdleMarks reader same simulate rules v marked) :
    (run reader.exchanging simulate rules (w, [])).1 =
      (run (reader.relisted (unmarked marked)).exchanging simulate rules (w, [])).1.map
        (·.add ⟨selectedMarks rules marked, selectedMarks rules marked, 0⟩) ∧
    SameExchanges same (run reader.exchanging simulate rules (w, [])).2.1
      (run (reader.relisted (unmarked marked)).exchanging simulate rules (w, [])).2.1 := by
  rcases answer : reader.answer .feeds w with ⟨x | fs, v, log⟩
  · have first : reader.exchanging.answer .feeds (w, []) =
        (.error x, (v, [⟨.feeds, .error x⟩]), log) := by
      simp [Reader.exchanging, answer]
    have second : (reader.relisted (unmarked marked)).exchanging.answer .feeds (w, []) =
        (.error x, (v, [⟨.feeds, .error x⟩]), log) := by
      simp [Reader.exchanging, Reader.relisted, answer, Except.map]
    have trace : Trace reader.exchanging simulate rules _ _ _ _ := .unlisted first
    have trace' : Trace (reader.relisted (unmarked marked)).exchanging simulate rules _ _ _ _ :=
      .unlisted second
    obtain ⟨hresult, hstate, -⟩ := trace.run
    obtain ⟨hresult', hstate', -⟩ := trace'.run
    rw [hresult, hstate, hresult', hstate']
    exact ⟨rfl, (SameExchanges.equivalence equiv).refl _⟩
  · obtain ⟨rfl, idle⟩ := listed fs v log answer
    have first : reader.exchanging.answer .feeds (w, []) =
        (.ok (marked.map Prod.fst), (v, [⟨.feeds, .ok (marked.map Prod.fst)⟩]), log) := by
      simp [Reader.exchanging, answer]
    have second : (reader.relisted (unmarked marked)).exchanging.answer .feeds (w, []) =
        (.ok (unmarked marked), (v, [⟨.feeds, .ok (unmarked marked)⟩]), log) := by
      simp [Reader.exchanging, Reader.relisted, answer, Except.map]
    -- Both tours begin where the lists were fetched. The records differ there by the lists alone.
    have hbegin : SameExchanges same (v, [⟨.feeds, .ok (marked.map Prod.fst)⟩])
        (v, [⟨.feeds, .ok (unmarked marked)⟩]) := ⟨equiv.refl v, rfl⟩
    obtain ⟨calls, s, result, tour⟩ := exists_tour reader.exchanging simulate rules
      (v, [⟨.feeds, .ok (marked.map Prod.fst)⟩]) (marked.map Prod.fst)
    obtain ⟨calls', s', result', tour', hs, htotal⟩ :=
      tour.unmarked (SameExchanges.equivalence equiv) (fun c => (alike c).exchanging)
        (idle.exchanging _) hbegin
    obtain ⟨_, rfl, tour''⟩ := tour'.alike
      (fun c hc => Reader.alikeOn_exchanging_relisted reader (unmarked marked) hc) rfl
    obtain ⟨hresult, hstate, -⟩ := (Trace.of_tour first tour).run
    obtain ⟨hresult', hstate', -⟩ := (Trace.of_tour second tour'').run
    rw [hresult, hstate, hresult', hstate', htotal]
    refine ⟨?_, hs⟩
    cases result' <;> rfl

/-- Two passes give the same orders and look up the same entries, and all of this is answered alike.
They end with the same failure, or with summaries of which the first counts so many feeds more, all of
them among those that failed. -/
structure AgreeBut (simulate : Bool) (rules : List Rule) (n : Nat) (reader reader' : Reader W)
    (w w' : W) : Prop where
  result : (run reader simulate rules w).1 =
    (run reader' simulate rules w').1.map (·.add ⟨n, n, 0⟩)
  exchanges : aboutEntries (run reader.exchanging simulate rules (w, [])).2.1.2 =
    aboutEntries (run reader'.exchanging simulate rules (w', [])).2.1.2

theorem agreeBut_relisted (equiv : Equivalence same) (alike : ∀ c, AlikeOn reader reader same c)
    (listed : ∀ fs v log, reader.answer .feeds w = (.ok fs, v, log) →
      fs = marked.map Prod.fst ∧ IdleMarks reader same simulate rules v marked) :
    AgreeBut simulate rules (selectedMarks rules marked) reader
        (reader.relisted (unmarked marked)) w w ∧
      same (run reader simulate rules w).2.1
        (run (reader.relisted (unmarked marked)) simulate rules w).2.1 := by
  obtain ⟨hresult, hstate, hexchanges⟩ := run_exchanging_relisted equiv alike listed
  obtain ⟨hplain, hplainState⟩ := run_exchanging reader simulate rules w
  obtain ⟨hplain', hplainState'⟩ :=
    run_exchanging (reader.relisted (unmarked marked)) simulate rules w
  rw [hplain, hplain'] at hresult
  rw [hplainState, hplainState'] at hstate
  exact ⟨⟨hresult, hexchanges⟩, hstate⟩

end

section

open Memory (reader)

variable {simulate : Bool} {rules : List Rule} {m m' : Memory} {marked : List (Feed × Bool)}

/-- A memory whose feeds are replaced is one that lists other feeds. -/
theorem alikeOn_relisted_memory (fs : List Feed) (c : Call) :
    AlikeOn (reader.relisted fs) reader (fun m m' => m' = { m with feeds := fs }) c := by
  rintro m _ rfl
  cases c with
  | me => exact ⟨rfl, rfl⟩
  | feeds =>
    refine ⟨?_, rfl⟩
    simp only [Reader.relisted, Memory.reader_answer, Memory.reply]
    split <;> rfl
  | unreadEntries feed => exact ⟨rfl, rfl⟩
  | entry id => exact ⟨rfl, rfl⟩
  | updateEntries ids status =>
    refine ⟨rfl, ?_⟩
    simp only [Reader.relisted, Memory.reader_answer, Memory.after]
    split <;> rfl

theorem Tour.brokenFeeds {fs : List Feed} {calls : List Call} {os : List Outcome}
    (tour : Tour reader simulate rules m fs calls m' (.ok os)) : m'.brokenFeeds = m.brokenFeeds := by
  cases simulate with
  | true => rw [tour.asks.2 Memory.keptByQuestions]
  | false => exact (tour.again os rfl).1.unchanged.2.2

theorem idleMarks_of_broken (idle : ∀ p ∈ marked, p.2 = true →
      (∀ r ∈ rules, r.selects p.1 = false) ∨ p.1.id ∈ m.brokenFeeds) :
    IdleMarks reader Eq simulate rules m marked := by
  rintro before f after rfl calls v os tour
  refine (idle (f, true) (by simp) rfl).imp id fun hbroken => ?_
  rw [← tour.brokenFeeds] at hbroken
  exact ⟨_, v, [], answer_unreadEntries_of_broken hbroken, rfl⟩

theorem agreeBut_memory (hfeeds : m.feeds = marked.map Prod.fst)
    (idle : ∀ p ∈ marked, p.2 = true →
      (∀ r ∈ rules, r.selects p.1 = false) ∨ p.1.id ∈ m.brokenFeeds) :
    AgreeBut simulate rules (selectedMarks rules marked) reader reader m
        { m with feeds := unmarked marked } ∧
      (run reader simulate rules { m with feeds := unmarked marked }).2.1 =
        { (run reader simulate rules m).2.1 with feeds := unmarked marked } := by
  have listed : ∀ fs v log, reader.answer .feeds m = (.ok fs, v, log) →
      fs = marked.map Prod.fst ∧ IdleMarks reader Eq simulate rules v marked := by
    intro fs v log answer
    obtain ⟨-, rfl, rfl⟩ := Memory.of_feeds_ok answer
    exact ⟨hfeeds, idleMarks_of_broken idle⟩
  obtain ⟨⟨hresult, hexchanges⟩, hstate⟩ :=
    agreeBut_relisted eq_equivalence (by rintro c w _ rfl; exact ⟨rfl, rfl⟩) listed
  have alike := alikeOn_relisted_memory (unmarked marked)
  have begin : SameExchanges (fun m m' => m' = { m with feeds := unmarked marked }) (m, [])
      ({ m with feeds := unmarked marked }, []) := ⟨rfl, rfl⟩
  obtain ⟨hresult', hstate'⟩ := run_alike alike begin.1 simulate rules
  obtain ⟨-, -, hexchanges'⟩ := run_alike (fun c => (alike c).exchanging) begin simulate rules
  refine ⟨⟨hresult.trans (congrArg _ hresult'), hexchanges.trans hexchanges'⟩, ?_⟩
  rw [hstate]
  exact hstate'

end

/-- Feeds of which nothing comes disturb no pass. When any of those that no rule selects and of those
whose entries cannot be fetched are taken off the list, the orders and the look-ups stay the same with
their answers, and so do the state in which the reader is left and the failure that ends the pass. A
summary counts less feeds, and less failed ones, by the number of those taken off that some rule
selects. States are the same that a relation ties which no call can tell apart; equality is one. In
memory feeds can be fetched or not whatever happens, and nothing else has to be known. -/
theorem run_unmarked (simulate : Bool) (rules : List Rule) (marked : List (Feed × Bool)) :
    (∀ (W : Type) (reader : Reader W) (same : W → W → Prop) (w : W), Equivalence same →
      (∀ c, AlikeOn reader reader same c) →
      (∀ fs v log, reader.answer .feeds w = (.ok fs, v, log) →
        fs = marked.map Prod.fst ∧ IdleMarks reader same simulate rules v marked) →
      AgreeBut simulate rules (selectedMarks rules marked) reader
          (reader.relisted (unmarked marked)) w w ∧
        same (run reader simulate rules w).2.1
          (run (reader.relisted (unmarked marked)) simulate rules w).2.1) ∧
    ∀ m : Memory, m.feeds = marked.map Prod.fst →
      (∀ p ∈ marked, p.2 = true →
        (∀ r ∈ rules, r.selects p.1 = false) ∨ p.1.id ∈ m.brokenFeeds) →
      AgreeBut simulate rules (selectedMarks rules marked) Memory.reader Memory.reader m
          { m with feeds := unmarked marked } ∧
        (run Memory.reader simulate rules { m with feeds := unmarked marked }).2.1 =
          { (run Memory.reader simulate rules m).2.1 with feeds := unmarked marked } :=
  ⟨fun _ _ _ _ equiv alike listed => agreeBut_relisted equiv alike listed,
    fun _ hfeeds idle => agreeBut_memory hfeeds idle⟩

/-- A broken feed that is listed twice and marked once, a marked feed that no rule selects, and two
others. -/
def crowdedFeeds : List (Feed × Bool) :=
  [({ id := 9, url := "http://example.com/a.xml" }, true), (Rule.sampleFeed, false),
    ({ id := 6, url := "http://other.org/feed.xml" }, true),
    ({ id := 9, url := "http://example.com/b.xml" }, false),
    ({ id := 8, url := "http://example.com/moon.xml" }, false)]

def crowdedMemory (failing : List Int) : Memory :=
  { moonMemory failing with feeds := crowdedFeeds.map Prod.fst, brokenFeeds := [9] }

def crowdedRules : List Rule := [.ofFields "ignore-article" "example.com" "title" "#" "Moon"]

/-- Without the marked feeds the live pass has one feed less to check and one less that failed. When
the update of the last entry fails, the pass ends with this failure, with the marked feeds or
without them, after three updates. -/
theorem run_unmarked_crowded :
    (∀ p ∈ crowdedFeeds, p.2 = true →
      (∀ r ∈ crowdedRules, r.selects p.1 = false) ∨ p.1.id ∈ (crowdedMemory []).brokenFeeds) ∧
    (run Memory.reader false crowdedRules (crowdedMemory [])).1 = .ok ⟨4, 2, 3⟩ ∧
    (run Memory.reader false crowdedRules (crowdedMemory [])).1 =
      (run Memory.reader false crowdedRules
        { crowdedMemory [] with feeds := unmarked crowdedFeeds }).1.map (·.add ⟨1, 1, 0⟩) ∧
    (run Memory.reader false crowdedRules (crowdedMemory [4])).1 = .error (.api 500 "boom") ∧
    (run (Memory.reader.relisted (unmarked crowdedFeeds)) false crowdedRules
      (crowdedMemory [4])).2.1 = (run Memory.reader false crowdedRules (crowdedMemory [4])).2.1 ∧
    (aboutEntries (run (Memory.reader.relisted (unmarked crowdedFeeds)).exchanging false crowdedRules
      (crowdedMemory [4], [])).2.1.2).map Sigma.fst =
      [.updateEntries [1] .read, .updateEntries [3] .read, .updateEntries [4] .read] := by
  have idle : ∀ p ∈ crowdedFeeds, p.2 = true →
      (∀ r ∈ crowdedRules, r.selects p.1 = false) ∨ p.1.id ∈ [(9 : Int)] := by decide +kernel
  have listed : ∀ fs v log, Memory.reader.answer .feeds (crowdedMemory [4]) = (.ok fs, v, log) →
      fs = crowdedFeeds.map Prod.fst ∧ IdleMarks Memory.reader Eq false crowdedRules v crowdedFeeds := by
    intro fs v log answer
    obtain ⟨-, rfl, rfl⟩ := Memory.of_feeds_ok answer
    exact ⟨rfl, idleMarks_of_broken idle⟩
  obtain ⟨general, inMemory⟩ := run_unmarked false crowdedRules crowdedFeeds
  obtain ⟨⟨hresult, -⟩, -⟩ := inMemory (crowdedMemory []) rfl idle
  obtain ⟨⟨-, hexchanges⟩, hstate⟩ := general Memory Memory.reader Eq (crowdedMemory [4])
    eq_equivalence (by rintro c w _ rfl; exact ⟨rfl, rfl⟩) listed
  refine ⟨idle, by decide +kernel, hresult, by decide +kernel, hstate.symm, ?_⟩
  rw [← hexchanges]
  decide +kernel

/-- The feed reader of a server that has its responses prepared. -/
def scriptReader : Reader Http.Script :=
  Client.reader Http.Script.transport
    ⟨{ scheme := "http".toList, host := some (.domain "h".toList), path := "/".toList }, "k"⟩

def busyFeeds : List (Feed × Bool) :=
  [({ id := 9, url := "a" }, true), ({ id := 7, url := "b" }, false)]

/-- The list of both feeds, a server that is busy once, an entry on the moon, and an order that is
taken. -/
def busyScript : Http.Script where
  responses := [
    { body := Text.Utf8.encode
        "[\x7b\"id\":9,\"feed_url\":\"a\"\x7d,\x7b\"id\":7,\"feed_url\":\"b\"\x7d]" },
    { status := 503 },
    { body := Text.Utf8.encode "\x7b\"entries\":[\x7b\"id\":1,\"title\":\"Moon\"\x7d]\x7d" },
    { status := 204 }]

/-- The same feeds in memory, the first of them broken. -/
def brokenMemory : Memory where
  feeds := busyFeeds.map Prod.fst
  entries := [(7, [{ id := 1, title := "Moon" }])]
  brokenFeeds := [9]

def busyRules : List Rule := [.ofFields "ignore-article" "*" "title" "#" "Moon"]

/-- An attempt to fetch entries may change the reader although it fails. A server that is busy once
refuses the feed that is asked for first. Without that feed it refuses the other one, whose entry is
then not marked, and has two responses left. A reader in memory that keeps a record of its calls is
left without the call for the broken feed. -/
theorem run_unmarked_busy :
    (scriptReader.answer .feeds busyScript).1 = .ok (busyFeeds.map Prod.fst) ∧
    IdleMarks scriptReader (fun _ _ => True) false busyRules
      (scriptReader.answer .feeds busyScript).2.1 busyFeeds ∧
    (run scriptReader false busyRules busyScript).1 = .ok ⟨2, 1, 1⟩ ∧
    (run (scriptReader.relisted (unmarked busyFeeds)) false busyRules busyScript).1 = .ok ⟨1, 1, 0⟩ ∧
    (aboutEntries (run scriptReader.exchanging false busyRules (busyScript, [])).2.1.2).map Sigma.fst =
      [.updateEntries [1] .read] ∧
    (aboutEntries (run (scriptReader.relisted (unmarked busyFeeds)).exchanging false busyRules
      (busyScript, [])).2.1.2).map Sigma.fst = [] ∧
    (run scriptReader false busyRules busyScript).2.1.responses.length = 0 ∧
    (run (scriptReader.relisted (unmarked busyFeeds)) false busyRules busyScript).2.1.responses.length =
      2 ∧
    (run Memory.reader.recorded false busyRules (brokenMemory, [])).2.1.2 =
      [.feeds, .unreadEntries 9, .unreadEntries 7, .updateEntries [1] .read] ∧
    (run (Memory.reader.recorded.relisted (unmarked busyFeeds)) false busyRules
      (brokenMemory, [])).2.1.2 = [.feeds, .unreadEntries 7, .updateEntries [1] .read] := by
  have hrefused : (scriptReader.answer (.unreadEntries 9)
      (scriptReader.answer .feeds busyScript).2.1).1 = .error (.api 503 "Service Unavailable") := by
    decide +kernel
  have hidle : Idle scriptReader (fun _ _ => True) busyRules { id := 9, url := "a" }
      (scriptReader.answer .feeds busyScript).2.1 :=
    .inr ⟨_, _, _, Prod.ext hrefused rfl, trivial⟩
  refine ⟨by decide +kernel, idleMarks_cons hidle (by decide), ?_, ?_, ?_, ?_, ?_, ?_, ?_, ?_⟩
  all_goals decide +kernel

end Pass

end Killfile

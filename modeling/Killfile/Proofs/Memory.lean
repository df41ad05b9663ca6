import Killfile.Proofs.Pass
import Killfile.Reader.Memory

/-! Feeds and entries in memory, as orders to mark entries as read leave them. An order changes the
status of the entries it names and nothing else, and several orders come to one. -/

namespace Killfile

namespace Memory

/-- All entries, each with the id of the feed that it is stored under. -/
def stored (m : Memory) : List (Int × Entry) := m.entries.flatMap fun p => p.2.map (p.1, ·)

theorem mem_stored {m : Memory} {k : Int} {e : Entry} :
    (k, e) ∈ m.stored ↔ ∃ p ∈ m.entries, p.1 = k ∧ e ∈ p.2 := by
  simp only [stored, List.mem_flatMap, List.mem_map, Prod.mk.injEq]
  constructor
  · rintro ⟨p, hp, e', he, hk, rfl⟩
    exact ⟨p, hp, hk, he⟩
  · rintro ⟨p, hp, hk, he⟩
    exact ⟨p, hp, e, he, hk, rfl⟩

theorem mem_entriesOf {m : Memory} {k : Int} {e : Entry} :
    e ∈ m.entriesOf k ↔ (k, e) ∈ m.stored := by
  simp [entriesOf, mem_stored, and_assoc]

/-- The unread entries that are stored under the id of a feed. -/
def unreadOf (m : Memory) (k : Int) : List Entry :=
  (m.entriesOf k).filter fun e => e.status = .unread

theorem mem_unreadOf {m : Memory} {k : Int} {e : Entry} :
    e ∈ m.unreadOf k ↔ (k, e) ∈ m.stored ∧ e.status = .unread := by
  simp [unreadOf, mem_entriesOf]

theorem allEntries_eq (m : Memory) : m.allEntries = m.stored.map Prod.snd := by
  simp [allEntries, stored, List.map_flatMap, Function.comp_def]

/-- If no id occurs twice, an id tells an entry and the feed that it is stored under. -/
theorem eq_of_id_eq {m : Memory} (h : (m.allEntries.map (·.id)).Nodup) {s t : Int × Entry}
    (hs : s ∈ m.stored) (ht : t ∈ m.stored) (hid : s.2.id = t.2.id) : s = t := by
  rw [allEntries_eq, List.map_map] at h
  exact List.inj_on_of_nodup_map h hs ht hid

/-- The same feeds and entries, with status read where a property holds of an entry and the id of its
feed. -/
def markRead (m : Memory) (p : Int → Entry → Bool) : Memory :=
  { m with entries := m.entries.map fun q =>
      (q.1, q.2.map fun e => if p q.1 e then { e with status := .read } else e) }

section

variable (m : Memory) (p : Int → Entry → Bool)

@[simp] theorem brokenFeeds_markRead : (m.markRead p).brokenFeeds = m.brokenFeeds := rfl

theorem setStatus_read (ids : List Int) :
    m.setStatus ids .read = m.markRead fun _ e => decide (e.id ∈ ids) := by
  simp [setStatus, markRead]

@[simp] theorem markRead_false : m.markRead (fun _ _ => false) = m := by
  simp [markRead]

end

theorem markRead_congr {m : Memory} {p q : Int → Entry → Bool}
    (h : ∀ s ∈ m.stored, p s.1 s.2 = q s.1 s.2) : m.markRead p = m.markRead q := by
  rw [markRead, markRead, mk.injEq]
  refine ⟨rfl, List.map_congr_left fun l hl => ?_, rfl, rfl, rfl, rfl, rfl⟩
  refine congrArg (l.1, ·) (List.map_congr_left fun e he => ?_)
  rw [h (l.1, e) (mem_stored.mpr ⟨l, hl, rfl, he⟩)]

/-- What is marked in two steps may be marked in one, if the second does not look at the status. -/
theorem markRead_markRead (m : Memory) (p : Int → Entry → Bool) {q : Int → Entry → Bool}
    (hq : ∀ k e s, q k { e with status := s } = q k e) :
    (m.markRead p).markRead q = m.markRead fun k e => p k e || q k e := by
  rw [markRead, markRead, markRead, mk.injEq]
  refine ⟨rfl, ?_, rfl, rfl, rfl, rfl, rfl⟩
  simp only [List.map_map]
  refine List.map_congr_left fun l hl => ?_
  simp only [Function.comp_apply, List.map_map]
  refine congrArg (l.1, ·) (List.map_congr_left fun e he => ?_)
  cases hp : p l.1 e <;> simp [hp, hq]

theorem entriesOf_markRead (m : Memory) (p : Int → Entry → Bool) (k : Int) :
    (m.markRead p).entriesOf k =
      (m.entriesOf k).map fun e => if p k e then { e with status := .read } else e := by
  simp only [entriesOf, markRead, List.filter_map, List.flatMap_map, List.map_flatMap,
    Function.comp_def]
  refine List.flatMap_congr fun l hl => ?_
  obtain rfl : l.1 = k := by simpa using (List.mem_filter.mp hl).2
  rfl

/-- An entry that is marked is not among the unread ones any more. -/
theorem unreadOf_markRead (m : Memory) (p : Int → Entry → Bool) (k : Int) :
    (m.markRead p).unreadOf k = (m.unreadOf k).filter fun e => !p k e := by
  rw [unreadOf, unreadOf, entriesOf_markRead, List.filter_filter, List.filter_map]
  induction m.entriesOf k with
  | nil => rfl
  | cons e es ih =>
    cases hp : p k e with
    | true => simpa [List.filter_cons, hp] using ih
    | false =>
      by_cases hu : e.status = .unread
      · simpa [List.filter_cons, hp, hu] using ih
      · simpa [List.filter_cons, hp, hu] using ih

/-! What the calls of a pass give, read backwards. -/

section

variable {m m' : Memory} {log : Log}

theorem of_answer {c : Call} {a : Except Failure c.Answer}
    (h : reader.answer c m = (a, m', log)) : m.reply c = a ∧ m.after c = m' :=
  ⟨congrArg Prod.fst h, congrArg (·.2.1) h⟩

theorem of_feeds_ok {fs : List Feed} (h : reader.answer .feeds m = (.ok fs, m', log)) :
    m.feedsFail = false ∧ fs = m.feeds ∧ m' = m := by
  obtain ⟨hreply, rfl⟩ := of_answer h
  rw [reply] at hreply
  split at hreply
  · cases hreply
  · next hlisted => exact ⟨by simpa using hlisted, (Except.ok.inj hreply).symm, rfl⟩

theorem of_feeds_error {x : Failure} (h : reader.answer .feeds m = (.error x, m', log)) :
    m.feedsFail = true ∧ m' = m := by
  obtain ⟨hreply, rfl⟩ := of_answer h
  rw [reply] at hreply
  split at hreply
  · next hfail => exact ⟨hfail, rfl⟩
  · cases hreply

theorem of_unreadEntries_ok {k : Int} {es : List Entry}
    (h : reader.answer (.unreadEntries k) m = (.ok es, m', log)) :
    k ∉ m.brokenFeeds ∧ es = m.unreadOf k ∧ m' = m := by
  obtain ⟨hreply, rfl⟩ := of_answer h
  rw [reply] at hreply
  split at hreply
  · cases hreply
  · next hk => exact ⟨hk, (Except.ok.inj hreply).symm, rfl⟩

theorem of_unreadEntries_error {k : Int} {x : Failure}
    (h : reader.answer (.unreadEntries k) m = (.error x, m', log)) :
    k ∈ m.brokenFeeds ∧ m' = m := by
  obtain ⟨hreply, rfl⟩ := of_answer h
  rw [reply] at hreply
  split at hreply
  · next hk => exact ⟨hk, rfl⟩
  · cases hreply

theorem of_updateEntries_ok {n : Int} {a : Unit}
    (h : reader.answer (.updateEntries [n] .read) m = (.ok a, m', log)) :
    n ∉ m.failingUpdates ∧ m' = m.markRead fun _ e => decide (e.id ∈ [n]) := by
  obtain ⟨hreply, hafter⟩ := of_answer h
  rw [reply] at hreply
  rw [after] at hafter
  split at hreply
  · cases hreply
  · next hn =>
    rw [if_neg hn, setStatus_read] at hafter
    exact ⟨by simpa using hn, hafter.symm⟩

theorem of_updateEntries_error {n : Int} {x : Failure}
    (h : reader.answer (.updateEntries [n] .read) m = (.error x, m', log)) :
    n ∈ m.failingUpdates ∧ m' = m := by
  obtain ⟨hreply, hafter⟩ := of_answer h
  rw [reply] at hreply
  rw [after] at hafter
  split at hreply
  · next hn =>
    rw [if_pos hn] at hafter
    exact ⟨by simpa using hn, hafter.symm⟩
  · cases hreply

end

end Memory

namespace Pass

open Memory (reader)

/-- Live, entries are killed in order up to the first whose update fails. -/
theorem Killing.live {m m' : Memory} {ids : List Int} {calls : List Call}
    {result : Except Failure Unit} (h : Killing reader false m ids calls m' result) :
    ∃ done rest, ids = done ++ rest ∧ (∀ n ∈ done, n ∉ m.failingUpdates) ∧
      m' = (m.markRead fun _ e => decide (e.id ∈ done)) ∧
      ((rest = [] ∧ result = .ok () ∧ calls = done.map (killCall false)) ∨
        ∃ n rest' x, rest = n :: rest' ∧ n ∈ m.failingUpdates ∧ result = .error x ∧
          calls = done.map (killCall false) ++ [killCall false n]) := by
  induction h with
  | done => exact ⟨[], [], rfl, by simp, by simp, .inl ⟨rfl, rfl, rfl⟩⟩
  | @failed _ _ id ids x _ answer =>
    obtain ⟨hid, rfl⟩ := Memory.of_updateEntries_error answer
    exact ⟨[], id :: ids, rfl, by simp, by simp, .inr ⟨id, ids, x, rfl, hid, rfl, rfl⟩⟩
  | @next w _ _ id _ _ _ _ _ answer later ih =>
    obtain ⟨hid, rfl⟩ := Memory.of_updateEntries_ok answer
    obtain ⟨done, rest, rfl, hdone, rfl, hend⟩ := ih
    refine ⟨id :: done, rest, rfl, List.forall_mem_cons.mpr ⟨hid, hdone⟩, ?_, ?_⟩
    · rw [Memory.markRead_markRead w _ fun _ _ _ => rfl]
      simp
    · obtain ⟨rfl, rfl, rfl⟩ | ⟨n, rest', x, rfl, hn, rfl, rfl⟩ := hend
      · exact .inl ⟨rfl, rfl, rfl⟩
      · exact .inr ⟨n, rest', x, rfl, hn, rfl, rfl⟩

end Pass

end Killfile

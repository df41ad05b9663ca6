import Killfile.KillSet
import Killfile.Reader

/-! One pass over the feeds of a reader: unread entries that the rules kill are marked as read, or
looked up when the pass only simulates this. -/

namespace Killfile

/-- What a pass did: feeds that some rule selects, those of them whose entries could not be fetched,
and entries killed. -/
structure Summary where
  checked : Nat := 0
  failed : Nat := 0
  killed : Nat := 0
deriving DecidableEq, Repr

def Summary.add (s t : Summary) : Summary :=
  ⟨s.checked + t.checked, s.failed + t.failed, s.killed + t.killed⟩

namespace Pass

variable {W : Type} (reader : Reader W) (simulate : Bool) (rules : List Rule)

/-- Marks one entry as read, or looks it up to report it. -/
def killEntry (f : Feed) (id : Int) : Logged W (Except Failure Unit) := do
  if simulate then
    match ← reader.answer (.entry id) with
    | .ok e =>
      Logged.report ⟨.info, "would set status to read",
        [("entry_id", .int id), ("feed_id", .int f.id), ("entry_title", .text e.title)]⟩
      pure (.ok ())
    | .error x =>
      Logged.report ⟨.error, "failed to fetch entry", [("entry_id", .int id)]⟩
      pure (.error x)
  else
    Logged.report ⟨.info, "set status to read", [("entry_id", .int id), ("feed_id", .int f.id)]⟩
    match ← reader.answer (.updateEntries [id] .read) with
    | .ok _ => pure (.ok ())
    | .error x =>
      Logged.report ⟨.error, "error on updating the feed entries", [("entry_id", .int id)]⟩
      pure (.error x)

/-- Kills entries in order up to the first failure. -/
def killEntries (f : Feed) : List Int → Logged W (Except Failure Unit)
  | [] => pure (.ok ())
  | id :: ids => do
    match ← killEntry reader simulate f id with
    | .ok _ => killEntries f ids
    | .error x => pure (.error x)

/-- The event after the entries of a feed. -/
def feedEvent (f : Feed) (affected : Nat) : Event :=
  ⟨.info, "marked all matched feed items as read",
    [("feed_id", .int f.id), ("feed", .text f.displayTitle), ("affected", .int affected),
      ("simulation", .flag simulate)]⟩

/-- A feed that no rule selects is left alone. For any other the unread entries are fetched, and a
failure to do so is counted and ends nothing. -/
def visit (f : Feed) : Logged (W × PatternCache) (Except Failure Summary) := do
  if Rule.anySelects rules f then
    match ← (reader.answer (.unreadEntries f.id)).onFst with
    | .error _ =>
      Logged.report ⟨.error, "failed to fetch unread entries", [("feed_id", .int f.id)]⟩
      pure (.ok ⟨1, 1, 0⟩)
    | .ok es =>
      let ids ← (Rule.killSet rules f es).onSnd
      match ← (killEntries reader simulate f ids).onFst with
      | .error x => pure (.error x)
      | .ok _ =>
        if ids ≠ [] then Logged.report (feedEvent simulate f ids.length)
        pure (.ok ⟨1, 0, ids.length⟩)
  else pure (.ok {})

/-- Visits feeds in order up to the first failure that a visit ends with. -/
def visitAll : List Feed → Logged (W × PatternCache) (Except Failure Summary)
  | [] => pure (.ok {})
  | f :: fs => do
    match ← visit reader simulate rules f with
    | .error x => pure (.error x)
    | .ok s =>
      match ← visitAll fs with
      | .error x => pure (.error x)
      | .ok t => pure (.ok (s.add t))

/-- The event at the end of a pass. -/
def endEvent (feeds : Nat) (s : Summary) : Event :=
  ⟨.info, "filter job finished",
    [("feeds", .int feeds), ("checked", .int s.checked), ("failed", .int s.failed),
      ("killed", .int s.killed), ("simulation", .flag simulate)]⟩

/-- A whole pass. -/
def run : Logged W (Except Failure Summary) := do
  match ← reader.answer .feeds with
  | .error x =>
    Logged.report ⟨.error, "failed to fetch feeds", []⟩
    pure (.error x)
  | .ok fs =>
    match ← (visitAll reader simulate rules fs).starting [] with
    | .error x => pure (.error x)
    | .ok s =>
      Logged.report (endEvent simulate fs.length s)
      pure (.ok s)

end Pass

end Killfile

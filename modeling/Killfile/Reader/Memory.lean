import Killfile.Reader

/-! A feed reader that holds its feeds and entries in memory. -/

namespace Killfile

/-- Feeds and entries, with the calls that are to fail. -/
structure Memory where
  feeds : List Feed := []
  /-- Entries under the ids of their feeds, ids in ascending order. -/
  entries : List (Int × List Entry) := []
  meFails : Bool := false
  feedsFail : Bool := false
  brokenFeeds : List Int := []
  failingUpdates : List Int := []
  failingEntries : List Int := []

namespace Memory

/-- Stores entries under the id of a feed. -/
def insert (feed : Int) (es : List Entry) :
    List (Int × List Entry) → List (Int × List Entry)
  | [] => [(feed, es)]
  | p :: ps =>
    if feed < p.1 then (feed, es) :: p :: ps
    else if feed = p.1 then (feed, es) :: ps
    else p :: insert feed es ps

/-- Entries stored under the ids of their feeds. -/
def ofLists (l : List (Int × List Entry)) : List (Int × List Entry) :=
  l.foldl (fun acc p => insert p.1 p.2 acc) []

/-- Entries stored under the id of a feed. -/
def entriesOf (m : Memory) (feed : Int) : List Entry :=
  (m.entries.filter fun p => p.1 = feed).flatMap (·.2)

def allEntries (m : Memory) : List Entry := m.entries.flatMap (·.2)

/-- Gives a status to every entry with one of the ids. -/
def setStatus (m : Memory) (ids : List Int) (status : EntryStatus) : Memory :=
  { m with entries := m.entries.map fun p =>
      (p.1, p.2.map fun e => if e.id ∈ ids then { e with status } else e) }

def user : User := ⟨1, "admin", true⟩

/-- What a call gives. -/
def reply (m : Memory) : (c : Call) → Except Failure c.Answer
  | .me => if m.meFails then .error (.api 401 "access unauthorized") else .ok user
  | .feeds => if m.feedsFail then .error (.other "feeds unavailable") else .ok m.feeds
  | .unreadEntries feed =>
    if feed ∈ m.brokenFeeds then .error (.other "feed unavailable")
    else .ok ((m.entriesOf feed).filter fun e => e.status = .unread)
  | .entry id =>
    if id ∈ m.failingEntries then .error (.entryNotFound id)
    else match m.allEntries.find? fun e => e.id = id with
      | some e => .ok e
      | none => .error (.entryNotFound id)
  | .updateEntries ids _ =>
    if ids.any (· ∈ m.failingUpdates) then .error (.api 500 "boom") else .ok ()

/-- What a call leaves behind. Updates that do not fail are the only ones that change anything. -/
def after (m : Memory) : Call → Memory
  | .updateEntries ids status =>
    if ids.any (· ∈ m.failingUpdates) then m else m.setStatus ids status
  | _ => m

def reader : Reader Memory where
  answer c := fun m => (m.reply c, m.after c, [])

@[simp] theorem reader_answer (c : Call) (m : Memory) :
    reader.answer c m = (m.reply c, m.after c, []) := rfl

end Memory

end Killfile

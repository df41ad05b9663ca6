import Killfile.Failure
import Killfile.Feed
import Killfile.Log

/-! Feed readers: the calls they answer, and readers that keep a record of these. -/

namespace Killfile

/-- A question to a feed reader, or an order. -/
inductive Call where
  | me
  | feeds
  | unreadEntries (feed : Int)
  | entry (id : Int)
  | updateEntries (ids : List Int) (status : EntryStatus)
deriving DecidableEq, Repr

/-- What a call gives when it succeeds. -/
abbrev Call.Answer : Call → Type
  | .me => User
  | .feeds => List Feed
  | .unreadEntries _ => List Entry
  | .entry _ => Entry
  | .updateEntries _ _ => Unit

/-- A feed reader whose state is of a given type. Every call may fail and may change the state. -/
structure Reader (W : Type) where
  answer : (c : Call) → Logged W (Except Failure c.Answer)

namespace Reader

variable {W : Type}

/-- The same reader with a record of the calls it answered. -/
def recorded (r : Reader W) : Reader (W × List Call) where
  answer c := fun w =>
    let (a, v, l) := r.answer c w.1
    (a, (v, w.2 ++ [c]), l)

@[simp] theorem recorded_answer (r : Reader W) (c : Call) (w : W × List Call) :
    r.recorded.answer c w = ((r.answer c w.1).1, ((r.answer c w.1).2.1, w.2 ++ [c]),
      (r.answer c w.1).2.2) := rfl

end Reader

end Killfile

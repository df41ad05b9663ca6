/-! Events that are reported while the program works. -/

namespace Killfile

inductive Level where
  | error | warn | info | debug | trace
deriving DecidableEq, Repr

/-- What a field of an event holds. -/
inductive FieldValue where
  | text (s : String)
  | int (n : Int)
  | flag (b : Bool)
deriving DecidableEq, Repr

structure Event where
  level : Level
  message : String
  fields : List (String × FieldValue)
deriving DecidableEq, Repr

abbrev Log := List Event

/-- A computation that passes a state on and reports events. -/
def Logged (σ α : Type) : Type := σ → α × σ × Log

namespace Logged

variable {σ α β : Type}

instance : Monad (Logged σ) where
  pure a := fun s => (a, s, [])
  bind m f := fun s =>
    let (a, s, l) := m s
    let (b, s, l') := f a s
    (b, s, l ++ l')

/-- Reports one event. -/
def report (e : Event) : Logged σ Unit := fun s => ((), s, [e])

def get : Logged σ σ := fun s => (s, s, [])

def set (s : σ) : Logged σ Unit := fun _ => ((), s, [])

/-- Runs a computation on the first part of a state. -/
def onFst {τ : Type} (m : Logged σ α) : Logged (σ × τ) α := fun s =>
  let (a, t, l) := m s.1
  (a, (t, s.2), l)

/-- Runs a computation on the second part of a state. -/
def onSnd {τ : Type} (m : Logged τ α) : Logged (σ × τ) α := fun s =>
  let (a, t, l) := m s.2
  (a, (s.1, t), l)

/-- Runs a computation with a second part of the state that is new at the start and dropped at the
end. -/
def starting {τ : Type} (t : τ) (m : Logged (σ × τ) α) : Logged σ α := fun s =>
  let (a, u, l) := m (s, t)
  (a, u.1, l)

@[simp] theorem pure_apply (a : α) (s : σ) : (pure a : Logged σ α) s = (a, s, []) := rfl

@[simp] theorem bind_apply (m : Logged σ α) (f : α → Logged σ β) (s : σ) :
    (m >>= f) s = ((f (m s).1 (m s).2.1).1, (f (m s).1 (m s).2.1).2.1,
      (m s).2.2 ++ (f (m s).1 (m s).2.1).2.2) := rfl

@[simp] theorem report_apply (e : Event) (s : σ) : report e s = ((), s, [e]) := rfl

@[simp] theorem get_apply (s : σ) : (get : Logged σ σ) s = (s, s, []) := rfl

@[simp] theorem set_apply (s t : σ) : set s t = ((), s, []) := rfl

@[simp] theorem onFst_apply {τ : Type} (m : Logged σ α) (s : σ × τ) :
    m.onFst s = ((m s.1).1, ((m s.1).2.1, s.2), (m s.1).2.2) := rfl

@[simp] theorem onSnd_apply {τ : Type} (m : Logged τ α) (s : σ × τ) :
    (m.onSnd : Logged (σ × τ) α) s = ((m s.2).1, (s.1, (m s.2).2.1), (m s.2).2.2) := rfl

@[simp] theorem starting_apply {τ : Type} (t : τ) (m : Logged (σ × τ) α) (s : σ) :
    m.starting t s = ((m (s, t)).1, (m (s, t)).2.1.1, (m (s, t)).2.2) := rfl

end Logged

end Killfile

/-!
# Taking turns

A lock is held by one task at a time. Those that find it held wait, and it is handed to them in the
order in which they came: a newcomer never overtakes.
-/

namespace DeskStream.Rehearsal

/-- Who holds a lock, and who waits for it, longest waiting first. -/
structure Lock where
  holder : Option Nat := none
  waiting : List Nat := []
  deriving Repr, DecidableEq

namespace Lock

/-- A task asks for the lock; the answer says whether it now holds it. -/
def acquire (l : Lock) (t : Nat) : Lock × Bool :=
  match l.holder with
  | none => ({ l with holder := some t }, true)
  | some u =>
    if u = t then (l, true)
    else if l.waiting.contains t then (l, false)
    else ({ l with waiting := l.waiting ++ [t] }, false)

/-- The lock is handed to the task that has waited longest; the answer names it. -/
def release (l : Lock) : Lock × Option Nat :=
  match l.waiting with
  | [] => ({ l with holder := none }, none)
  | t :: waiting => (⟨some t, waiting⟩, some t)

end Lock
end DeskStream.Rehearsal

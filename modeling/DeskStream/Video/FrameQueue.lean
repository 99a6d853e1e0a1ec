/-!
# Bounded queues that favour the newest

A full queue gives up its oldest item for a new one. Consumers that find it empty wait, and are
served in the order in which they began to.

An item pushed while nobody waits leaves a wake-up behind, one at most; the next consumer to find
the queue empty uses it up and looks again before it waits.
-/

namespace DeskStream

/-- Items, oldest first. -/
structure FrameQueue (α : Type) where
  capacity : Nat
  items : List α := []
  /-- Items given up for newer ones. -/
  dropped : Nat := 0
  deriving Repr, DecidableEq

namespace FrameQueue

variable {α : Type}

/-- A queue holds at least one item. -/
def ofCapacity (n : Nat) : FrameQueue α := { capacity := max n 1 }

/-- Append an item; a full queue gives up its oldest. -/
def push (q : FrameQueue α) (x : α) : FrameQueue α × Option α :=
  if q.items.length < q.capacity then ({ q with items := q.items ++ [x] }, none)
  else match q.items with
    | [] => ({ q with items := [x] }, none)
    | oldest :: rest => ({ q with items := rest ++ [x], dropped := q.dropped + 1 }, some oldest)

/-- Take the oldest item. -/
def pop (q : FrameQueue α) : FrameQueue α × Option α :=
  ({ q with items := q.items.tail }, q.items.head?)

/-- Discard everything; the answer is how much that was. -/
def clear (q : FrameQueue α) : FrameQueue α × Nat := ({ q with items := [] }, q.items.length)

end FrameQueue

/-! ## Waiting consumers -/

/-- A queue with the consumers that wait at it, named by `κ`, longest waiting first. -/
structure Rendezvous (α κ : Type) where
  queue : FrameQueue α
  /-- A wake-up that nobody has used yet. -/
  wakeup : Bool := false
  waiting : List κ := []
  /-- Woken consumers that have not looked yet. -/
  woken : List κ := []
  /-- Who was given what, oldest first. -/
  served : List (κ × α) := []

namespace Rendezvous

variable {α κ : Type}

def ofCapacity (n : Nat) : Rendezvous α κ := { queue := .ofCapacity n }

/-- Wake the consumer that has waited longest, or leave a wake-up behind. -/
def notify (c : Rendezvous α κ) : Rendezvous α κ :=
  match c.waiting with
  | [] => { c with wakeup := true }
  | k :: waiting => { c with waiting, woken := c.woken ++ [k] }

/-- Append an item and wake a consumer. -/
def push (c : Rendezvous α κ) (x : α) : Rendezvous α κ × Option α :=
  let (queue, evicted) := c.queue.push x
  ({ c with queue }.notify, evicted)

/-- Take an item without waiting. -/
def tryPop (c : Rendezvous α κ) : Rendezvous α κ × Option α :=
  let (queue, x) := c.queue.pop
  ({ c with queue }, x)

def clear (c : Rendezvous α κ) : Rendezvous α κ × Nat :=
  let (queue, n) := c.queue.clear
  ({ c with queue }, n)

/-- A consumer looks: it is given an item, or else waits. A wake-up left behind is used up by the
one that finds nothing; looking a second time, it finds nothing again. -/
def look (c : Rendezvous α κ) (k : κ) : Rendezvous α κ :=
  match c.queue.pop with
  | (queue, some x) => { c with queue, served := c.served ++ [(k, x)] }
  | (_, none) => { c with wakeup := false, waiting := c.waiting ++ [k] }

/-- Every woken consumer looks, in the order in which they were woken. -/
def settle (c : Rendezvous α κ) : Rendezvous α κ := c.woken.foldl look { c with woken := [] }

end Rendezvous
end DeskStream

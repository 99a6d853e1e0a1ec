import DeskStream.Video.FrameQueue
/-!
# Queues and those who wait at them

A full queue gives up its oldest item and no other (`push_append`, `push_evicted`). Consumers look at a queue
after every operation, until they wait. One operation then comes to one of seven things (`Move`), and none of
them leaves a consumer waiting beside an item (`Settled`). So in every run items leave in the order in which
they were pushed, each for one reason, and consumers are served in the order in which they began to wait
(`run_orderly`).
-/

namespace DeskStream

/-! ## A queue alone -/

namespace FrameQueue

variable {α : Type}

/-- A full queue gives up its oldest item, and no other. -/
theorem push_append (q : FrameQueue α) (x : α) : (q.push x).2.toList ++ (q.push x).1.items = q.items ++ [x] := by
  unfold push
  split
  · rfl
  · split <;> rename_i h <;> simp [h]

theorem push_sublist (q : FrameQueue α) (x : α) : (q.push x).1.items.Sublist (q.items ++ [x]) := by
  rw [← push_append]
  exact List.sublist_append_right ..

theorem push_getLast (q : FrameQueue α) (x : α) : (q.push x).1.items.getLast? = some x := by
  unfold push
  split
  · simp
  · split <;> simp

theorem push_of_empty {q : FrameQueue α} (h : q.items = []) (x : α) : q.push x = ({ q with items := [x] }, none) := by
  unfold push
  split <;> simp [h]

theorem push_dropped (q : FrameQueue α) (x : α) :
    (q.push x).1.dropped = q.dropped + (q.push x).2.toList.length := by
  unfold push
  split
  · rfl
  · split <;> rfl

theorem push_capacity (q : FrameQueue α) (x : α) : (q.push x).1.capacity = q.capacity := by
  unfold push
  split
  · rfl
  · split <;> rfl

theorem push_length_le {q : FrameQueue α} (hc : 0 < q.capacity) (h : q.items.length ≤ q.capacity) (x : α) :
    (q.push x).1.items.length ≤ q.capacity := by
  unfold push
  split
  · simpa using ‹_›
  · split
    · exact hc
    · rename_i hi
      simpa [hi] using h

/-- The oldest item is given up exactly if the queue is full. -/
theorem push_evicted {q : FrameQueue α} (h : q.items.length ≤ q.capacity) (x : α) :
    (q.push x).2 = if q.items.length = q.capacity then q.items.head? else none := by
  unfold push
  split
  · rw [if_neg (by omega)]
  · rw [if_pos (by omega)]
    split <;> rename_i hi <;> simp [hi]

end FrameQueue

/-! ## With consumers -/

namespace Rendezvous

variable {α κ : Type}

/-- What may be done at a queue; `κ` names calls that wait for an item. -/
inductive Op (α κ : Type) where
  | push (x : α)
  | tryPop
  | clear
  | pop (consumer : κ)

/-- The item that is pushed. -/
def Op.item? : Op α κ → Option α
  | push x => some x
  | _ => none

/-- Who calls for an item. -/
def Op.caller? : Op α κ → Option κ
  | pop k => some k
  | _ => none

def handle (c : Rendezvous α κ) : Op α κ → Rendezvous α κ
  | .push x => (c.push x).1
  | .tryPop => c.tryPop.1
  | .clear => c.clear.1
  | .pop k => c.look k

/-- One operation, after which consumers run until they wait. -/
def step (c : Rendezvous α κ) (op : Op α κ) : Rendezvous α κ := (c.handle op).settle

def run (c : Rendezvous α κ) (ops : List (Op α κ)) : Rendezvous α κ := ops.foldl step c

/-- How an item leaves a queue. -/
inductive Fate (κ : Type) where
  /-- Taken without waiting. -/
  | taken
  | given (consumer : κ)
  | evicted
  | cleared
  deriving DecidableEq

/-- The item of an entry that was delivered. -/
def delivered? : α × Fate κ → Option α
  | (x, .taken) => some x
  | (x, .given _) => some x
  | (_, .evicted) => none
  | (_, .cleared) => none

/-- The item of an entry that was given up. -/
def evicted? : α × Fate κ → Option α
  | (x, .evicted) => some x
  | _ => none

/-- Who was given the item of an entry. -/
def given? : α × Fate κ → Option (κ × α)
  | (x, .given k) => some (k, x)
  | _ => none

/-- What an operation hands out or discards at once. -/
def removed (c : Rendezvous α κ) : Op α κ → List (α × Fate κ)
  | .push x => (c.push x).2.toList.map fun y => (y, .evicted)
  | .tryPop => c.tryPop.2.toList.map fun x => (x, .taken)
  | .clear => c.queue.items.map fun x => (x, .cleared)
  | .pop _ => []

/-- The items that leave in a step, oldest first; those that go to consumers leave last. -/
def fates (c : Rendezvous α κ) (op : Op α κ) : List (α × Fate κ) :=
  c.removed op ++ ((c.step op).served.drop c.served.length).map fun (k, x) => (x, .given k)

def log (c : Rendezvous α κ) : List (Op α κ) → List (α × Fate κ)
  | [] => []
  | op :: ops => c.fates op ++ (c.step op).log ops

/-! ## One step -/

variable {c c' c'' : Rendezvous α κ} {op : Op α κ} {n : Nat} {pushed pushed' : List α} {called called' : List κ}
variable {l l' : List (α × Fate κ)}

/-- Consumers have run until they wait, and no item is there for those who do. -/
structure Settled (n : Nat) (c : Rendezvous α κ) : Prop where
  capacity : c.queue.capacity = max n 1
  items : c.queue.items.length ≤ max n 1
  woken : c.woken = []
  empty : c.waiting ≠ [] → c.queue.items = []
  /-- A wake-up is left behind only while nobody waits. -/
  unused : c.wakeup = true → c.waiting = []

theorem settled_ofCapacity (n : Nat) : Settled n (ofCapacity n : Rendezvous α κ) :=
  ⟨rfl, Nat.zero_le _, rfl, fun h => absurd rfl h, fun _ => rfl⟩

theorem Settled.waiting_of_items (h : Settled n c) (hq : c.queue.items ≠ []) : c.waiting = [] :=
  Decidable.byContradiction fun hw => hq (h.empty hw)

/-- What a step comes to, with the items that leave in it. -/
inductive Move (c : Rendezvous α κ) : Op α κ → Rendezvous α κ → List (α × Fate κ) → Prop where
  /-- Nobody waits: the item is queued, and a wake-up left behind. -/
  | enqueue (x : α) (hw : c.waiting = []) :
    Move c (.push x) { c with queue := (c.queue.push x).1, wakeup := true }
      ((c.queue.push x).2.toList.map fun y => (y, .evicted))
  /-- The item goes to the consumer that has waited longest. -/
  | hand (x : α) {k : κ} {rest : List κ} (hw : c.waiting = k :: rest) (hq : c.queue.items = []) :
    Move c (.push x) { c with waiting := rest, served := c.served ++ [(k, x)] } [(x, .given k)]
  | take {x : α} {rest : List α} (hq : c.queue.items = x :: rest) :
    Move c .tryPop { c with queue := { c.queue with items := rest } } [(x, .taken)]
  | miss (hq : c.queue.items = []) : Move c .tryPop c []
  | clear : Move c .clear { c with queue := { c.queue with items := [] } } (c.queue.items.map fun x => (x, .cleared))
  | give (k : κ) {x : α} {rest : List α} (hq : c.queue.items = x :: rest) :
    Move c (.pop k) { c with queue := { c.queue with items := rest }, served := c.served ++ [(k, x)] } [(x, .given k)]
  | wait (k : κ) (hq : c.queue.items = []) : Move c (.pop k) { c with wakeup := false, waiting := c.waiting ++ [k] } []

theorem settle_of_woken (h : c.woken = []) : c.settle = c := by
  rw [settle, h, List.foldl_nil, ← h]

theorem look_of_items {x : α} {rest : List α} (hq : c.queue.items = x :: rest) (k : κ) :
    c.look k = { c with queue := { c.queue with items := rest }, served := c.served ++ [(k, x)] } := by
  simp [look, FrameQueue.pop, hq]

theorem look_of_empty (hq : c.queue.items = []) (k : κ) :
    c.look k = { c with wakeup := false, waiting := c.waiting ++ [k] } := by
  simp [look, FrameQueue.pop, hq]

theorem push_of_idle (hw : c.waiting = []) (x : α) :
    c.push x = ({ c with queue := (c.queue.push x).1, wakeup := true }, (c.queue.push x).2) := by
  simp [push, notify, hw]

/-- The woken consumer finds the item: nothing else was queued. -/
theorem step_push_of_waiting (h : c.woken = []) {k : κ} {rest : List κ} (hw : c.waiting = k :: rest)
    (hq : c.queue.items = []) (x : α) :
    c.step (.push x) = { c with waiting := rest, served := c.served ++ [(k, x)] } := by
  have hp : (c.push x).1 = { c with queue := { c.queue with items := [x] }, waiting := rest, woken := [k] } := by
    simp [push, notify, FrameQueue.push_of_empty hq, hw, h]
  rw [step, handle, hp, settle]
  simp only [List.foldl_cons, List.foldl_nil]
  rw [look_of_items rfl, ← hq, ← h]

theorem move (h : Settled n c) (op : Op α κ) : Move c op (c.step op) (c.fates op) := by
  have hk := h.woken
  cases op with
  | push x =>
    cases hw : c.waiting with
    | nil =>
      have hs : c.step (.push x) = { c with queue := (c.queue.push x).1, wakeup := true } := by
        rw [step, handle, push_of_idle hw]
        exact settle_of_woken hk
      rw [fates, hs, removed, push_of_idle hw]
      simpa using Move.enqueue x hw
    | cons k rest =>
      have hq := h.empty (by simp [hw])
      have he : (c.push x).2 = none := by simp [push, FrameQueue.push_of_empty hq]
      rw [fates, step_push_of_waiting hk hw hq, removed, he]
      simpa using Move.hand x hw hq
  | tryPop =>
    have hs : c.step .tryPop = { c with queue := { c.queue with items := c.queue.items.tail } } :=
      settle_of_woken hk
    rw [fates, hs, removed]
    cases hq : c.queue.items with
    | nil =>
      have hc : { c with queue := { c.queue with items := [] } } = c := by rw [← hq]
      simpa [tryPop, FrameQueue.pop, hq, hc] using Move.miss hq
    | cons x rest => simpa [tryPop, FrameQueue.pop, hq] using Move.take hq
  | clear =>
    have hs : c.step .clear = { c with queue := { c.queue with items := [] } } := settle_of_woken hk
    rw [fates, hs, removed]
    simpa using Move.clear
  | pop k =>
    cases hq : c.queue.items with
    | nil =>
      have hs : c.step (.pop k) = { c with wakeup := false, waiting := c.waiting ++ [k] } := by
        rw [step, handle, look_of_empty hq]
        exact settle_of_woken hk
      rw [fates, hs, removed]
      simpa using Move.wait k hq
    | cons x rest =>
      have hs : c.step (.pop k) =
          { c with queue := { c.queue with items := rest }, served := c.served ++ [(k, x)] } := by
        rw [step, handle, look_of_items hq]
        exact settle_of_woken hk
      rw [fates, hs, removed]
      simpa using Move.give k hq

theorem Move.settled (hm : Move c op c' l) (h : Settled n c) : Settled n c' := by
  obtain ⟨hc, hi, hk, he, hu⟩ := h
  cases hm with
  | enqueue x hw =>
    refine ⟨(FrameQueue.push_capacity ..).trans hc, ?_, hk, fun hne => absurd hw hne, fun _ => hw⟩
    rw [← hc] at hi ⊢
    exact FrameQueue.push_length_le (by omega) hi x
  | hand x hw hq =>
    refine ⟨hc, hi, hk, fun _ => hq, fun ht => ?_⟩
    have := hu ht
    rw [hw] at this
    contradiction
  | take hq | give k hq =>
    have hw : c.waiting = [] := Decidable.byContradiction fun hw => by simp [he hw] at hq
    rw [hq, List.length_cons] at hi
    exact ⟨hc, Nat.le_of_succ_le hi, hk, fun hne => absurd hw hne, fun _ => hw⟩
  | miss => exact ⟨hc, hi, hk, he, hu⟩
  | clear => exact ⟨hc, Nat.zero_le _, hk, fun _ => rfl, hu⟩
  | wait k hq => exact ⟨hc, hi, hk, fun _ => hq, fun ht => by simp at ht⟩

/-! ## Custody -/

/-- What left, what is queued and who was served, against what was pushed and who called. -/
structure Custody (c : Rendezvous α κ) (pushed : List α) (called : List κ) (l : List (α × Fate κ))
    (c' : Rendezvous α κ) : Prop where
  items : l.map (·.1) ++ c'.queue.items = c.queue.items ++ pushed
  dropped : c'.queue.dropped = c.queue.dropped + (l.filterMap evicted?).length
  served : c'.served = c.served ++ l.filterMap given?
  calls : c'.served.map (·.1) ++ c'.waiting = c.served.map (·.1) ++ c.waiting ++ called

theorem Custody.refl (c : Rendezvous α κ) : Custody c [] [] [] c := by
  refine ⟨?_, ?_, ?_, ?_⟩ <;> simp

theorem Custody.trans (h : Custody c pushed called l c') (h' : Custody c' pushed' called' l' c'') :
    Custody c (pushed ++ pushed') (called ++ called') (l ++ l') c'' := by
  refine ⟨?_, ?_, ?_, ?_⟩
  · rw [List.map_append, List.append_assoc, h'.items, ← List.append_assoc, h.items, List.append_assoc]
  · rw [h'.dropped, h.dropped, List.filterMap_append, List.length_append, Nat.add_assoc]
  · rw [h'.served, h.served, List.filterMap_append, List.append_assoc]
  · rw [h'.calls, h.calls, List.append_assoc]

theorem evicted?_map (ys : List α) : (ys.map fun y => (y, (Fate.evicted : Fate κ))).filterMap evicted? = ys := by
  induction ys with
  | nil => rfl
  | cons y ys ih => simpa [evicted?] using ih

theorem Move.custody (hm : Move c op c' l) (h : Settled n c) :
    Custody c op.item?.toList op.caller?.toList l c' := by
  cases hm with
  | enqueue x hw =>
    refine ⟨?_, ?_, ?_, by simp [Op.caller?]⟩
    · simpa [Op.item?, Function.comp_def] using FrameQueue.push_append c.queue x
    · rw [evicted?_map]
      exact FrameQueue.push_dropped ..
    · simp [given?, Function.comp_def]
  | hand x hw hq => exact ⟨by simp [hq, Op.item?], rfl, rfl, by simp [hw, Op.caller?]⟩
  | take hq => exact ⟨by simp [hq, Op.item?], rfl, by simp [given?], by simp [Op.caller?]⟩
  | miss => exact .refl c
  | clear =>
    refine ⟨?_, ?_, ?_, ?_⟩ <;> simp [Op.item?, Op.caller?, evicted?, given?, Function.comp_def]
  | give k hq =>
    -- The item was there, so nobody waited before this consumer.
    have hw := h.waiting_of_items (by simp [hq])
    exact ⟨by simp [hq, Op.item?], rfl, rfl, by simp [hw, Op.caller?]⟩
  | wait k hq => exact ⟨by simp [hq, Op.item?], rfl, by simp, by simp [Op.caller?]⟩

/-! ## Every run -/

theorem settled_run (h : Settled n c) (ops : List (Op α κ)) : Settled n (c.run ops) := by
  induction ops generalizing c with
  | nil => exact h
  | cons op ops ih => exact ih ((move h op).settled h)

theorem custody_run (h : Settled n c) (ops : List (Op α κ)) :
    Custody c (ops.filterMap Op.item?) (ops.filterMap Op.caller?) (c.log ops) (c.run ops) := by
  induction ops generalizing c with
  | nil => exact .refl c
  | cons op ops ih =>
    have hm := move h op
    have ht := (hm.custody h).trans (ih (hm.settled h))
    have hi : (op :: ops).filterMap Op.item? = op.item?.toList ++ ops.filterMap Op.item? := by
      cases op <;> rfl
    have hc : (op :: ops).filterMap Op.caller? = op.caller?.toList ++ ops.filterMap Op.caller? := by
      cases op <;> rfl
    rw [hi, hc]
    exact ht

theorem filterMap_delivered_sublist (l : List (α × Fate κ)) : (l.filterMap delivered?).Sublist (l.map (·.1)) := by
  induction l with
  | nil => exact .slnil
  | cons e l ih =>
    obtain ⟨x, fate⟩ := e
    cases fate with
    | taken | given => exact ih.cons_cons x
    | evicted | cleared => exact ih.cons x

/-- What holds of a queue for `n` items after `ops`, where `l` are the items that left. -/
structure Orderly (n : Nat) (ops : List (Op α κ)) (l : List (α × Fate κ)) (c : Rendezvous α κ) : Prop where
  bound : c.queue.items.length ≤ max 1 n
  /-- Every item that was pushed has left, for one reason, or is queued, and the order is that of the pushes. -/
  items : l.map (·.1) ++ c.queue.items = ops.filterMap Op.item?
  delivered : (l.filterMap delivered?).Sublist (ops.filterMap Op.item?)
  /-- An item is given up for a new one exactly at a full queue, and it is the oldest. -/
  evicted : ∀ before x after, ops = before ++ .push x :: after →
    let q := (ofCapacity n : Rendezvous α κ).run before
    (q.push x).2 = if q.queue.items.length = max 1 n then q.queue.items.head? else none
  dropped : c.queue.dropped = (l.filterMap evicted?).length
  running : c.woken = []
  empty : c.waiting ≠ [] → c.queue.items = []
  unused : c.wakeup = true → c.waiting = []
  /-- Consumers have been given what the log says. -/
  given : c.served = l.filterMap given?
  /-- They are served in the order of their calls, which is the order in which they began to wait. -/
  calls : c.served.map (·.1) ++ c.waiting = ops.filterMap Op.caller?
  /-- An item that is pushed while consumers wait goes to the one that has waited longest. -/
  handed : ∀ before x after k rest, ops = before ++ .push x :: after →
    let q := (ofCapacity n : Rendezvous α κ).run before
    q.waiting = k :: rest → (q.step (.push x)).served = q.served ++ [(k, x)] ∧ (q.step (.push x)).waiting = rest

/-- However a queue is used, and whoever waits at it, it holds no more than it may, each item that was pushed is
delivered, given up, cleared or queued, in order, and consumers are served in the order in which they began to wait,
none of whom waits while an item is queued. -/
theorem run_orderly (n : Nat) (ops : List (Op α κ)) :
    Orderly n ops ((ofCapacity n).log ops) ((ofCapacity n).run ops) := by
  have h0 : Settled n (ofCapacity n : Rendezvous α κ) := settled_ofCapacity n
  have hs := settled_run h0 ops
  obtain ⟨hi, hd, hg, hc⟩ := custody_run h0 ops
  have hi' : ((ofCapacity n).log ops).map (·.1) ++ ((ofCapacity n).run ops).queue.items = ops.filterMap Op.item? := hi
  refine ⟨Nat.max_comm 1 n ▸ hs.items, hi', ?_, ?_, hd.trans (Nat.zero_add _), hs.woken, hs.empty, hs.unused, hg,
    hc, ?_⟩
  · rw [← hi']
    exact (filterMap_delivered_sublist _).trans (List.sublist_append_left ..)
  · intro before x after _ q
    have hq := settled_run h0 before
    have hl : q.queue.items.length ≤ q.queue.capacity := by
      rw [hq.capacity]
      exact hq.items
    have he := FrameQueue.push_evicted hl x
    rw [hq.capacity, Nat.max_comm n 1] at he
    exact he
  · intro before x after k rest _ q hw
    have hq := settled_run h0 before
    have hne : q.waiting ≠ [] := by simp [hw]
    have hstep := step_push_of_waiting hq.woken hw (hq.empty hne) x
    exact ⟨congrArg served hstep, congrArg waiting hstep⟩

/-- A wake-up that a push left behind does not keep a later consumer from waiting for its item. -/
example : ((ofCapacity 2 : Rendezvous Nat Nat).run [.push 1, .tryPop, .pop 0, .push 2]).served = [(0, 2)] := by
  decide

end Rendezvous
end DeskStream

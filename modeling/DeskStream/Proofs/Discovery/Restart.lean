import DeskStream.Discovery.Service
import DeskStream.Proofs.History
/-!
# Starting again

A service takes events from its first start until the next stop, and never after that, however often it is started
(`isRunning_run`). While it runs, every event that found room in the queue is applied in its turn (`served_run`); once
it has ended, each is refused (`refused_run`).
-/

namespace DeskStream.DiscoveryService

/-! ## Calls -/

/-- What is asked of a service, what its browse hears, and the turns that its consumer takes. -/
inductive Call where
  | start (d : Daemon) (now : Nat)
  | stop
  | send (e : DiscoveryEvent)
  | hear (report : Option BrowseEvent)
  | consume (clock : Nat)
  | reconcile (now clock : Nat)
  | addManual (name hostname : String) (port : UInt16) (clock : Nat)

namespace Call

def IsStart : Call → Prop
  | start _ _ => True
  | stop | send _ | hear _ | consume _ | reconcile _ _ | addManual _ _ _ _ => False

/-- A start or a stop. -/
def IsSwitch : Call → Prop
  | start _ _ | stop => True
  | send _ | hear _ | consume _ | reconcile _ _ | addManual _ _ _ _ => False

end Call

def step (s : DiscoveryService) : Call → DiscoveryService
  | .start d now => s.start d now
  | .stop => s.stop
  | .send e => (s.send e).toOption.getD s
  | .hear report => (s.hear report).1
  | .consume clock => s.consume clock
  | .reconcile now clock => s.reconcile now clock
  | .addManual name hostname port clock => (s.addManual name hostname port clock).1

def run (s : DiscoveryService) (calls : List Call) : DiscoveryService := calls.foldl step s

/-- What becomes of the registry. -/
inductive Change where
  | event (e : DiscoveryEvent) (clock : Nat)
  | pass (clock : Nat)
  | entry (name hostname : String) (port : UInt16) (clock : Nat)

namespace Change

def apply (r : Registry) : Change → Registry
  | event e clock => DiscoveryService.apply r clock e
  | pass clock => (r.evictStale clock).1
  | entry name hostname port clock => (r.addManual name hostname port clock).1

def event? : Change → Option DiscoveryEvent
  | event e _ => some e
  | pass _ | entry _ _ _ _ => none

end Change

/-- The events that a call puts into the queue. -/
def accepts (s : DiscoveryService) : Call → List DiscoveryEvent
  | .send e => if (s.send e).isOk then [e] else []
  | .hear report => (s.browser.bind fun b => (b.browse.hear (s.consumer ≠ .ended) report).2).toList
  | .start _ _ | .stop | .consume _ | .reconcile _ _ | .addManual _ _ _ _ => []

/-- The changes that a call makes to the registry. -/
def changes (s : DiscoveryService) : Call → List Change
  | .consume clock =>
    match s.consumer, s.queue with
    | .running _, e :: _ => [.event e clock]
    | _, _ => []
  | .reconcile now clock =>
    match s.consumer with
    | .running due => if due ≤ now then [.pass clock] else []
    | .unstarted | .ended => []
  | .addManual name hostname port clock => [.entry name hostname port clock]
  | .start _ _ | .stop | .send _ | .hear _ => []

/-- What `f` tells of each call, over all of them. -/
def trace {β : Type} (f : DiscoveryService → Call → List β) (s : DiscoveryService) : List Call → List β
  | [] => []
  | x :: calls => f s x ++ trace f (s.step x) calls

/-- The consumer takes events. -/
def IsRunning (s : DiscoveryService) : Prop := ∃ due, s.consumer = .running due

/-- The first start was made, and since then no stop. -/
def Serves (calls : List Call) : Prop :=
  Since (fun before x => x.IsStart ∧ ∀ y ∈ before, ¬ y.IsStart) (fun _ x => x = .stop) calls

/-- What the consumer is doing after a call, with this long between two passes. -/
def consumerAfter (interval : Nat) : Consumer → Call → Consumer
  | .unstarted, .start _ now => .running now
  | .running _, .stop => .ended
  | .running due, .reconcile now _ => .running (if due ≤ now then nextPass due now interval else due)
  | consumer, _ => consumer

/-! ## One call -/

section Steps
variable {s : DiscoveryService} {x : Call} {e : DiscoveryEvent}

/-- All that a call does but to the queue and to browsing. -/
theorem step_eq (s : DiscoveryService) (x : Call) :
    (s.step x).config = s.config ∧ (s.step x).consumer = consumerAfter s.config.reconcileInterval s.consumer x ∧
      (s.step x).registry = (s.changes x).foldl Change.apply s.registry := by
  obtain ⟨config, registry, queue, consumer, browser⟩ := s
  cases x with
  | start d now | stop => cases consumer <;> exact ⟨rfl, rfl, rfl⟩
  | send e =>
    rw [step, send]
    split
    · cases consumer <;> exact ⟨rfl, rfl, rfl⟩
    · split <;> cases consumer <;> exact ⟨rfl, rfl, rfl⟩
  | hear report => cases browser <;> cases consumer <;> exact ⟨rfl, rfl, rfl⟩
  | consume clock => cases consumer <;> cases queue <;> exact ⟨rfl, rfl, rfl⟩
  | reconcile now clock =>
    cases consumer with
    | running due =>
      simp only [step, reconcile, consumerAfter, changes]
      split <;> exact ⟨rfl, rfl, rfl⟩
    | unstarted | ended => exact ⟨rfl, rfl, rfl⟩
  | addManual name hostname port clock => cases consumer <;> exact ⟨rfl, rfl, rfl⟩

theorem config_step (s : DiscoveryService) (x : Call) : (s.step x).config = s.config := (step_eq s x).1

theorem consumer_step (s : DiscoveryService) (x : Call) :
    (s.step x).consumer = consumerAfter s.config.reconcileInterval s.consumer x :=
  (step_eq s x).2.1

theorem registry_step (s : DiscoveryService) (x : Call) :
    (s.step x).registry = (s.changes x).foldl Change.apply s.registry :=
  (step_eq s x).2.2

theorem unstarted_step : (s.step x).consumer = .unstarted ↔ s.consumer = .unstarted ∧ ¬ x.IsStart := by
  rw [consumer_step]
  cases s.consumer <;> cases x <;> simp [consumerAfter, Call.IsStart]

theorem isRunning_step :
    (s.step x).IsRunning ↔ s.consumer = .unstarted ∧ x.IsStart ∨ s.IsRunning ∧ x ≠ .stop := by
  rw [IsRunning, IsRunning, consumer_step]
  cases s.consumer <;> cases x <;> simp [consumerAfter, Call.IsStart]

/-- Events leave the queue to be applied, oldest first, and nothing else leaves it but at a stop. -/
theorem queue_step (hx : ¬ x.IsSwitch) :
    (s.changes x).filterMap Change.event? ++ (s.step x).queue = s.queue ++ s.accepts x := by
  cases x with
  | start d now | stop => exact absurd trivial hx
  | send e =>
    simp only [step, accepts, changes, send]
    split
    · simp [Except.isOk, Except.toBool, Except.toOption]
    · split <;> simp [Except.isOk, Except.toBool, Except.toOption]
  | hear report =>
    simp only [step, accepts, changes, hear]
    cases s.browser <;> simp
  | consume clock =>
    cases h : s.consumer <;> cases hq : s.queue <;> simp [step, consume, changes, accepts, Change.event?, h, hq]
  | reconcile now clock =>
    cases h : s.consumer with
    | running due =>
      simp only [step, reconcile, changes, accepts, h]
      split <;> simp [Change.event?]
    | unstarted | ended => simp [step, reconcile, changes, accepts, h]
  | addManual name hostname port clock => simp [step, addManual, changes, accepts, Change.event?]

/-! ## One call of a service that has ended -/

theorem ended_step (h : s.consumer = .ended) (x : Call) : (s.step x).consumer = .ended := by
  rw [consumer_step, h]
  cases x <;> rfl

theorem send_of_ended (h : s.consumer = .ended) (e : DiscoveryEvent) : s.send e = .error .closed := by
  rw [send, if_pos h]

theorem accepts_of_ended (h : s.consumer = .ended) (x : Call) : s.accepts x = [] := by
  cases x with
  | send e => simp [accepts, send_of_ended h, Except.isOk, Except.toBool]
  | hear report =>
    have hear_nothing (b : Browse) : (b.hear false report).2 = none := by
      rw [Browse.hear]
      split <;> rfl
    cases hb : s.browser <;> simp [accepts, hb, h, hear_nothing]
  | start d now | stop | consume clock | reconcile now clock | addManual name hostname port clock => rfl

theorem event?_of_ended (h : s.consumer = .ended) (x : Call) : ∀ change ∈ s.changes x, change.event? = none := by
  cases x with
  | consume clock | reconcile now clock => simp [changes, h]
  | addManual name hostname port clock => simp [changes, Change.event?]
  | start d now | stop | send e | hear report => simp [changes]

end Steps

/-! ## Any calls -/

section Runs
variable {s : DiscoveryService} {x : Call} {calls : List Call}

theorem run_append (s : DiscoveryService) (before after : List Call) :
    s.run (before ++ after) = (s.run before).run after :=
  List.foldl_append

theorem run_concat (s : DiscoveryService) (calls : List Call) (x : Call) :
    s.run (calls ++ [x]) = (s.run calls).step x :=
  run_append s calls [x]

theorem trace_append {β : Type} (f : DiscoveryService → Call → List β) (s : DiscoveryService)
    (before after : List Call) : trace f s (before ++ after) = trace f s before ++ trace f (s.run before) after := by
  induction before generalizing s with
  | nil => rfl
  | cons x before ih => rw [List.cons_append, trace, trace, ih, List.append_assoc]; rfl

theorem config_run (s : DiscoveryService) (calls : List Call) : (s.run calls).config = s.config := by
  induction calls generalizing s with
  | nil => rfl
  | cons x calls ih => exact (ih (s.step x)).trans (config_step s x)

theorem unstarted_run (config : DiscoveryConfig) (calls : List Call) :
    ((ofConfig config).run calls).consumer = .unstarted ↔ ∀ x ∈ calls, ¬ x.IsStart := by
  induction calls using List.reverseRecOn with
  | nil => exact iff_of_true rfl nofun
  | append_singleton calls x ih => rw [run_concat, unstarted_step, ih, List.forall_mem_append, List.forall_mem_singleton]

/-- A service runs from its first start until the next stop. -/
theorem isRunning_run (config : DiscoveryConfig) (calls : List Call) :
    ((ofConfig config).run calls).IsRunning ↔ Serves calls := by
  refine Since.of_steps (P := fun calls => ((ofConfig config).run calls).IsRunning) ?_ (fun calls x => ?_) calls
  · exact nofun
  · rw [run_concat, isRunning_step, unstarted_run, and_comm]

theorem registry_run (s : DiscoveryService) (calls : List Call) :
    (s.run calls).registry = (trace changes s calls).foldl Change.apply s.registry := by
  induction calls generalizing s with
  | nil => rfl
  | cons x calls ih => rw [trace, List.foldl_append, ← registry_step]; exact ih (s.step x)

theorem queue_run (s : DiscoveryService) (h : ∀ x ∈ calls, ¬ x.IsSwitch) :
    (trace changes s calls).filterMap Change.event? ++ (s.run calls).queue = s.queue ++ trace accepts s calls := by
  induction calls generalizing s with
  | nil => simp [trace, run]
  | cons x calls ih =>
    obtain ⟨hx, h⟩ := List.forall_mem_cons.1 h
    calc (trace changes s (x :: calls)).filterMap Change.event? ++ (s.run (x :: calls)).queue
        = (s.changes x).filterMap Change.event? ++
          ((trace changes (s.step x) calls).filterMap Change.event? ++ ((s.step x).run calls).queue) := by
          rw [trace, List.filterMap_append, List.append_assoc]; rfl
      _ = ((s.changes x).filterMap Change.event? ++ (s.step x).queue) ++ trace accepts (s.step x) calls := by
          rw [ih (s.step x) h, List.append_assoc]
      _ = s.queue ++ trace accepts s (x :: calls) := by rw [queue_step hx, trace, List.append_assoc]

/-! ## Between two switches -/

theorem isRunning_kept (h : ∀ x ∈ calls, ¬ x.IsSwitch) : (s.run calls).IsRunning ↔ s.IsRunning := by
  induction calls using List.reverseRecOn with
  | nil => rfl
  | append_singleton calls x ih =>
    rw [List.forall_mem_append, List.forall_mem_singleton] at h
    have hstart : ¬ x.IsStart := fun hx => h.2 (by cases x <;> trivial)
    have hstop : x ≠ .stop := fun hx => h.2 (hx ▸ trivial)
    rw [run_concat, isRunning_step, ih h.1]
    simp [hstart, hstop]

theorem ended_run (h : s.consumer = .ended) (calls : List Call) : (s.run calls).consumer = .ended := by
  induction calls using List.reverseRecOn with
  | nil => exact h
  | append_singleton calls x ih => rw [run_concat, ended_step ih]

/-- Calls to a service that has ended find it so, all of them. -/
theorem forall_mem_trace_of_ended {β : Type} {f : DiscoveryService → Call → List β} {P : β → Prop}
    (hf : ∀ s x, s.consumer = .ended → ∀ b ∈ f s x, P b) (h : s.consumer = .ended) (calls : List Call) :
    ∀ b ∈ trace f s calls, P b := by
  induction calls generalizing s with
  | nil => exact nofun
  | cons x calls ih => exact List.forall_mem_append.2 ⟨hf s x h, ih (ended_step h x)⟩

/-- As many turns of the consumer as events wait leave none waiting. -/
theorem queue_consumed (h : s.IsRunning) (clock : Nat) :
    (s.run (List.replicate s.queue.length (.consume clock))).queue = [] := by
  obtain ⟨due, h⟩ := h
  generalize hn : s.queue.length = n
  induction n generalizing s with
  | zero => exact List.length_eq_zero_iff.1 hn
  | succ n ih =>
    obtain ⟨e, queue, hq⟩ := List.exists_cons_of_length_eq_add_one hn
    have hstep : s.step (.consume clock) = { s with queue, registry := apply s.registry clock e } := by
      rw [step, consume, h, hq]
    rw [List.replicate_succ, run, List.foldl_cons, hstep]
    refine ih h ?_
    rw [hq] at hn
    exact Nat.succ.inj hn

/-- The consumer's turns put nothing into the queue. -/
theorem accepts_consume (s : DiscoveryService) (n clock : Nat) :
    trace accepts s (List.replicate n (.consume clock)) = [] := by
  induction n generalizing s with
  | zero => rfl
  | succ n ih => exact ih (s.step (.consume clock))

/-- An event is taken while there is room, and what was taken leaves the queue only to be applied, oldest first; it
does, all of it, once the consumer had its turns. -/
structure Served (s : DiscoveryService) (calls : List Call) : Prop where
  taken : ∀ e, (s.run calls).send e =
    if s.config.channelCapacity ≤ (s.run calls).queue.length then .error .full
    else .ok { s.run calls with queue := (s.run calls).queue ++ [e] }
  inTurn : (trace changes s calls).filterMap Change.event? ++ (s.run calls).queue = s.queue ++ trace accepts s calls
  all : ∀ clock,
    (trace changes s (calls ++ List.replicate (s.run calls).queue.length (.consume clock))).filterMap Change.event? =
      s.queue ++ trace accepts s calls

/-- No event is taken or applied. -/
structure Refused (s : DiscoveryService) (calls : List Call) : Prop where
  closed : ∀ e, (s.run calls).send e = .error .closed
  none_taken : trace accepts s calls = []
  none_applied : (trace changes s calls).filterMap Change.event? = []

theorem served_run (h : ∀ x ∈ calls, ¬ x.IsSwitch) (hs : (s.run calls).IsRunning) : Served s calls where
  taken e := by
    obtain ⟨due, hdue⟩ := hs
    have hopen : (s.run calls).consumer ≠ .ended := by
      rw [hdue]
      exact nofun
    rw [← config_run s calls, send, if_neg hopen]
  inTurn := queue_run s h
  all clock := by
    have hturns : ∀ x ∈ calls ++ List.replicate (s.run calls).queue.length (.consume clock), ¬ x.IsSwitch :=
      List.forall_mem_append.2 ⟨h, fun x hx => List.eq_of_mem_replicate hx ▸ id⟩
    have hqueue := queue_run s hturns
    rwa [run_append, queue_consumed hs, List.append_nil, trace_append accepts, accepts_consume, List.append_nil] at hqueue

theorem refused_run (h : s.consumer = .ended) (calls : List Call) : Refused s calls where
  closed := send_of_ended (ended_run h calls)
  none_taken := List.eq_nil_iff_forall_not_mem.2 <|
    forall_mem_trace_of_ended (P := fun _ => False) (fun s x h e he => by rw [accepts_of_ended h] at he; cases he) h calls
  none_applied := List.filterMap_eq_nil_iff.2 (forall_mem_trace_of_ended (fun _ x h => event?_of_ended h x) h calls)

/-- A start after which the consumer runs is the first one, or made while a service runs; one that follows a stop of
a running service starts nothing. Until the next switch, a service that runs applies every event that it takes, in
order, and one that does not run refuses them all. -/
theorem start_serves (config : DiscoveryConfig) (before : List Call) (d : Daemon) (now : Nat) (after : List Call)
    (h : ∀ x ∈ after, ¬ x.IsSwitch) :
    let s := (ofConfig config).run (before ++ [.start d now])
    let t := s.run after
    (t.IsRunning ↔ (∀ x ∈ before, ¬ x.IsStart) ∨ Serves before) ∧
      t.registry = (trace changes s after).foldl Change.apply s.registry ∧
      (t.IsRunning → Served s after) ∧ (¬ t.IsRunning → Refused s after) := by
  intro s t
  have hs : s = ((ofConfig config).run before).step (.start d now) := run_concat _ before _
  have hrunning : t.IsRunning ↔ (∀ x ∈ before, ¬ x.IsStart) ∨ Serves before := by
    rw [isRunning_kept h, hs, isRunning_step, unstarted_run, isRunning_run]
    simp [Call.IsStart]
  refine ⟨hrunning, registry_run s after, served_run h, fun hn => refused_run ?_ after⟩
  have hstarted : s.consumer ≠ .unstarted := by
    rw [hs, Ne, unstarted_step]
    exact fun hu => hu.2 trivial
  rw [isRunning_kept h] at hn
  cases hc : s.consumer with
  | unstarted => exact absurd hc hstarted
  | running due => exact absurd ⟨due, hc⟩ hn
  | ended => rfl

/-- Started, stopped and started again, the service takes nothing. -/
theorem start_serves_secondStart :
    let s := (ofConfig { mdns := false }).run ([.start {} 0, .stop] ++ [.start {} 1])
    ¬ s.IsRunning ∧ Refused s [.send (.removed "den")] := by
  intro s
  have hn : ¬ s.IsRunning := nofun
  have hsend : ∀ x ∈ [Call.send (.removed "den")], ¬ x.IsSwitch := List.forall_mem_singleton.2 id
  have hkept : ¬ (s.run [.send (.removed "den")]).IsRunning := mt (isRunning_kept hsend).1 hn
  exact ⟨hn, (start_serves { mdns := false } [.start {} 0, .stop] {} 1 _ hsend).2.2.2 hkept⟩

end Runs
end DeskStream.DiscoveryService

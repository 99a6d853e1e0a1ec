import DeskStream.Proofs.Session.Operations
/-!
# What connections come and go around

Connecting, losing a link and sending leave keys and pipeline alone, only a link that takes a message adds to
what was written, and only a packet received to what was passed on. The generation never goes back.
-/

namespace DeskStream.Session

open Wire

variable {s : Session} {t : Nat}

/-- Configuration, keys, pipeline, what was written and what was passed on. -/
structure Holdings where
  config : SessionConfig
  ring : KeyRing
  pipeline : Pipeline
  written : List (Nat × Bytes)
  control : List Packet

def holdings (s : Session) : Holdings := ⟨s.config, s.ring, s.pipeline, s.written, s.control⟩

/-! ## Activities and states -/

@[simp] theorem holdings_spawn (s : Session) (task : Task) : (s.spawn task).holdings = s.holdings := rfl
@[simp] theorem holdings_put (s : Session) (t : Nat) (task : Task) : (s.put t task).holdings = s.holdings := rfl
@[simp] theorem holdings_erase (s : Session) (t : Nat) : (s.erase t).holdings = s.holdings := rfl
@[simp] theorem holdings_cancel (s : Session) (link : Nat) : (s.cancel link).holdings = s.holdings := rfl
@[simp] theorem holdings_supersede (s : Session) : s.supersede.holdings = s.holdings := rfl
@[simp] theorem holdings_abandon (s : Session) (link : Nat) : (s.abandon link).holdings = s.holdings := rfl

@[simp] theorem holdings_answer (s : Session) (t call : Nat) (o : Outcome) :
    (s.answer t call o).holdings = s.holdings := rfl

@[simp] theorem holdings_transition (s : Session) (g : Nat) (allowed : ConnectionState → Bool)
    (next : ConnectionState) : (s.transition g allowed next).holdings = s.holdings := by
  unfold transition
  split <;> rfl

@[simp] theorem holdings_failAttempt (s : Session) (g : Nat) (reason : String) :
    (s.failAttempt g reason).holdings = s.holdings :=
  holdings_transition ..

/-! ## Connecting, losing a link, letting go -/

@[simp] theorem holdings_dial (s : Session) (t : Nat) (call : Option Nat) (g : Nat) (peer : Peer) :
    (s.dial t call g peer).holdings = s.holdings := by
  unfold dial
  split
  · cases call <;> simp
  · rfl

@[simp] theorem holdings_connect (s : Session) (t call : Nat) (peer : Peer) :
    (s.connect t call peer).holdings = s.holdings := by
  unfold connect
  split
  · rw [holdings_dial]
    cases s.link <;> exact holdings_transition ..
  · rfl

@[simp] theorem holdings_install (s : Session) (t : Nat) (call : Option Nat) (l : Link) :
    (s.install t call l).holdings = s.holdings := by
  unfold install
  simp only
  split
  · exact holdings_transition ..
  · cases call <;> exact holdings_transition ..

@[simp] theorem holdings_dialDone (s : Session) (t : Nat) (call : Option Nat) (g : Nat)
    (result : Except TransportError Unit) : (s.dialDone t call g result).holdings = s.holdings := by
  unfold dialDone
  cases result with
  | error e => cases call <;> simp
  | ok _ =>
    simp only
    split
    · exact holdings_install ..
    · cases call <;> rfl

@[simp] theorem holdings_lose (s : Session) (g : Nat) (reason : String) (loss : Loss) :
    (s.lose g reason loss).holdings = s.holdings := by
  unfold lose
  split
  · rfl
  · simp only
    split
    · cases loss <;> simp only <;> split <;> simp
    · rfl

@[simp] theorem holdings_intervalOver (s : Session) (t g : Nat) : (s.intervalOver t g).holdings = s.holdings := by
  unfold intervalOver
  split
  · split
    · rfl
    · exact holdings_dial ..
  · rfl

@[simp] theorem holdings_letGo (s : Session) : s.letGo.holdings = s.holdings := by
  unfold letGo
  split <;> rfl

/-! ## Sending -/

@[simp] theorem holdings_concludeSend (s : Session) (t : Nat) (origin : Origin) (r : Except ClientError UInt32) :
    (s.concludeSend t origin r).holdings = s.holdings := by
  cases origin with
  | call | echo => cases r <;> rfl
  | auth call => cases call <;> rfl

@[simp] theorem holdings_beginSend (s : Session) (t : Nat) (origin : Origin) (kind : PacketKind) (payload : Bytes) :
    (s.beginSend t origin kind payload).holdings = s.holdings := by
  unfold beginSend
  split <;> simp

@[simp] theorem holdings_beginWrite (s : Session) (m : Moment) (t : Nat) (origin : Origin) (kind : PacketKind)
    (payload : Bytes) : (s.beginWrite m t origin kind payload).holdings = s.holdings := by
  unfold beginWrite
  split
  · simp
  · simp only
    split
    · exact holdings_concludeSend ..
    · rfl

@[simp] theorem holdings_countFailure (s : Session) (g : Nat) : (s.countFailure g).holdings = s.holdings := by
  unfold countFailure
  simp only
  split
  · exact holdings_lose ..
  · rfl

theorem holdings_writeDone (s : Session) (t : Nat) (origin : Origin) (link : Link) (sequence : UInt32)
    (message : Bytes) (result : Except TransportError Unit) :
    (s.writeDone t origin link sequence message result).holdings =
      match result with
      | .ok _ => { s.holdings with written := s.written ++ [(link.number, message)] }
      | .error _ => s.holdings := by
  unfold writeDone
  cases result with
  | ok _ => exact holdings_concludeSend ..
  | error e =>
    simp only
    split
    · rw [holdings_concludeSend, holdings_countFailure]; rfl
    · exact holdings_concludeSend ..

/-! ## Receiving and disconnecting -/

theorem holdings_media (s : Session) (g : Nat) (p : Packet) :
    (s.media g p).holdings = { s.holdings with pipeline := (s.pipeline.submit p).1 } := by
  unfold Session.media
  simp only
  split
  · rfl
  · exact holdings_transition ..

/-- A packet of the kinds that are passed on. -/
def isControl (p : Packet) : Bool := p.kind = .control ∨ p.kind = .auth

/-- Media goes to the pipeline, and all else passes it by. -/
theorem holdings_packet (s : Session) (m : Moment) (g : Nat) (p : Packet) :
    (s.packet m g p).holdings =
      { s.holdings with
        pipeline := (s.pipeline.submit p).1, control := s.control ++ [p].filter isControl } := by
  unfold packet
  cases h : p.kind with
  | video | audio =>
    rw [show [p].filter isControl = [] by simp [isControl, h], List.append_nil]
    exact holdings_media ..
  | keepAlive | input =>
    rw [show (s.pipeline.submit p).1 = s.pipeline by simp [Pipeline.submit, h],
      show [p].filter isControl = [] by simp [isControl, h], List.append_nil]
    rfl
  | control | auth =>
    rw [show (s.pipeline.submit p).1 = s.pipeline by simp [Pipeline.submit, h],
      show [p].filter isControl = [p] by simp [isControl, h]]
    rfl

@[simp] theorem holdings_release (s : Session) :
    s.release.holdings = { s.holdings with pipeline := s.pipeline.reset, ring := s.ring.logout } :=
  holdings_transition ..

theorem holdings_disconnect (s : Session) (t call : Nat) :
    (s.disconnect t call).holdings =
      if s.link = none ∧ s.state ≠ .disconnected then
        { s.holdings with pipeline := s.pipeline.reset, ring := s.ring.logout }
      else s.holdings := by
  rcases disconnect_cases s t call with ⟨l, hl, he⟩ | ⟨hl, hs, he⟩ | ⟨hl, hs, he⟩ <;> rw [he]
  · rw [if_neg (by simp [hl])]
    exact holdings_letGo s
  · rw [if_neg (by simp [hs])]
    exact holdings_letGo s
  · rw [if_pos ⟨hl, hs⟩, holdings_answer, holdings_release]
    simp only [letGo, hl]
    rfl

/-! ## Keys -/

theorem ring_receive (s : Session) (m : Moment) (g : Nat) (message : Bytes) :
    (s.receive m g message).ring = s.ring := by
  unfold receive
  split
  · rfl
  · split
    · rfl
    · exact congrArg Holdings.ring (holdings_packet ..)

/-- Only a sign-in brings keys. -/
theorem ring_step (s : Session) (m : Moment) {e : Event}
    (he : ∀ credentials fresh, e ≠ .authenticate credentials fresh) :
    (s.step m e).ring = s.ring ∨ (s.step m e).ring = s.ring.logout := by
  have hm := move_step s m e
  generalize s.step m e = s' at hm ⊢
  cases hm with
  | connect => exact .inl (congrArg Holdings.ring (holdings_connect ..))
  | disconnect t call =>
    have hd := congrArg Holdings.ring (holdings_disconnect s t call)
    split at hd
    · exact .inr hd
    · exact .inl hd
  | joined => exact .inr (congrArg Holdings.ring (holdings_release s))
  | beginSend => exact .inl (congrArg Holdings.ring (holdings_beginSend ..))
  | beginWrite => exact .inl (congrArg Holdings.ring (holdings_beginWrite ..))
  | dialDone => exact .inl (congrArg Holdings.ring (holdings_dialDone ..))
  | intervalOver => exact .inl (congrArg Holdings.ring (holdings_intervalOver ..))
  | writeDone t origin l sequence message result =>
    have hw := congrArg Holdings.ring (holdings_writeDone s t origin l sequence message result)
    cases result <;> exact .inl hw
  | receive => exact .inl (ring_receive ..)
  | linkEnded => exact .inl (congrArg Holdings.ring (holdings_lose ..))
  | letGo => exact .inl (congrArg Holdings.ring (holdings_letGo s))
  | logout => exact .inr rfl
  | authenticate credentials fresh => exact absurd rfl (he credentials fresh)
  | rest | call | close | unlisten | tick | work | pop | setVolume | free => exact .inl rfl

theorem keys_run (hk : s.ring.keys = none) {events : List (Moment × Event)}
    (he : ∀ x ∈ events, ∀ credentials fresh, x.2 ≠ .authenticate credentials fresh) :
    (s.run events).ring.keys = none := by
  refine run_keeps (P := fun s => s.ring.keys = none)
    (A := fun e => ∀ credentials fresh, e ≠ .authenticate credentials fresh) ?_ he hk
  intro s m e he hk
  rcases ring_step s m he with h | h <;> rw [h]
  · exact hk
  · rfl

/-! ## Generations -/

@[simp] theorem generation_dial (s : Session) (t : Nat) (call : Option Nat) (g : Nat) (peer : Peer) :
    (s.dial t call g peer).generation = s.generation := by
  rcases dial_core s t call g peer with hc | hc
  · exact congrArg Core.generation hc
  · exact (congrArg Core.generation hc).trans (transition_frame ..).2.2.1

theorem generation_le_connect (s : Session) (t call : Nat) (peer : Peer) :
    s.generation ≤ (s.connect t call peer).generation := by
  unfold connect
  split
  · rw [generation_dial]
    cases s.link <;> simp [supersede, abandon, cancel, spawn]
  · exact Nat.le_refl _

theorem generation_install (s : Session) (t : Nat) (call : Option Nat) (l : Link) :
    (s.install t call l).generation = s.generation := by
  unfold install
  simp only
  split
  · simp [put, spawn]
  · cases call <;> simp [answer, erase, spawn]

@[simp] theorem generation_dialDone (s : Session) (t : Nat) (call : Option Nat) (g : Nat)
    (result : Except TransportError Unit) : (s.dialDone t call g result).generation = s.generation := by
  unfold dialDone
  cases result with
  | error e => cases call <;> simp [answer, erase, failAttempt]
  | ok _ =>
    simp only
    split
    · exact generation_install ..
    · cases call <;> rfl

theorem generation_le_lose (s : Session) (g : Nat) (reason : String) (loss : Loss) :
    s.generation ≤ (s.lose g reason loss).generation := by
  unfold lose
  split
  · exact Nat.le_refl _
  · simp only
    split
    · cases loss <;> simp only <;> split <;> simp [supersede, abandon, cancel, spawn]
    · exact Nat.le_refl _

@[simp] theorem generation_intervalOver (s : Session) (t g : Nat) :
    (s.intervalOver t g).generation = s.generation := by
  unfold intervalOver
  split
  · split
    · rfl
    · exact generation_dial ..
  · rfl

theorem generation_letGo (s : Session) : s.letGo.generation = s.generation + 1 := by
  unfold letGo
  split <;> rfl

@[simp] theorem generation_release (s : Session) : s.release.generation = s.generation :=
  (transition_frame ..).2.2.1

theorem generation_disconnect (s : Session) (t call : Nat) :
    (s.disconnect t call).generation = s.generation + 1 := by
  rcases disconnect_cases s t call with ⟨l, -, he⟩ | ⟨-, -, he⟩ | ⟨-, -, he⟩ <;> rw [he]
  · exact generation_letGo s
  · exact generation_letGo s
  · exact (generation_release _).trans (generation_letGo s)

theorem generation_concludeSend (s : Session) (t : Nat) (origin : Origin) (r : Except ClientError UInt32) :
    (s.concludeSend t origin r).generation = s.generation :=
  congrArg Core.generation (concludeSend_core ..)

theorem generation_le_countFailure (s : Session) (g : Nat) : s.generation ≤ (s.countFailure g).generation := by
  unfold countFailure
  simp only
  split
  · exact generation_le_lose { s with failures := 0 } ..
  · exact Nat.le_refl _

theorem generation_le_writeDone (s : Session) (t : Nat) (origin : Origin) (link : Link) (sequence : UInt32)
    (message : Bytes) (result : Except TransportError Unit) :
    s.generation ≤ (s.writeDone t origin link sequence message result).generation := by
  unfold writeDone
  cases result with
  | ok _ =>
    exact Nat.le_of_eq (by rw [generation_concludeSend])
  | error e =>
    let s' := { s with stats := { s.stats with sendFailures := s.stats.sendFailures + 1 } }
    simp only
    split
    · rw [generation_concludeSend]
      exact generation_le_countFailure s' _
    · exact Nat.le_of_eq (by rw [generation_concludeSend])

theorem generation_media (s : Session) (g : Nat) (p : Packet) : (s.media g p).generation = s.generation := by
  unfold media
  simp only
  split
  · rfl
  · exact (transition_frame ..).2.2.1

theorem generation_receive (s : Session) (m : Moment) (g : Nat) (message : Bytes) :
    (s.receive m g message).generation = s.generation := by
  unfold receive
  split
  · rfl
  · split
    · rfl
    · rename_i p _
      unfold packet
      cases p.kind with
      | video | audio => exact generation_media ..
      | keepAlive | control | auth | input => rfl

theorem generation_beginSend (s : Session) (t : Nat) (origin : Origin) (kind : PacketKind) (payload : Bytes) :
    (s.beginSend t origin kind payload).generation = s.generation := by
  unfold beginSend
  split
  · rfl
  · exact generation_concludeSend ..

theorem generation_beginWrite (s : Session) (m : Moment) (t : Nat) (origin : Origin) (kind : PacketKind)
    (payload : Bytes) : (s.beginWrite m t origin kind payload).generation = s.generation := by
  unfold beginWrite
  split
  · exact generation_concludeSend ..
  · simp only
    split
    · rw [generation_concludeSend]
    · rfl

theorem generation_le_step (s : Session) (m : Moment) (e : Event) : s.generation ≤ (s.step m e).generation := by
  have hm := move_step s m e
  generalize s.step m e = s' at hm ⊢
  cases hm with
  | connect => exact generation_le_connect ..
  | disconnect t call =>
    rw [generation_disconnect]
    exact Nat.le_succ _
  | joined => exact Nat.le_of_eq (generation_release s).symm
  | beginSend => exact Nat.le_of_eq (generation_beginSend ..).symm
  | beginWrite => exact Nat.le_of_eq (generation_beginWrite ..).symm
  | dialDone => exact Nat.le_of_eq (generation_dialDone ..).symm
  | intervalOver => exact Nat.le_of_eq (generation_intervalOver ..).symm
  | writeDone => exact generation_le_writeDone ..
  | receive => exact Nat.le_of_eq (generation_receive ..).symm
  | linkEnded t l => exact generation_le_lose (s.erase t) ..
  | letGo =>
    rw [generation_letGo]
    exact Nat.le_succ _
  | rest | call | close | unlisten | tick | work | pop | setVolume | authenticate | logout | free =>
    exact Nat.le_refl _

/-- Generations only grow. -/
theorem generation_le_run (s : Session) (events : List (Moment × Event)) :
    s.generation ≤ (s.run events).generation := by
  refine run_keeps (P := fun s' => s.generation ≤ s'.generation) (A := fun _ => True) ?_ (by simp) (Nat.le_refl _)
  intro s' m e _ h
  exact Nat.le_trans h (generation_le_step s' m e)

end DeskStream.Session

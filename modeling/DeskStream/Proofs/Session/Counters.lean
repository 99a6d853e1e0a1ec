import DeskStream.Proofs.Session.Dispatch
import DeskStream.Proofs.Session.Farewell
import Mathlib.Data.Nat.Basic
import Mathlib.Order.Basic
/-!
# What a session counts

The counts of a session are in its stats and in the metrics of its link. Both can begin anew: the
metrics forget the number they expect whenever a link is handed over, also one that comes too late,
and all counts are dropped by a connect. Nothing but an accepted connect lowers a count
(`counts_le_step`), so between two of them the counts only grow (`counts_of_run`).
-/

namespace DeskStream

open Wire

/-- A count of a session or of the metrics of its link. -/
inductive Counter where
  | packetsSent
  | sendFailures
  | protocolDrops
  | cryptoDrops
  | controlPackets
  | keepalivesEchoed
  | reconnectAttempts
  | received
  | lost
  | reordered
  | clockSkew
  deriving Repr, DecidableEq

/-- What is counted of a link. -/
def MetricsSample.count (s : MetricsSample) : Counter → Nat
  | .received => s.received
  | .lost => s.lost
  | .reordered => s.reordered
  | .clockSkew => s.clockSkew
  | _ => 0

/-- What a session and the metrics of its link have counted. -/
def Session.counts (s : Session) : Counter → Nat
  | .packetsSent => s.stats.packetsSent
  | .sendFailures => s.stats.sendFailures
  | .protocolDrops => s.stats.protocolDrops
  | .cryptoDrops => s.stats.cryptoDrops
  | .controlPackets => s.stats.controlPackets
  | .keepalivesEchoed => s.stats.keepalivesEchoed
  | .reconnectAttempts => s.stats.reconnectAttempts
  | c => s.metrics.sample.count c

/-! ## Metrics -/

namespace LinkMetrics

variable (m : LinkMetrics)

/-- Rates are no counts. -/
@[simp] theorem count_roll (instant : Nat) : (m.roll instant).sample.count = m.sample.count := by
  unfold roll
  split <;> rfl

@[simp] theorem count_tick (instant : Nat) : (m.tick instant).sample.count = m.sample.count := by
  unfold tick
  split <;> rfl

theorem le_trackSequence (sequence : UInt32) : m.sample.count ≤ (m.trackSequence sequence).sample.count := by
  intro c
  unfold trackSequence
  split
  · exact Nat.le_refl _
  · dsimp only
    split <;> cases c <;> simp [MetricsSample.count]

theorem le_trackLatency (now timestamp : UInt64) :
    m.sample.count ≤ (m.trackLatency now timestamp).sample.count := by
  intro c
  cases c <;> simp [trackLatency, MetricsSample.count]

theorem le_count (p : Packet) : m.sample.count ≤ (m.count p).sample.count := by
  intro c
  cases c <;> simp [count, MetricsSample.count]

theorem le_record (p : Packet) (now : UInt64) (instant : Nat) :
    m.sample.count ≤ (m.record p now instant).sample.count := by
  let opened := (m.roll instant).begin instant
  calc m.sample.count
    _ = opened.sample.count := (m.count_roll instant).symm
    _ ≤ (opened.count p).sample.count := opened.le_count p
    _ ≤ ((opened.count p).trackSequence p.sequence).sample.count := le_trackSequence _ _
    _ ≤ (m.record p now instant).sample.count := le_trackLatency _ now p.timestamp

end LinkMetrics

namespace Session

variable {s s' : Session} {t : Nat}

/-- Metrics that have counted more, and the rest as it was. -/
theorem counts_le_of_metrics (hs : s'.stats = s.stats) (hm : s.metrics.sample.count ≤ s'.metrics.sample.count) :
    s.counts ≤ s'.counts := by
  intro c
  cases c <;> simp only [counts, hs] <;> first | exact Nat.le_refl _ | exact hm _

/-! ## Operations that count nothing -/

@[simp] theorem counts_spawn (s : Session) (task : Task) : (s.spawn task).counts = s.counts := rfl

@[simp] theorem counts_bereft (s : Session) (link : Nat) : (s.supersede.abandon link).counts = s.counts := rfl

@[simp] theorem counts_transition (s : Session) (g : Nat) (allowed : ConnectionState → Bool)
    (next : ConnectionState) : (s.transition g allowed next).counts = s.counts := by
  unfold transition
  split <;> rfl

theorem counts_dial (s : Session) (t : Nat) (call : Option Nat) (g : Nat) (peer : Peer) :
    (s.dial t call g peer).counts = s.counts := by
  unfold dial
  split
  · cases call <;> exact counts_transition ..
  · rfl

theorem counts_install (s : Session) (t : Nat) (call : Option Nat) (l : Link) :
    (s.install t call l).counts = s.counts := by
  unfold install
  simp only
  split
  · exact counts_transition ..
  · cases call <;> exact counts_transition ..

/-- The metrics of a link that is handed over forget which number they expect, and no more. -/
theorem counts_dialDone (s : Session) (t : Nat) (call : Option Nat) (g : Nat)
    (result : Except TransportError Unit) : (s.dialDone t call g result).counts = s.counts := by
  unfold dialDone
  cases result with
  | error e => cases call <;> exact counts_transition ..
  | ok _ =>
    simp only
    split
    · exact counts_install { s with links := s.links + 1, metrics := s.metrics.newLink } ..
    · cases call <;> rfl

theorem counts_lose (s : Session) (g : Nat) (reason : String) (loss : Loss) :
    (s.lose g reason loss).counts = s.counts := by
  unfold lose
  cases s.link with
  | none => rfl
  | some l =>
    simp only
    split
    · cases loss <;> simp only <;> split <;>
        simp only [counts_spawn, counts_transition, counts_bereft]
    · rfl

theorem counts_release (s : Session) : s.release.counts = s.counts :=
  counts_transition { s with pipeline := s.pipeline.reset, ring := s.ring.logout } ..

theorem counts_disconnect (s : Session) (t call : Nat) : (s.disconnect t call).counts = s.counts := by
  unfold disconnect
  cases s.link with
  | some l => rfl
  | none =>
    simp only
    split
    · rfl
    · exact counts_release s.supersede

theorem counts_letGo (s : Session) : s.letGo.counts = s.counts := by
  unfold letGo
  split <;> rfl

theorem counts_countFailure (s : Session) (g : Nat) : (s.countFailure g).counts = s.counts := by
  unfold countFailure
  simp only
  split
  · exact counts_lose { s with failures := 0 } ..
  · rfl

/-! ## Operations that count -/

theorem counts_le_concludeSend (s : Session) (t : Nat) (origin : Origin) (r : Except ClientError UInt32) :
    s.counts ≤ (s.concludeSend t origin r).counts := by
  intro c
  cases origin with
  | call call => cases r <;> exact Nat.le_refl _
  | auth call => cases call <;> exact Nat.le_refl _
  | echo =>
    cases r with
    | error e => exact Nat.le_refl _
    | ok n => cases c <;> simp [concludeSend, counts, erase]

theorem counts_le_beginSend (s : Session) (t : Nat) (origin : Origin) (kind : PacketKind) (payload : Bytes) :
    s.counts ≤ (s.beginSend t origin kind payload).counts := by
  unfold beginSend
  split
  · exact le_refl s.counts
  · exact s.counts_le_concludeSend t origin _

theorem counts_le_beginWrite (s : Session) (m : Moment) (t : Nat) (origin : Origin) (kind : PacketKind)
    (payload : Bytes) : s.counts ≤ (s.beginWrite m t origin kind payload).counts := by
  unfold beginWrite
  split
  · exact counts_le_concludeSend _ _ _ _
  · simp only
    split
    · exact counts_le_concludeSend { s with sequence := s.sequence + 1 } _ _ _
    · exact le_refl s.counts

theorem counts_le_writeDone (s : Session) (t : Nat) (origin : Origin) (l : Link) (n : UInt32) (message : Bytes)
    (result : Except TransportError Unit) :
    s.counts ≤ (s.writeDone t origin l n message result).counts := by
  cases result with
  | ok _ =>
    let sent := { s with
      failures := 0
      stats := { s.stats with packetsSent := s.stats.packetsSent + 1 }
      written := s.written ++ [(l.number, message)] }
    have h : s.counts ≤ sent.counts := by intro c; cases c <;> simp [sent, counts]
    exact h.trans (sent.counts_le_concludeSend t origin _)
  | error e =>
    let failed := { s with stats := { s.stats with sendFailures := s.stats.sendFailures + 1 } }
    have h : s.counts ≤ failed.counts := by intro c; cases c <;> simp [failed, counts]
    unfold writeDone
    simp only
    split
    · calc s.counts
        _ ≤ failed.counts := h
        _ = (failed.countFailure l.generation).counts := (counts_countFailure ..).symm
        _ ≤ _ := counts_le_concludeSend _ _ _ _
    · exact h.trans (failed.counts_le_concludeSend t origin _)

theorem counts_le_intervalOver (s : Session) (t g : Nat) : s.counts ≤ (s.intervalOver t g).counts := by
  unfold intervalOver
  split
  · split
    · exact le_refl s.counts
    · rw [counts_dial]
      intro c
      cases c <;> simp [counts]
  · exact le_refl s.counts

theorem counts_le_dropProtocol (s : Session) : s.counts ≤ s.dropProtocol.counts := by
  intro c
  cases c <;> simp [dropProtocol, counts]

theorem counts_le_dropCrypto (s : Session) : s.counts ≤ s.dropCrypto.counts := by
  intro c
  cases c <;> simp [dropCrypto, counts]

theorem counts_le_media (s : Session) (g : Nat) (p : Packet) : s.counts ≤ (s.media g p).counts := by
  let fed := { s with pipeline := (s.pipeline.submit p).1 }
  unfold media
  simp only
  split
  · exact fed.counts_le_dropProtocol
  · exact le_of_eq (fed.counts_transition ..).symm

theorem counts_le_packet (s : Session) (m : Moment) (g : Nat) (p : Packet) :
    s.counts ≤ (s.packet m g p).counts := by
  let measured := { s with metrics := s.metrics.record p m.wall m.mono }
  have h : s.counts ≤ measured.counts := counts_le_of_metrics rfl (s.metrics.le_record p m.wall m.mono)
  unfold packet
  cases p.kind with
  | video | audio => exact h.trans (measured.counts_le_media g p)
  | keepAlive | input => exact h
  | control | auth =>
    refine h.trans ?_
    intro c
    cases c <;> simp [measured, counts]

theorem counts_le_receive (s : Session) (m : Moment) (g : Nat) (message : Bytes) :
    s.counts ≤ (s.receive m g message).counts := by
  unfold receive
  split
  · exact s.counts_le_dropCrypto
  · split
    · exact s.counts_le_dropProtocol
    · exact s.counts_le_packet m g _

/-! ## Steps and runs -/

/-- A step by which no connect is accepted lowers no count. -/
theorem counts_le_step (s : Session) (m : Moment) {e : Event}
    (hn : ∀ t call peer, e = .run t → ¬ s.Accepts t call peer) : s.counts ≤ (s.step m e).counts := by
  have hm := move_step s m e
  generalize s.step m e = s' at hm ⊢
  cases hm with
  | connect t call peer h hj =>
    have hc : s.state.canConnect ≠ true := fun hc => hn t call peer rfl ⟨h, hj, hc⟩
    rw [connect, if_neg hc]
    exact le_refl s.counts
  | disconnect t call => exact le_of_eq (s.counts_disconnect t call).symm
  | joined t call => exact le_of_eq s.counts_release.symm
  | beginSend t origin kind payload => exact s.counts_le_beginSend t origin kind payload
  | beginWrite t origin kind payload => exact s.counts_le_beginWrite m t origin kind payload
  | dialDone => exact le_of_eq (s.counts_dialDone ..).symm
  | intervalOver t g => exact s.counts_le_intervalOver t g
  | writeDone t origin l n message result => exact s.counts_le_writeDone t origin l n message result
  | receive t l message => exact s.counts_le_receive m l.generation message
  | linkEnded t l reason => exact le_of_eq ((s.erase t).counts_lose ..).symm
  | tick => exact counts_le_of_metrics rfl (le_of_eq (s.metrics.count_tick m.mono).symm)
  | letGo => exact le_of_eq s.counts_letGo.symm
  | rest | call | close | unlisten | work | pop | setVolume | authenticate | logout | free => exact le_refl s.counts

/-- Until a connect is accepted, no count is lower than it was. -/
theorem counts_le_run {events : List (Moment × Event)} (hu : s.Unconnected events) :
    s.counts ≤ (s.run events).counts := by
  induction events generalizing s with
  | nil => exact le_refl s.counts
  | cons x events ih => exact (s.counts_le_step x.1 hu.1).trans (ih hu.2)

/-- An accepted connect begins all counts anew, and the numbers of packets. -/
theorem Accepts.fresh {call : Nat} {peer : Peer} (h : s.Accepts t call peer) (hi : Inv s) (m : Moment) :
    (∀ c, (s.step m (.run t)).counts c = 0) ∧ (s.step m (.run t)).sequence = 1 := by
  have hy := congrArg Tally.sequence (h.tally hi m)
  refine ⟨fun c => ?_, hy⟩
  rw [h.step hi m, counts_dial]
  cases c <;> rfl

/-- A connect that has its turn and is not accepted ends with the state it met, and that is all. -/
theorem step_of_rejected {call : Nat} {peer : Peer} (h : s.task? t = some (.connect call peer))
    (hj : s.isLeaving = false) (hs : s.state.canConnect = false) (m : Moment) :
    s.step m (.run t) = s.answer t call (.failed (.connectRejected s.state)) := by
  simp only [step, h, resume, hj, Bool.false_eq_true, if_false, connect, hs]

/-- Whatever happens to a session, none of its counts is lowered until a connect is accepted. A connect
that is accepted begins all counts at zero and the numbers of packets at one. One that is not is
rejected with the state it met, and but for the call that ends, nothing changes. -/
theorem counts_of_run (config : SessionConfig) (ring : KeyRing) (format : PcmFormat)
    (before : List (Moment × Event)) :
    let s := (ofConfig config ring format).run before
    (∀ after, s.Unconnected after → s.counts ≤ (s.run after).counts) ∧
      ∀ m t call peer, s.task? t = some (.connect call peer) → s.isLeaving = false →
        let s' := s.step m (.run t)
        (s.Accepts t call peer ∧ (∀ c, s'.counts c = 0) ∧ s'.sequence = 1) ∨
          (s.state ∈ [.connecting, .connected, .streaming, .reconnecting] ∧
            s' = { s with
              tasks := s.tasks.filter (·.1 ≠ t)
              outcomes := s.outcomes ++ [(call, .failed (.connectRejected s.state))] }) := by
  intro s
  have hi : Inv s := inv_run (bare_ofConfig config ring format).inv before
  refine ⟨fun after hu => counts_le_run hu, ?_⟩
  intro m t call peer ht hj s'
  cases hs : s.state.canConnect with
  | true =>
    have ha : s.Accepts t call peer := ⟨ht, hj, hs⟩
    exact .inl ⟨ha, ha.fresh hi m⟩
  | false =>
    refine .inr ⟨?_, step_of_rejected ht hj hs m⟩
    cases h : s.state <;> simp_all [ConnectionState.canConnect]

/-- A link that takes a packet. -/
def oneSent : List (Moment × Event) :=
  atOnce [.callConnect 0 (.manual "desk" "desk.local" 9000), .run 0, .dialDone 0 (.ok ()),
    .callSend 1 .control [], .run 2, .run 2, .writeDone 2 (.ok ())]

/-- It is lost and replaced, two packets arrive with a third missing between them, and a connect is asked for. -/
def oneLost : List (Moment × Event) :=
  atOnce ([.linkEnded 1 "reset", .intervalOver 4, .dialDone 4 (.ok ())] ++
    [1, 3].map (fun n => .receive 5 (Packet.encode ⟨.control, 0, n, []⟩)) ++
    [.callConnect 2 (.manual "attic" "attic.local" 9000)])

/-- The session is disconnected, and another connect is asked for. -/
def leftBehind : List (Moment × Event) :=
  atOnce [.run 6, .callDisconnect 3, .run 7, .run 5, .run 7, .callConnect 4 (.manual "attic" "attic.local" 9000)]

/-- A packet sent on the first link still counts on the second, where another is found to be lost. A
connect is rejected meanwhile; the one after the disconnect drops both counts. -/
theorem counts_of_run_reconnected :
    let s := plain.run oneSent
    let connected := plain.run (oneSent ++ oneLost)
    let left := plain.run (oneSent ++ oneLost ++ leftBehind)
    s.Unconnected oneLost ∧ s.counts ≤ (s.run oneLost).counts ∧
      s.counts .packetsSent = 1 ∧ s.counts .lost = 0 ∧ (s.run oneLost).counts .lost = 1 ∧
      (connected.step still (.run 6)).outcomes.getLast? = some (2, .failed (.connectRejected .connected)) ∧
      (connected.step still (.run 6)).counts = connected.counts ∧
      left.counts .packetsSent = 1 ∧ (left.step still (.run 8)).counts .packetsSent = 0 := by
  intro s connected left
  have hu : s.Unconnected oneLost := by decide +kernel
  have hc : connected.state = .connected := by decide +kernel
  have hl : left.state = .disconnected := by decide +kernel
  have hrejected : connected.step still (.run 6) = { connected with
      tasks := connected.tasks.filter (·.1 ≠ 6)
      outcomes := connected.outcomes ++ [(2, .failed (.connectRejected connected.state))] } := by
    have ht : connected.task? 6 = some (.connect 2 (.manual "attic" "attic.local" 9000)) := by decide +kernel
    have hj : connected.isLeaving = false := by decide +kernel
    rcases (counts_of_run _ _ _ (oneSent ++ oneLost)).2 still 6 2 _ ht hj with ⟨ha, -⟩ | ⟨-, h⟩
    · have hs : connected.state.canConnect := ha.state
      rw [hc] at hs
      cases hs
    · exact h
  have haccepted : (left.step still (.run 8)).counts .packetsSent = 0 := by
    have ht : left.task? 8 = some (.connect 4 (.manual "attic" "attic.local" 9000)) := by decide +kernel
    have hj : left.isLeaving = false := by decide +kernel
    rcases (counts_of_run _ _ _ (oneSent ++ oneLost ++ leftBehind)).2 still 8 4 _ ht hj with ⟨-, h, -⟩ | ⟨h, -⟩
    · exact h .packetsSent
    · have hs : left.state ∈ [.connecting, .connected, .streaming, .reconnecting] := h
      simp [hl] at hs
  refine ⟨hu, (counts_of_run _ _ _ oneSent).1 oneLost hu, by decide +kernel, by decide +kernel,
    by decide +kernel, ?_, ?_, by decide +kernel, haccepted⟩
  · rw [hrejected, hc]
    simp
  · rw [hrejected]
    rfl

end Session
end DeskStream

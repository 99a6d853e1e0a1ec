import DeskStream.Proofs.Metrics.Loss
import DeskStream.Proofs.Session.Media
/-!
# Completions of superseded attempts

A connector call may complete long after a disconnect or a newer connect has superseded its attempt.
The session then closes the link, if one was handed over, and answers the call. Yet a link handed over
also makes the metrics forget which packet they expect next, so that a loss on the installed link can
go uncounted (`superseded_completion`).
-/

namespace DeskStream

open Wire

/-! ## Loss -/

namespace LinkMetrics

/-- Packets missing in front of one received. -/
def missing (m : LinkMetrics) (sequence : UInt32) : Nat :=
  match m.expected with
  | none => 0
  | some expected => (distance expected sequence).toNat

/-- A packet recorded adds to the loss what is missing in front of it. -/
theorem lost_record (m : LinkMetrics) (p : Packet) (now : UInt64) (instant : Nat) :
    (m.record p now instant).sample.lost = m.sample.lost + m.missing p.sequence := by
  have ht := congrArg Tracking.lost (m.tracking_record p now instant)
  change (m.record p now instant).sample.lost = _ at ht
  rw [ht, missing]
  cases m.expected with
  | none => rfl
  | some expected =>
    simp only
    split
    · rfl
    · rw [Int.toNat_of_nonpos (by omega)]
      rfl

theorem newLink_eq_iff (m : LinkMetrics) : m.newLink = m ↔ m.expected = none := by
  constructor
  · intro h
    rw [← h]; rfl
  · intro h
    cases m
    cases h
    rfl

end LinkMetrics

namespace Session

variable {s : Session} {t u : Nat} {task : Task}

/-! ## What supersedes an attempt -/

/-- An activity begins a new generation when it goes on: a disconnect or a connect that has its turn. -/
inductive Supersedes (s : Session) (u : Nat) : Prop where
  | disconnect (call : Nat) (h : s.task? u = some (.disconnect call)) (turn : s.isLeaving = false)
  | connect (call : Nat) (peer : Peer) (h : s.Accepts u call peer)

theorem Supersedes.generation (h : s.Supersedes u) (hi : Inv s) (m : Moment) :
    (s.step m (.run u)).generation = s.generation + 1 := by
  cases h with
  | disconnect call h turn =>
    simp only [step, h, resume, turn, Bool.false_eq_true, if_false]
    exact generation_disconnect ..
  | connect call peer h =>
    rw [h.step hi m, generation_dial]
    rfl

/-- An attempt once superseded stays so. -/
theorem Supersedes.stale (h : s.Supersedes u) (hi : Inv s) (m : Moment) (after : List (Moment × Event))
    (ht : s.task? t = some task) {g : Nat} (hg : task.attempt? = some g) :
    g < ((s.step m (.run u)).run after).generation := by
  have h1 := hi.past _ (task?_mem ht) g hg
  have h2 := generation_le_run (s.step m (.run u)) after
  rw [h.generation hi m] at h2
  omega

/-! ## The completion -/

/-- The link that a connector call hands over. -/
def handedOver (s : Session) : Except TransportError Unit → List Nat
  | .ok _ => [s.links]
  | .error _ => []

/-- How a call ends whose attempt was superseded. -/
def lateAnswer : Except TransportError Unit → Outcome
  | .ok _ => .failed .cancelled
  | .error e => .failed (.connectionFailed e)

theorem step_dialDone {call : Option Nat} {g : Nat} {peer : Peer} (h : s.task? t = some (.dial call g peer))
    (m : Moment) (result : Except TransportError Unit) :
    s.step m (.dialDone t result) = s.dialDone t call g result := by
  simp only [step, h]

theorem dialDone_of_stale {g : Nat} (hg : s.generation ≠ g) (t : Nat) (call : Option Nat)
    (result : Except TransportError Unit) :
    s.dialDone t call g result = { s.ended t call (lateAnswer result) with
      links := s.links + (s.handedOver result).length
      closed := s.closed ++ s.handedOver result
      metrics := (s.dialDone t call g result).metrics } := by
  cases result with
  | error e =>
    rw [dialDone_error_of_stale hg]
    cases call <;> simp [ended, lateAnswer, handedOver, answer, Session.erase]
  | ok _ =>
    rw [dialDone_ok_of_stale hg]
    cases call <;> rfl

theorem metrics_dialDone_of_stale {g : Nat} (hg : s.generation ≠ g) (t : Nat) (call : Option Nat)
    (result : Except TransportError Unit) :
    (s.dialDone t call g result).metrics = if s.handedOver result = [] then s.metrics else s.metrics.newLink := by
  cases result with
  | error e => rw [dialDone_error_of_stale hg]; cases call <;> rfl
  | ok _ => rw [dialDone_ok_of_stale hg]; cases call <;> rfl

/-- A connector call of an attempt that a disconnect or a connect has superseded completes, at any later
time. The activity ends and its call is answered, a link handed over is closed, and all else but the
metrics is as before. The metrics are so exactly if no link was handed over or they expected no packet; and
the loss counted with the next packet is so exactly if no link was handed over or nothing is missing. -/
theorem superseded_completion (config : SessionConfig) (ring : KeyRing) (format : PcmFormat)
    {before after : List (Moment × Event)} (m m' : Moment) {t u g : Nat} {call : Option Nat} {peer : Peer}
    (hu : ((ofConfig config ring format).run before).Supersedes u)
    (hb : ((ofConfig config ring format).run before).task? t = some (.dial call g peer))
    (ht : ((((ofConfig config ring format).run before).step m (.run u)).run after).task? t = some (.dial call g peer))
    (result : Except TransportError Unit) :
    let s := (((ofConfig config ring format).run before).step m (.run u)).run after
    let s' := s.step m' (.dialDone t result)
    s' = { s.ended t call (lateAnswer result) with
        links := s.links + (s.handedOver result).length
        closed := s.closed ++ s.handedOver result
        metrics := s'.metrics } ∧
      (s'.metrics = s.metrics ↔ s.handedOver result = [] ∨ s.metrics.expected = none) ∧
      ∀ p now instant,
        (s'.metrics.record p now instant).sample.lost = (s.metrics.record p now instant).sample.lost ↔
          s.handedOver result = [] ∨ s.metrics.missing p.sequence = 0 := by
  intro s s'
  have hi : Inv ((ofConfig config ring format).run before) := inv_run (bare_ofConfig config ring format).inv before
  have hg : s.generation ≠ g := Nat.ne_of_gt (hu.stale hi m after hb rfl)
  have hs : s' = s.dialDone t call g result := step_dialDone ht m' result
  have hm : s'.metrics = if s.handedOver result = [] then s.metrics else s.metrics.newLink := by
    rw [hs]; exact metrics_dialDone_of_stale hg t call result
  refine ⟨?_, ?_, ?_⟩
  · rw [hs]; exact dialDone_of_stale hg t call result
  · rw [hm]
    split
    · simp [*]
    · simp [*, LinkMetrics.newLink_eq_iff]
  · intro p now instant
    rw [hm, LinkMetrics.lost_record, LinkMetrics.lost_record]
    split
    · simp [*]
    · simp [*, LinkMetrics.newLink, LinkMetrics.missing]

/-- An attempt that is to be given up while the connector is called. -/
def firstTry : List (Moment × Event) :=
  atOnce [.callConnect 0 (.manual "desk" "desk.local" 9000), .run 0, .callDisconnect 1]

/-- Another host is connected to and sends two packets. -/
def secondTry : List (Moment × Event) :=
  atOnce ([.callConnect 2 (.manual "attic" "attic.local" 9000), .run 2, .dialDone 2 (.ok ())] ++
    [1, 2].map fun n => .receive 3 (Packet.encode ⟨.control, 10, n, []⟩))

/-- The link of the first attempt comes too late, and of the three packets missing after it none is counted. -/
theorem superseded_completion_secondTry :
    let s := ((plain.run firstTry).step still (.run 1)).run secondTry
    let s' := s.step still (.dialDone 0 (.ok ()))
    s.state = .connected ∧ s'.metrics ≠ s.metrics ∧
      (s.metrics.record ⟨.control, 10, 6, []⟩ 0 0).sample.lost = 3 ∧
      (s'.metrics.record ⟨.control, 10, 6, []⟩ 0 0).sample.lost ≠ 3 := by
  intro s s'
  have hu : (plain.run firstTry).Supersedes 1 := .disconnect 1 (by decide +kernel) (by decide +kernel)
  have hb : (plain.run firstTry).task? 0 = some (.dial (some 0) 1 (.manual "desk" "desk.local" 9000)) := by
    decide +kernel
  have ht : s.task? 0 = some (.dial (some 0) 1 (.manual "desk" "desk.local" 9000)) := by decide +kernel
  have hlate := (superseded_completion _ _ _ still still hu hb ht (.ok ())).2
  have hlost : (s.metrics.record ⟨.control, 10, 6, []⟩ 0 0).sample.lost = 3 := by decide +kernel
  refine ⟨by decide +kernel, ?_, hlost, ?_⟩
  · intro h
    have he : s.metrics.expected = some 3 := by decide +kernel
    rcases hlate.1.1 h with h' | h'
    · cases h'
    · cases he.symm.trans h'
  · intro h
    have hm : s.metrics.missing 6 = 3 := by decide +kernel
    rcases (hlate.2 ⟨.control, 10, 6, []⟩ 0 0).1 (h.trans hlost.symm) with h' | h'
    · cases h'
    · cases hm.symm.trans h'

end Session
end DeskStream

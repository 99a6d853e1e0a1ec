import DeskStream.Proofs.Session.Life
import DeskStream.Proofs.Session.Period
/-!
# Outgoing packets and their numbers

What a send call returns is what became of its packet, and the packets of a period are on their links
in the order of their numbers (`outgoing_numbers`).
-/

namespace DeskStream.Session

open Wire SendMark

variable {s s' : Session} {m : Moment} {e : Event} {t : Nat} {kind : PacketKind} {payload : Bytes}
  {marks : List SendMark}

/-! ## What callers are told -/

/-- For whom a packet is sent. -/
def origin? : Task → Option Origin
  | .send origin .. | .queued origin .. | .write origin .. => some origin
  | _ => none

/-- What a send call returns. -/
def answered : Except ClientError UInt32 → Outcome
  | .ok n => .sent n
  | .error e => .failed e

theorem outcomes_concludeSend (s : Session) (t call : Nat) (r : Except ClientError UInt32) :
    (s.concludeSend t (.call call) r).outcomes = s.outcomes ++ [(call, answered r)] := by
  cases r <;> rfl

theorem outcomes_transition (s : Session) (g : Nat) (allowed : ConnectionState → Bool) (next : ConnectionState) :
    (s.transition g allowed next).outcomes = s.outcomes := by
  unfold transition
  split <;> rfl

theorem outcomes_countFailure (s : Session) (g : Nat) : (s.countFailure g).outcomes = s.outcomes := by
  unfold countFailure
  simp only
  split
  · unfold lose
    cases s.link with
    | none => rfl
    | some l =>
      simp only
      split
      · split <;> exact outcomes_transition ..
      · rfl
  · rfl

/-- A mark is made by the turn of its send, or by the end of its write. -/
theorem Dispatch.event (hd : Dispatch s m s' e marks) {mark : SendMark} (h : mark ∈ marks) :
    e = .run mark.send ∨ ∃ result, e = .writeDone mark.send result := by
  cases hd with
  | aside | connect | wait => cases h
  | refuse | hand =>
    obtain rfl := List.mem_singleton.1 h
    exact .inl rfl
  | unsealed =>
    simp only [List.mem_cons, List.not_mem_nil, or_false] at h
    rcases h with rfl | rfl <;> exact .inl rfl
  | taken =>
    simp only [List.mem_cons, List.not_mem_nil, or_false] at h
    rcases h with rfl | rfl <;> exact .inr ⟨_, rfl⟩
  | failed =>
    obtain rfl := List.mem_singleton.1 h
    exact .inr ⟨_, rfl⟩

section

variable {call : Nat} {r : Except ClientError UInt32}

theorem outcomes_run_send (hs : s.task? t = some (.send (.call call) kind payload))
    (h : .ended t r ∈ s.marks m (.run t)) :
    (s.step m (.run t)).outcomes = s.outcomes ++ [(call, answered r)] := by
  simp only [marks, hs] at h
  simp only [step, hs, resume, beginSend]
  split at h
  · simp at h
  · rename_i hc
    obtain rfl : r = .error .notConnected := by simpa using h
    rw [if_neg hc, outcomes_concludeSend]

theorem outcomes_run_queued (hs : s.task? t = some (.queued (.call call) kind payload))
    (h : .ended t r ∈ s.marks m (.run t)) :
    (s.step m (.run t)).outcomes = s.outcomes ++ [(call, answered r)] := by
  simp only [marks, hs, turnMarks] at h
  simp only [step, hs, resume]
  split at h
  · simp at h
  · rename_i hw
    rw [if_neg hw]
    cases hl : s.link with
    | none =>
      obtain rfl : r = .error .notConnected := by simpa [hl] using h
      simp only [beginWrite, hl, outcomes_concludeSend]
    | some l =>
      rw [hl] at h
      rw [beginWrite_of_link hl]
      cases hm : s.message m ⟨kind, m.wall, s.sequence, payload⟩ with
      | error why =>
        obtain rfl : r = .error (.crypto why) := by simpa [hm] using h
        simp only [outcomes_concludeSend]
      | ok message => simp [hm] at h

theorem outcomes_writeDone {l : Link} {n : UInt32} {message : Bytes} {result : Except TransportError Unit}
    (hs : s.task? t = some (.write (.call call) l n message)) (h : .ended t r ∈ s.marks m (.writeDone t result)) :
    (s.step m (.writeDone t result)).outcomes = s.outcomes ++ [(call, answered r)] := by
  simp only [marks, hs] at h
  simp only [step, hs, writeDone]
  cases result with
  | ok _ =>
    obtain rfl : r = .ok n := by simpa [writeMarks] using h
    simp only [outcomes_concludeSend]
  | error why =>
    obtain rfl : r = .error (if why.isLinkFailure then .sendFailed why else .transport why) := by
      simpa [writeMarks] using h
    simp only
    split <;> simp only [outcomes_concludeSend, outcomes_countFailure]

end

/-- A call is told how its send ended, when it ends. -/
theorem outcomes_of_ended (hi : Inv s) {r : Except ClientError UInt32} (h : .ended t r ∈ s.marks m e) {task : Task}
    {call : Nat} (ht : s.task? t = some task) (ho : origin? task = some (.call call)) :
    (s.step m e).outcomes = s.outcomes ++ [(call, answered r)] := by
  rcases (dispatch_step hi m e).event h with rfl | ⟨result, rfl⟩
  · cases task with
    | send origin kind payload =>
      cases ho
      exact outcomes_run_send ht h
    | queued origin kind payload =>
      cases ho
      exact outcomes_run_queued ht h
    | write => simp [marks, ht] at h
    | connect | disconnect | dial | join | timer | close | listen => cases ho
  · cases task with
    | write origin l n message =>
      cases ho
      exact outcomes_writeDone ht h
    | send | queued => simp [marks, ht] at h
    | connect | disconnect | dial | join | timer | close | listen => cases ho

/-! ## Every run -/

/-- A send call begins a send. -/
theorem task?_callSend (hi : Inv s) (m : Moment) (call : Nat) (kind : PacketKind) (payload : Bytes) :
    (s.step m (.callSend call kind payload)).task? s.spawned = some (.send (.call call) kind payload) :=
  (hi.numbered.spawn _).task?_of_mem (mem_spawn.2 (.inr rfl))

theorem orderly_ofConfig (config : SessionConfig) (ring : KeyRing) (format : PcmFormat) :
    Orderly (ofConfig config ring format) :=
  ⟨by simp [ofConfig], by simp [ofConfig]⟩

/-- In every run the messages on links are those that sends put there, those of calls and others, and
what a send returns says what it put: one message, handed to the link that was installed, which opens and
reads as the packet under the number returned, or nothing. Calls return just that. From one accepted
connect to the next, with fewer sends than there are numbers, sends are numbered one after the other,
what links take keeps that order, and as many messages are counted as links took. -/
theorem outgoing_numbers (config : SessionConfig) (ring : KeyRing) (format : PcmFormat)
    (before : List (Moment × Event)) :
    let s := (ofConfig config ring format).run before
    (∀ after, (s.run after).written = s.written ++ (deliveries (s.journal after)).map Delivery.item) ∧
      (∀ m call kind payload,
        (s.step m (.callSend call kind payload)).task? s.spawned = some (.send (.call call) kind payload)) ∧
      (∀ t origin kind payload, s.task? t = some (.send origin kind payload) → ∀ after r,
        .ended t r ∈ s.journal after → Answers s after t kind payload r) ∧
      (∀ m e t r task call, .ended t r ∈ s.marks m e → s.task? t = some task → origin? task = some (.call call) →
        (s.step m e).outcomes = s.outcomes ++ [(call, answered r)]) ∧
      ∀ m t call peer after, s.Accepts t call peer → (s.step m (.run t)).Unconnected after →
        (numbers ((s.step m (.run t)).journal after)).length < UInt32.size →
        Sequenced (s.step m (.run t)) after := by
  intro s
  have hi : Inv s := inv_run (bare_ofConfig config ring format).inv before
  have ho : Orderly s := (orderly_ofConfig config ring format).run (bare_ofConfig config ring format).inv before
  refine ⟨written_run hi, task?_callSend hi, ?_, ?_, ?_⟩
  · intro t origin kind payload h after r hr
    -- A send that waits has left no marks yet.
    have hl : Life s [] t kind payload := .waiting (.inl h) rfl
    exact (hl.run hi after).answers hr
  · intro m e t r task call h ht ho
    exact outcomes_of_ended hi h ht ho
  · intro m t call peer after h hu hk
    have hp := (h.period hi ho m).run (ho.step hi m _) (inv_step hi m _) (Nat.le_refl _) hu
    exact Period.sequenced hp hk

/-- A session that seals, with keys agreed on beforehand. -/
def keyed : Session := ofConfig { sendAuthToken := false } (.preshared ⟨"token"⟩ ⟨List.replicate 32 7, rfl⟩) .s16le

/-- One message is sent, one finds the link full, and the link fails; the next is refused, and one is sent after
the reconnect. -/
def sends : List (Moment × Event) :=
  atOnce [.callConnect 0 (.manual "desk" "desk.local" 9000), .run 0, .dialDone 0 (.ok ()),
    .callSend 1 .control [7], .run 2, .run 2, .writeDone 2 (.ok ()),
    .callSend 2 .control [8], .run 3, .run 3, .writeDone 3 (.error .bufferFull), .linkEnded 1 "reset",
    .callSend 3 .control [9], .run 6, .intervalOver 5, .dialDone 5 (.ok ()),
    .callSend 4 .control [10], .run 8, .run 8, .writeDone 8 (.ok ())]

/-- The link that was full cost a number, the refusal did not. -/
theorem outgoing_numbers_sends :
    let s := (keyed.run (sends.take 1)).step still (.run 0)
    (s.run (sends.drop 2)).stats.packetsSent = 2 ∧ (deliveries (s.journal (sends.drop 2))).map (·.sequence) = [1, 3] ∧
      Sequenced s (sends.drop 2) ∧
      Answers (keyed.run (sends.take 4)) (sends.drop 4) 2 .control [7] (.ok 1) ∧
      Answers (keyed.run (sends.take 8)) (sends.drop 8) 3 .control [8] (.error (.transport .bufferFull)) ∧
      Answers (keyed.run (sends.take 13)) (sends.drop 13) 6 .control [9] (.error .notConnected) ∧
      ((keyed.run (sends.take 13)).step still (.run 6)).outcomes =
        (keyed.run (sends.take 13)).outcomes ++ [(3, .failed .notConnected)] := by
  intro s
  have whole (n : Nat) := outgoing_numbers { sendAuthToken := false } (.preshared ⟨"token"⟩ ⟨List.replicate 32 7, rfl⟩)
    .s16le (sends.take n)
  have ha : (keyed.run (sends.take 1)).Accepts 0 0 (.manual "desk" "desk.local" 9000) := ⟨rfl, rfl, rfl⟩
  have refused : (keyed.run (sends.take 13)).task? 6 = some (.send (.call 3) .control [9]) := by decide +kernel
  refine ⟨by decide +kernel, by decide +kernel, ?_, ?_, ?_, ?_, ?_⟩
  · exact (whole 1).2.2.2.2 still 0 0 _ (sends.drop 2) ha (by decide +kernel) (by decide +kernel)
  · exact (whole 4).2.2.1 2 (.call 1) .control [7] (by decide +kernel) _ _ (by decide +kernel)
  · exact (whole 8).2.2.1 3 (.call 2) .control [8] (by decide +kernel) _ _ (by decide +kernel)
  · exact (whole 13).2.2.1 6 (.call 3) .control [9] refused _ _ (by decide +kernel)
  · exact (whole 13).2.2.2.1 still (.run 6) 6 (.error .notConnected) _ 3 (by decide +kernel) refused rfl

end DeskStream.Session

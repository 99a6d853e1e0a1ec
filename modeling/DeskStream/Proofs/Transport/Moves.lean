import DeskStream.Proofs.Transport.Reception
/-!
# What a sender goes through

A call to the sender is refused, taken, or made to wait for room, and the loop takes the oldest message and writes its
frame. All that a step can come to for the sender is said once (`Regular.move`). The queue is never more than full, and
a call waits only while it is (`Regular.of_move`); an error is reported for a call that is refused, with the reason, or
when the loop is over (`Regular.refused_or_lost`).
-/

namespace DeskStream
namespace TcpConnection

open DeskStream.Frame

variable {c d : TcpConnection} {e : Event} {m : Bytes} {n : Nat} {r : TransportError}

theorem ofConfig?_eq_some_iff {config : TcpConfig} :
    ofConfig? config = some c ↔ (0 < config.channelBufferSize ∧ config.channelBufferSize ≤ capacityLimit) ∧
      c = { config, reader := { limit := config.maxMessageSize } } := by
  rw [ofConfig?, Option.ite_none_right_eq_some, Option.some.injEq, eq_comm (b := c)]

/-! ## Calls -/

/-- The number and the message of a call to the sender. -/
def Event.call? : Event → Option (Nat × Bytes)
  | .send n m | .trySend n m => some (n, m)
  | .close | .dropSender | .write _ | .read _ | .readFailed _ | .deliver | .stop | .receive | .dropConsumer => none

/-- The calls of a run, in the order in which they are made. -/
def calls (events : List Event) : List (Nat × Bytes) := events.filterMap Event.call?

/-- How calls ended by a step. -/
def reports (c : TcpConnection) (e : Event) : List (Nat × Except TransportError Unit) :=
  (c.step e).outcomes.drop c.outcomes.length

/-- The numbers of the calls whose messages were taken, in the order in which they were. -/
def takenCalls (c : TcpConnection) : List Nat :=
  c.outcomes.filterMap fun (n, result) => if result.isOk then some n else none

/-- Why a call is refused. -/
inductive Refuses (c : TcpConnection) (m : Bytes) : Event → TransportError → Prop where
  | notConnected {e : Event} (h : c.isConnected = false) : Refuses c m e .notConnected
  | tooLarge {e : Event} (h : c.isConnected = true) (hm : c.config.maxMessageSize < m.length) :
    Refuses c m e (.messageTooLarge m.length c.config.maxMessageSize)
  | full (n : Nat) (hm : c.check m = .ok ()) (h : c.hasRoom = false) : Refuses c m (.trySend n m) .bufferFull

theorem check_eq_ok_iff : c.check m = .ok () ↔ c.isConnected = true ∧ m.length ≤ c.config.maxMessageSize := by
  unfold check
  cases c.isConnected with
  | false => simp
  | true =>
    simp only [Bool.not_true, Bool.false_eq_true, if_false, true_and]
    split
    · simp only [reduceCtorEq, false_iff]
      omega
    · simp only [true_iff]
      omega

theorem refuses_of_check (h : c.check m = .error r) (e : Event) : c.Refuses m e r := by
  unfold check at h
  cases hconn : c.isConnected with
  | false =>
    rw [hconn] at h
    cases h
    exact .notConnected hconn
  | true =>
    rw [hconn] at h
    simp only [Bool.not_true, Bool.false_eq_true, if_false] at h
    split at h
    · cases h
      exact .tooLarge hconn ‹_›
    · cases h

/-! ## One step -/

/-- The half of a connection that sends is the same. -/
structure SameSender (c d : TcpConnection) : Prop where
  config : d.config = c.config
  isConnected : d.isConnected = c.isConnected
  waiting : d.waiting = c.waiting
  outgoing : d.outgoing = c.outgoing
  begun : d.begun = c.begun
  written : d.written = c.written
  outcomes : d.outcomes = c.outcomes
  isOver : d.isOver = c.isOver
  /-- The loop may be about to end by then. -/
  isEnding : d.isEnding = false → c.isEnding = false

theorem SameSender.refl (c : TcpConnection) : SameSender c c := ⟨rfl, rfl, rfl, rfl, rfl, rfl, rfl, rfl, id⟩

/-- What a write of a message comes to: all of its frame, or an end of writing after some of it. -/
inductive Writes (c : TcpConnection) (m : Bytes) : Option (Nat × String) → TcpConnection → Prop where
  | whole : Writes c m none { c with written := c.written ++ frame m }
  | broken (octets : Nat) (text : String) : Writes c m (some (octets, text))
      { c with written := c.written ++ (frame m).take octets, told := [.failed text], isEnding := true }

/-- What a step comes to for the half of a connection that sends. -/
inductive Move (c : TcpConnection) : Event → TcpConnection → Prop where
  | refused {e : Event} {n : Nat} {m : Bytes} {r : TransportError} (he : e.call? = some (n, m))
    (h : c.Refuses m e r) : Move c e (c.answer n (.error r))
  | taken {e : Event} {n : Nat} {m : Bytes} (he : e.call? = some (n, m)) (hm : c.check m = .ok ())
    (hw : c.waiting = []) (hroom : c.hasRoom = true) : Move c e (c.accept n m)
  | queued (n : Nat) {m : Bytes} (hm : c.check m = .ok ()) (hroom : c.hasRoom = false) :
    Move c (.send n m) { c with waiting := c.waiting ++ [(n, m)] }
  | closed : Move c .close { c with isConnected := false, isStopping := true }
  | wrote {failure : Option (Nat × String)} {m : Bytes} {outgoing : List Bytes} {d : TcpConnection}
    (hi : c.isIdle = true) (ho : c.outgoing = m :: outgoing) (hw : c.waiting = [])
    (h : Writes { c with outgoing, begun := c.begun ++ [m] } m failure d) : Move c (.write failure) d
  /-- The room that a message leaves is taken by the call that has waited longest. -/
  | resumed {failure : Option (Nat × String)} {m next : Bytes} {n : Nat} {outgoing : List Bytes}
    {waiting : List (Nat × Bytes)} {d : TcpConnection}
    (hi : c.isIdle = true) (ho : c.outgoing = m :: outgoing) (hw : c.waiting = (n, next) :: waiting)
    (h : Writes ({ c with outgoing, waiting, begun := c.begun ++ [m] }.accept n next) m failure d) :
    Move c (.write failure) d
  | finished {e : Event} {d : TcpConnection} (he : e = .deliver ∨ e = .stop) (h : SameSender c d) : Move c e d.finish
  | kept {e : Event} {d : TcpConnection} (he : e.call? = none) (hclose : e = .close → c.isConnected = false)
    (h : SameSender c d) : Move c e d

/-- A queue is never more than full, a call waits only while it is, and a loop that is over takes no messages. -/
structure Regular (c : TcpConnection) : Prop where
  closed : c.isOver = true → c.isConnected = false
  full : c.waiting ≠ [] → c.outgoing.length = c.config.channelBufferSize
  bounded : c.outgoing.length ≤ c.config.channelBufferSize

theorem hasRoom_iff : c.hasRoom = true ↔ c.outgoing.length < c.config.channelBufferSize := decide_eq_true_iff

theorem Regular.isOver_eq_false (h : Regular c) (hm : c.check m = .ok ()) : c.isOver = false := by
  have hconn := (check_eq_ok_iff.1 hm).1
  cases hover : c.isOver with
  | false => rfl
  | true => rw [h.closed hover] at hconn; cases hconn

theorem Regular.waiting_eq_nil (h : Regular c) (hroom : c.hasRoom = true) : c.waiting = [] := by
  have hlt := hasRoom_iff.1 hroom
  refine Classical.byContradiction fun hw => ?_
  have := h.full hw
  omega

theorem Regular.send_of_room (h : Regular c) (hm : c.check m = .ok ()) (hroom : c.hasRoom = true) (n : Nat) :
    c.send n m = c.accept n m := by
  simp [send, hm, h.isOver_eq_false hm, h.waiting_eq_nil hroom, hroom]

theorem Regular.trySend_of_room (h : Regular c) (hm : c.check m = .ok ()) (hroom : c.hasRoom = true) (n : Nat) :
    c.trySend n m = c.accept n m := by
  simp [trySend, hm, h.isOver_eq_false hm, hroom]

/-- What is refused is answered, and nothing else happens. -/
theorem Regular.step_of_refuses (hc : Regular c) (he : e.call? = some (n, m)) (h : c.Refuses m e r) :
    c.step e = c.answer n (.error r) := by
  have checked (hr : c.check m = .error r) : c.step e = c.answer n (.error r) := by
    cases e with
    | send | trySend =>
      cases he
      simp only [step, send, trySend, hr]
    | _ => cases he
  cases h with
  | notConnected h => exact checked (by simp [check, h])
  | tooLarge h hm => exact checked (by simp [check, h, hm])
  | full k hm hroom =>
    cases he
    simp [step, trySend, hm, hc.isOver_eq_false hm, hroom]

theorem Regular.move_send (hc : Regular c) (n : Nat) (m : Bytes) : Move c (.send n m) (c.send n m) := by
  cases hm : c.check m with
  | error r =>
    have hr := refuses_of_check hm (.send n m)
    have hs := hc.step_of_refuses rfl hr
    rw [step] at hs
    exact hs ▸ .refused rfl hr
  | ok _ =>
    cases hroom : c.hasRoom with
    | true => exact hc.send_of_room hm hroom n ▸ .taken rfl hm (hc.waiting_eq_nil hroom) hroom
    | false =>
      have hs : c.send n m = { c with waiting := c.waiting ++ [(n, m)] } := by
        simp [send, hm, hc.isOver_eq_false hm, hroom]
      exact hs ▸ .queued n hm hroom

theorem Regular.move_trySend (hc : Regular c) (n : Nat) (m : Bytes) : Move c (.trySend n m) (c.trySend n m) := by
  have refused {r : TransportError} (hr : c.Refuses m (.trySend n m) r) : Move c (.trySend n m) (c.trySend n m) := by
    have hs := hc.step_of_refuses rfl hr
    rw [step] at hs
    exact hs ▸ .refused rfl hr
  cases hm : c.check m with
  | error r => exact refused (refuses_of_check hm _)
  | ok _ =>
    cases hroom : c.hasRoom with
    | true => exact hc.trySend_of_room hm hroom n ▸ .taken rfl hm (hc.waiting_eq_nil hroom) hroom
    | false => exact refused (.full n hm hroom)

theorem writes_of_idle {outgoing : List Bytes} (hi : c.isIdle = true) (ho : c.outgoing = m :: outgoing)
    (failure : Option (Nat × String)) :
    Writes ({ c with outgoing, begun := c.begun ++ [m] } : TcpConnection).resumeCall m failure (c.write failure) := by
  unfold write
  rw [hi, ho]
  rcases failure with _ | ⟨octets, text⟩
  · exact .whole
  · exact .broken octets text

theorem Regular.move_write (hc : Regular c) (failure : Option (Nat × String)) :
    Move c (.write failure) (c.write failure) := by
  by_cases hdue : c.isIdle = true ∧ c.outgoing ≠ []
  · obtain ⟨hi, hne⟩ := hdue
    obtain ⟨m, outgoing, ho⟩ := List.exists_cons_of_ne_nil hne
    have hwrites := writes_of_idle hi ho failure
    rcases hw : c.waiting with _ | ⟨⟨k, next⟩, waiting⟩
    · have hr : ({ c with outgoing, begun := c.begun ++ [m] } : TcpConnection).resumeCall =
          { c with outgoing, begun := c.begun ++ [m] } := by simp only [resumeCall, hw]
      exact .wrote hi ho hw (hr ▸ hwrites)
    · -- The message that is written has left room for one.
      have hlen := hc.bounded
      rw [ho, List.length_cons] at hlen
      have hr : ({ c with outgoing, begun := c.begun ++ [m] } : TcpConnection).resumeCall =
          { c with outgoing, waiting, begun := c.begun ++ [m] }.accept k next := by
        simp only [resumeCall, hw, hasRoom]
        rw [if_pos (decide_eq_true (by omega))]
      exact .resumed hi ho hw (hr ▸ hwrites)
  · have hs : c.write failure = c := by
      unfold write
      split
      · rename_i hi ho
        exact absurd ⟨hi, by rw [ho]; exact List.cons_ne_nil _ _⟩ hdue
      · rfl
    rw [hs]
    exact .kept rfl nofun (.refl c)

theorem move_deliver (c : TcpConnection) : Move c .deliver c.deliver := by
  unfold deliver
  split
  · split
    · exact .finished (.inl rfl) (.refl c)
    · split
      · dsimp only
        split
        · exact .finished (.inl rfl) ⟨rfl, rfl, rfl, rfl, rfl, rfl, rfl, rfl, id⟩
        · exact .kept rfl nofun ⟨rfl, rfl, rfl, rfl, rfl, rfl, rfl, rfl, id⟩
      · exact .kept rfl nofun (.refl c)
  · exact .kept rfl nofun (.refl c)

theorem move_read (c : TcpConnection) (piece : Bytes) : Move c (.read piece) (c.read piece) := by
  refine .kept rfl nofun ?_
  unfold TcpConnection.read
  split
  · have hi := isIdle_iff.1 ‹_›
    exact ⟨rfl, rfl, rfl, rfl, rfl, rfl, rfl, rfl, fun _ => hi.2.1⟩
  · exact .refl c

theorem move_readFailed (c : TcpConnection) (text : String) : Move c (.readFailed text) (c.readFailed text) := by
  refine .kept rfl nofun ?_
  unfold readFailed
  split
  · exact ⟨rfl, rfl, rfl, rfl, rfl, rfl, rfl, rfl, nofun⟩
  · exact .refl c

theorem Regular.move (hc : Regular c) (e : Event) : Move c e (c.step e) := by
  cases e with
  | send n m => exact hc.move_send n m
  | trySend n m => exact hc.move_trySend n m
  | close =>
    rw [step, close]
    split
    · exact .closed
    · exact .kept rfl (fun _ => eq_false_of_ne_true ‹_›) (.refl c)
  | dropSender => exact .kept rfl (by rintro ⟨⟩) ⟨rfl, rfl, rfl, rfl, rfl, rfl, rfl, rfl, id⟩
  | write failure => exact hc.move_write failure
  | read piece => exact move_read c piece
  | readFailed text => exact move_readFailed c text
  | deliver => exact move_deliver c
  | stop =>
    rw [step, stop]
    split
    · exact .finished (.inr rfl) (.refl c)
    · exact .kept rfl (by rintro ⟨⟩) (.refl c)
  | receive =>
    rw [step, receive_eq]
    exact .kept rfl (by rintro ⟨⟩) ⟨rfl, rfl, rfl, rfl, rfl, rfl, rfl, rfl, id⟩
  | dropConsumer => exact .kept rfl (by rintro ⟨⟩) ⟨rfl, rfl, rfl, rfl, rfl, rfl, rfl, rfl, id⟩

/-! ## At any time -/

theorem SameSender.regular (h : SameSender c d) (hc : Regular c) : Regular d := by
  refine ⟨?_, ?_, ?_⟩
  · rw [h.isOver, h.isConnected]
    exact hc.closed
  · rw [h.waiting, h.outgoing, h.config]
    exact hc.full
  · rw [h.outgoing, h.config]
    exact hc.bounded

theorem Writes.regular {failure : Option (Nat × String)} (h : Writes c m failure d) (hc : Regular c) : Regular d := by
  cases h with
  | whole | broken => exact ⟨hc.closed, hc.full, hc.bounded⟩

theorem Regular.of_move (hc : Regular c) (h : Move c e d) : Regular d := by
  cases h with
  | refused => exact ⟨hc.closed, hc.full, hc.bounded⟩
  | @taken _ n m _ _ hw hroom =>
    have hlt := hasRoom_iff.1 hroom
    have hlen : (c.outgoing ++ [m]).length ≤ c.config.channelBufferSize := by simpa using Nat.succ_le_of_lt hlt
    exact ⟨hc.closed, fun h => absurd hw h, hlen⟩
  | queued n hm hroom =>
    have hlt : ¬c.outgoing.length < c.config.channelBufferSize := fun h => by simp [hasRoom_iff.2 h] at hroom
    have hle := hc.bounded
    exact ⟨hc.closed, fun _ => Nat.le_antisymm hle (Nat.le_of_not_lt hlt), hle⟩
  | closed => exact ⟨fun _ => rfl, hc.full, hc.bounded⟩
  | wrote hi ho hw hwrites =>
    refine hwrites.regular ⟨hc.closed, fun h => absurd hw h, ?_⟩
    have hle := hc.bounded
    rw [ho, List.length_cons] at hle
    exact Nat.le_of_succ_le hle
  | @resumed _ _ next _ outgoing _ _ hi ho hw hwrites =>
    have hfull := hc.full (by simp [hw])
    rw [ho, List.length_cons] at hfull
    have hlen : (outgoing ++ [next]).length = c.config.channelBufferSize := by simpa using hfull
    exact hwrites.regular ⟨hc.closed, fun _ => hlen, Nat.le_of_eq hlen⟩
  | finished he h =>
    have hd := h.regular hc
    exact ⟨fun _ => rfl, fun h => absurd rfl h, hd.bounded⟩
  | kept he hclose h => exact h.regular hc

/-! ## Answers -/

/-- What a step reports: that a call is refused, that messages were taken, or that the loop is over. -/
inductive Reported (c : TcpConnection) (e : Event) : List (Nat × Except TransportError Unit) → Prop where
  | refused {n : Nat} {m : Bytes} {r : TransportError} (he : e.call? = some (n, m)) (h : c.Refuses m e r) :
    Reported c e [(n, .error r)]
  | taken (numbers : List Nat) : Reported c e (numbers.map (·, .ok ()))
  | lost (he : e.call? = none) (numbers : List Nat) : Reported c e (numbers.map (·, .error channelClosed))

theorem Move.reported (h : Move c e d) : ∃ new, d.outcomes = c.outcomes ++ new ∧ Reported c e new := by
  cases h with
  | refused he h => exact ⟨_, rfl, .refused he h⟩
  | @taken _ n => exact ⟨_, rfl, .taken [n]⟩
  | queued | closed => exact ⟨[], (List.append_nil _).symm, .taken []⟩
  | wrote hi ho hw h => cases h <;> exact ⟨[], (List.append_nil _).symm, .taken []⟩
  | @resumed _ _ _ n _ _ _ hi ho hw h => cases h <;> exact ⟨_, rfl, .taken [n]⟩
  | @finished e d he h =>
    refine ⟨(d.waiting.map (·.1)).map (·, .error channelClosed), ?_, .lost ?_ _⟩
    · rw [← h.outcomes, List.map_map]
      rfl
    · rcases he with rfl | rfl <;> rfl
  | kept he hclose h => exact ⟨[], by rw [h.outcomes, List.append_nil], .taken []⟩

theorem Regular.reported (hc : Regular c) (e : Event) : Reported c e (c.reports e) := by
  obtain ⟨new, ho, h⟩ := (hc.move e).reported
  rwa [reports, ho, List.drop_left]

/-- An error is reported for a call that is refused, or because the loop is over. -/
theorem Regular.refused_or_lost (hc : Regular c) (h : (n, .error r) ∈ c.reports e) :
    (∃ m, e.call? = some (n, m) ∧ c.Refuses m e r) ∨ e.call? = none ∧ r = channelClosed := by
  have hreported := hc.reported e
  generalize c.reports e = new at h hreported
  cases hreported with
  | refused he hr =>
    cases List.mem_singleton.1 h
    exact .inl ⟨_, he, hr⟩
  | taken numbers =>
    obtain ⟨k, -, hk⟩ := List.mem_map.1 h
    cases hk
  | lost he numbers =>
    obtain ⟨k, -, hk⟩ := List.mem_map.1 h
    cases hk
    exact .inr ⟨he, rfl⟩

theorem Regular.reports_of_refuses (hc : Regular c) (he : e.call? = some (n, m)) (h : c.Refuses m e r) :
    c.reports e = [(n, .error r)] := by
  rw [reports, hc.step_of_refuses he h, answer, List.drop_left]

theorem Regular.mem_reports_iff (hc : Regular c) (hr : r ≠ channelClosed) :
    (n, .error r) ∈ c.reports e ↔ ∃ m, e.call? = some (n, m) ∧ c.Refuses m e r := by
  constructor
  · intro h
    rcases hc.refused_or_lost h with h | h
    · exact h
    · exact absurd h.2 hr
  · rintro ⟨m, he, h⟩
    rw [hc.reports_of_refuses he h]
    exact List.mem_singleton_self _

end TcpConnection
end DeskStream

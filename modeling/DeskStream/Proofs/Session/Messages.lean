import DeskStream.Proofs.Session.SendFailures
/-!
# What becomes of messages

A message does not open, is no packet, or is a packet (`Reading`), and whichever it is decides what is counted and
what is passed on. None ends the receive loop or takes the link away, and the state changes at most from connected
to streaming (`Handled`). Control and auth packets are passed on in the order in which they arrive, and nothing else
is (`messages_handled`).
-/

namespace DeskStream.Session

open Wire

variable {s : Session} {l : Link}

/-! ## What a message is -/

/-- What a message turns out to be. -/
inductive Reading where
  /-- It does not open. -/
  | closed
  /-- It opens, and is no packet. -/
  | garbled
  | packet (p : Packet)

def reading (s : Session) (message : Bytes) : Reading :=
  match s.plaintext message with
  | .error _ => .closed
  | .ok plain =>
    match Packet.decode plain with
    | .error _ => .garbled
    | .ok p => .packet p

/-- A packet of video or audio. -/
def isMedia (p : Packet) : Bool := p.kind = .video ∨ p.kind = .audio

/-- The five octets of a media header are there. -/
def hasHeader (p : Packet) : Bool := 5 ≤ p.payload.length

namespace Reading

def packet? : Reading → Option Packet
  | packet p => some p
  | _ => none

/-- Media that came with its header. -/
def isWholeMedia : Reading → Bool
  | packet p => isMedia p && hasHeader p
  | _ => false

end Reading

/-- How many messages were received as what. -/
structure Receipts where
  cryptoDrops : Nat
  protocolDrops : Nat
  received : Nat
  controlPackets : Nat
  deriving DecidableEq

def Receipts.add (a b : Receipts) : Receipts :=
  ⟨a.cryptoDrops + b.cryptoDrops, a.protocolDrops + b.protocolDrops, a.received + b.received,
    a.controlPackets + b.controlPackets⟩

def receipts (s : Session) : Receipts :=
  ⟨s.stats.cryptoDrops, s.stats.protocolDrops, s.metrics.sample.received, s.stats.controlPackets⟩

/-- A message is counted once; media without its header is a packet that is dropped besides. -/
def Reading.receipts : Reading → Receipts
  | closed => ⟨1, 0, 0, 0⟩
  | garbled => ⟨0, 1, 0, 0⟩
  | packet p => ⟨0, (isMedia p && !hasHeader p).toNat, 1, (isControl p).toNat⟩

/-- The activity that a message begins: the answer to a keep-alive. -/
def Reading.echo? : Reading → Option Task
  | packet p => if p.kind = .keepAlive then some (.send .echo .keepAlive p.payload) else none
  | _ => none

/-! ## One message -/

theorem receive_eq (s : Session) (m : Moment) (g : Nat) (message : Bytes) :
    s.receive m g message =
      match s.reading message with
      | .closed => s.dropCrypto
      | .garbled => s.dropProtocol
      | .packet p => s.packet m g p := by
  unfold receive reading
  cases s.plaintext message with
  | error why => rfl
  | ok plain =>
    simp only
    cases Packet.decode plain <;> rfl

theorem received_record (ms : LinkMetrics) (p : Packet) (now : UInt64) (instant : Nat) :
    (ms.record p now instant).sample.received = ms.sample.received + 1 := by
  have hroll : (ms.roll instant).sample.received = ms.sample.received := by
    unfold LinkMetrics.roll
    split <;> rfl
  have htrack (ms : LinkMetrics) : (ms.trackSequence p.sequence).sample.received = ms.sample.received := by
    unfold LinkMetrics.trackSequence
    split
    · rfl
    · simp only
      split <;> rfl
  exact (htrack _).trans (congrArg (· + 1) hroll)

/-- Media with its header may be refused or fail to decode, but its header is read. -/
theorem submit_of_header {p : Packet} (hm : isMedia p) (hh : hasHeader p) (pipeline : Pipeline) (why : WireError) :
    (pipeline.submit p).2 ≠ .error (.invalidPayload why) := by
  have hl : 5 ≤ p.payload.length := of_decide_eq_true hh
  rcases of_decide_eq_true hm with hk | hk
  · obtain ⟨unit, hu⟩ := (VideoUnit.decode_isOk p.payload).2 hl
    simp only [Pipeline.submit, hk, VideoPath.submit, hu]
    split <;> simp
  · obtain ⟨unit, hu⟩ := (AudioUnit.decode_isOk p.payload).2 hl
    simp only [Pipeline.submit, hk, AudioPath.submit, hu]
    cases hd : pipeline.audio.format.decode unit with
    | ok samples => simp
    | error e =>
      -- The codec objects to channels and lengths only.
      unfold PcmFormat.decode at hd
      split at hd
      · cases hd
        simp
      · split at hd <;> cases hd
        simp

theorem submit_of_truncated {p : Packet} (hm : isMedia p) (hh : hasHeader p = false) (pipeline : Pipeline) :
    ∃ why, (pipeline.submit p).2 = .error (.invalidPayload why) := by
  have hl : ¬ 5 ≤ p.payload.length := of_decide_eq_false hh
  rcases of_decide_eq_true hm with hk | hk
  · cases hu : VideoUnit.decode p.payload with
    | ok unit => exact absurd ((VideoUnit.decode_isOk _).1 ⟨unit, hu⟩) hl
    | error why => exact ⟨why, by simp only [Pipeline.submit, hk, VideoPath.submit, hu]⟩
  · cases hu : AudioUnit.decode p.payload with
    | ok unit => exact absurd ((AudioUnit.decode_isOk _).1 ⟨unit, hu⟩) hl
    | error why => exact ⟨why, by simp only [Pipeline.submit, hk, AudioPath.submit, hu]⟩

theorem media_of_header {p : Packet} (hm : isMedia p) (hh : hasHeader p) (s : Session) (g : Nat) :
    s.media g p =
      transition { s with pipeline := (s.pipeline.submit p).1 } g (· = .connected) .streaming := by
  unfold media
  simp only
  split
  · rename_i why he
    exact absurd he (submit_of_header hm hh _ why)
  · rfl

theorem media_of_truncated {p : Packet} (hm : isMedia p) (hh : hasHeader p = false) (s : Session) (g : Nat) :
    s.media g p = { s with pipeline := (s.pipeline.submit p).1 }.dropProtocol := by
  obtain ⟨why, he⟩ := submit_of_truncated hm hh s.pipeline
  simp only [media, he]

/-- What the handling of a message comes to, by what the message turned out to be. -/
structure Handled (s s' : Session) (r : Reading) : Prop where
  link : s'.link = s.link
  generation : s'.generation = s.generation
  /-- Activities go on, the receive loop among them, and an answer may begin. -/
  tasks : s'.tasks = s.tasks ++ r.echo?.toList.map fun task => (s.spawned, task)
  state : s'.state = if s.state = .connected ∧ r.isWholeMedia then .streaming else s.state
  receipts : s'.receipts = s.receipts.add r.receipts
  control : s'.control = s.control ++ r.packet?.toList.filter isControl

theorem receipts_transition (s : Session) (g : Nat) (allowed : ConnectionState → Bool) (next : ConnectionState) :
    (s.transition g allowed next).receipts = s.receipts := by
  unfold transition
  split <;> rfl

/-- Activities, state and counts after a packet. -/
theorem packet_handled (hg : s.generation = l.generation) (m : Moment) (p : Packet) :
    let s' := s.packet m l.generation p
    let r := Reading.packet p
    s'.tasks = s.tasks ++ r.echo?.toList.map (fun task => (s.spawned, task)) ∧
      s'.state = (if s.state = .connected ∧ r.isWholeMedia then .streaming else s.state) ∧
      s'.receipts = s.receipts.add r.receipts := by
  intro s' r
  let s₁ : Session := { s with metrics := s.metrics.record p m.wall m.mono }
  have counted : s₁.receipts = { s.receipts with received := s.receipts.received + 1 } := by
    simp [receipts, s₁, received_record]
  cases hk : p.kind with
  | video | audio =>
    have hm : isMedia p := by simp [isMedia, hk]
    have he : r.echo? = none := by simp [r, Reading.echo?, hk]
    have hp : s' = s₁.media l.generation p := by simp only [s', packet, hk, s₁]
    rw [hp, he]
    cases hh : hasHeader p with
    | true =>
      rw [media_of_header hm hh]
      refine ⟨by simp [s₁], by simp [r, Reading.isWholeMedia, hm, hh, s₁, hg], ?_⟩
      rw [receipts_transition]
      refine Eq.trans counted ?_
      simp [r, Receipts.add, Reading.receipts, hh, isControl, hk]
    | false =>
      rw [media_of_truncated hm hh]
      refine ⟨by simp [s₁, dropProtocol], by simp [r, Reading.isWholeMedia, hh, s₁, dropProtocol], ?_⟩
      have hd : (dropProtocol { s₁ with pipeline := (s₁.pipeline.submit p).1 }).receipts =
          { s₁.receipts with protocolDrops := s₁.receipts.protocolDrops + 1 } := rfl
      rw [hd, counted]
      simp [r, Receipts.add, Reading.receipts, hm, hh, isControl, hk]
  | keepAlive =>
    have hp : s' = s₁.spawn (.send .echo .keepAlive p.payload) := by simp only [s', packet, hk, s₁]
    rw [hp]
    refine ⟨by simp [r, Reading.echo?, hk, s₁, spawn], by simp [r, Reading.isWholeMedia, isMedia, hk, s₁, spawn], ?_⟩
    refine Eq.trans counted ?_
    simp [r, Receipts.add, Reading.receipts, isMedia, isControl, hk]
  | control | auth =>
    have hp : s' = { s₁ with
        stats := { s₁.stats with controlPackets := s₁.stats.controlPackets + 1 }
        control := s₁.control ++ [p] } := by simp only [s', packet, hk, s₁]
    have hd : s'.receipts = { s₁.receipts with controlPackets := s₁.receipts.controlPackets + 1 } :=
      congrArg receipts hp
    refine ⟨by simp [hp, r, Reading.echo?, hk, s₁], by simp [hp, r, Reading.isWholeMedia, isMedia, hk, s₁], ?_⟩
    rw [hd, counted]
    simp [r, Receipts.add, Reading.receipts, isMedia, isControl, hk]
  | input =>
    have hp : s' = s₁ := by simp only [s', packet, hk, s₁]
    rw [hp]
    refine ⟨by simp [r, Reading.echo?, hk, s₁], by simp [r, Reading.isWholeMedia, isMedia, hk, s₁], ?_⟩
    rw [counted]
    simp [r, Receipts.add, Reading.receipts, isMedia, isControl, hk]

theorem handled_receive (hi : Inv s) (hl : s.link = some l) (m : Moment) (message : Bytes) :
    Handled s (s.receive m l.generation message) (s.reading message) := by
  have hlink : (s.receive m l.generation message).link = s.link := congrArg Standing.link (standing_receive ..)
  have hgen : (s.receive m l.generation message).generation = s.generation := generation_receive ..
  rw [receive_eq] at hlink hgen ⊢
  cases hr : s.reading message with
  | closed =>
    rw [hr] at hlink hgen
    refine ⟨hlink, hgen, ?_, ?_, ?_, ?_⟩ <;> simp [dropCrypto, Reading.echo?, Reading.isWholeMedia, Reading.packet?]
    rfl
  | garbled =>
    rw [hr] at hlink hgen
    refine ⟨hlink, hgen, ?_, ?_, ?_, ?_⟩ <;> simp [dropProtocol, Reading.echo?, Reading.isWholeMedia, Reading.packet?]
    rfl
  | packet p =>
    rw [hr] at hlink hgen
    obtain ⟨htasks, hstate, hreceipts⟩ := packet_handled (hi.linked l hl).1.symm m p
    exact ⟨hlink, hgen, htasks, hstate, hreceipts, congrArg Holdings.control (holdings_packet ..)⟩

/-! ## Packets passed on -/

/-- The packet that arrives in a step, if the receive loop is given a message that is one. -/
def arrival? (s : Session) : Event → Option Packet
  | .receive t message =>
    match s.task? t with
    | some (.listen _ false) => (s.reading message).packet?
    | _ => none
  | _ => none

theorem arrival?_idle (h : ¬ ∃ l, s.task? t = some (.listen l false)) (message : Bytes) :
    s.arrival? (.receive t message) = none := by
  simp only [arrival?]
  split
  · exact absurd ⟨_, ‹_›⟩ h
  · rfl

/-- The packets that arrive in a run, in order. -/
def arrivals (s : Session) : List (Moment × Event) → List Packet
  | [] => []
  | (m, e) :: events => (s.arrival? e).toList ++ (s.step m e).arrivals events

theorem control_receive (s : Session) (m : Moment) (g : Nat) (message : Bytes) :
    (s.receive m g message).control = s.control ++ (s.reading message).packet?.toList.filter isControl := by
  rw [receive_eq]
  cases s.reading message with
  | closed | garbled => exact (List.append_nil _).symm
  | packet p => exact congrArg Holdings.control (holdings_packet s m g p)

/-- Only a message adds to what is passed on. -/
theorem control_of_other (s : Session) (m : Moment) {e : Event} (he : ∀ t message, e ≠ .receive t message) :
    (s.step m e).control = s.control := by
  have same {s₁ : Session} (h : s₁.holdings = s.holdings) : s₁.control = s.control := congrArg Holdings.control h
  have hm := move_step s m e
  generalize s.step m e = s' at hm ⊢
  cases hm with
  | connect => exact same (holdings_connect ..)
  | disconnect t call =>
    have hd := congrArg Holdings.control (holdings_disconnect s t call)
    split at hd <;> exact hd
  | joined => exact congrArg Holdings.control (holdings_release s)
  | beginSend => exact same (holdings_beginSend ..)
  | beginWrite => exact same (holdings_beginWrite ..)
  | dialDone => exact same (holdings_dialDone ..)
  | intervalOver => exact same (holdings_intervalOver ..)
  | writeDone t origin l sequence message result =>
    have hw := congrArg Holdings.control (holdings_writeDone s t origin l sequence message result)
    cases result <;> exact hw
  | receive t l message => exact absurd rfl (he t message)
  | linkEnded => exact same (holdings_lose ..)
  | letGo => exact same (holdings_letGo s)
  | rest | call | close | unlisten | tick | work | pop | setVolume | authenticate | logout | free => rfl

theorem control_step (s : Session) (m : Moment) (e : Event) :
    (s.step m e).control = s.control ++ (s.arrival? e).toList.filter isControl := by
  by_cases he : ∃ t message, e = .receive t message
  · obtain ⟨t, message, rfl⟩ := he
    by_cases hl : ∃ l, s.task? t = some (.listen l false)
    · obtain ⟨l, h⟩ := hl
      simp only [step, arrival?, h]
      exact control_receive ..
    · rw [step_receive_idle hl, arrival?_idle hl]
      exact (List.append_nil _).symm
  · push Not at he
    have hn : s.arrival? e = none := by
      cases e <;> first | rfl | exact absurd rfl (he _ _)
    rw [control_of_other s m he, hn]
    exact (List.append_nil _).symm

theorem control_run (s : Session) (events : List (Moment × Event)) :
    (s.run events).control = s.control ++ (s.arrivals events).filter isControl := by
  induction events generalizing s with
  | nil => exact (List.append_nil _).symm
  | cons x events ih =>
    obtain ⟨m, e⟩ := x
    rw [arrivals, List.filter_append, ← List.append_assoc, ← control_step s m e]
    exact ih (s.step m e)

/-! ## Every run -/

/-- No message is fatal, whatever it is: with a link installed, the receive loop of that link hands over messages,
each one is counted as what it is, the link stays, the loop goes on, and the state changes at most from connected to
streaming, exactly at a whole media packet. What was passed on are the control and auth packets that arrived, in
order. -/
theorem messages_handled (config : SessionConfig) (ring : KeyRing) (format : PcmFormat)
    (events : List (Moment × Event)) :
    let start := ofConfig config ring format
    let s := start.run events
    (∀ l, s.link = some l → ∀ m message, Handled s (s.receive m l.generation message) (s.reading message)) ∧
      (∀ t l, s.task? t = some (.listen l false) →
        s.link = some l ∧ ∀ m message, s.step m (.receive t message) = s.receive m l.generation message) ∧
      s.control = (start.arrivals events).filter isControl := by
  intro start s
  have hi : Inv s := inv_run (bare_ofConfig config ring format).inv events
  refine ⟨fun l hl m message => handled_receive hi hl m message, ?_, control_run start events⟩
  intro t l ht
  refine ⟨hi.heard t l (task?_mem ht), ?_⟩
  intro m message
  simp only [step, ht]

/-- A message that is no packet, a picture cut short, and a control packet. -/
def oddities : List (Moment × Event) :=
  atOnce [.callConnect 0 (.manual "desk" "desk.local" 9000), .run 0, .dialDone 0 (.ok ()),
    .receive 1 [1, 2, 3], .receive 1 (Packet.encode ⟨.video, 5, 1, [1, 0]⟩),
    .receive 1 (Packet.encode ⟨.control, 6, 2, [7]⟩)]

/-- Each is counted for what it is, and sound that no codec takes makes the session streaming. -/
theorem messages_handled_oddities :
    let s := plain.run oddities
    let sound := Packet.encode ⟨.audio, 7, 3, [0, 0, 0, 1, 0]⟩
    s.state = .connected ∧ s.receipts = ⟨0, 2, 2, 1⟩ ∧ s.control = [⟨.control, 6, 2, [7]⟩] ∧
      (s.step still (.receive 1 sound)).state = .streaming ∧
      Handled s (s.step still (.receive 1 sound)) (s.reading sound) := by
  intro s sound
  obtain ⟨handled, loops, passed⟩ :=
    messages_handled { encrypt := false, sendAuthToken := false } ⟨none, none⟩ .s16le oddities
  obtain ⟨hlink, hstep⟩ := loops 1 ⟨0, 1⟩ (by decide +kernel)
  have hs := handled _ hlink still sound
  rw [← hstep] at hs
  refine ⟨by decide +kernel, by decide +kernel, ?_, ?_, hs⟩
  · exact passed.trans (by decide +kernel)
  · exact hs.state.trans (by decide +kernel)

end DeskStream.Session

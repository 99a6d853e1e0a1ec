import DeskStream.Proofs.Session.Holdings
import DeskStream.Proofs.Video.History
/-!
# The video path of a session

A step does to the video path what `videoOps` says, and nothing else (`step_video`), so that a run of
the session is a run of the path. A disconnected session gives the path no frames, and found it reset
(`resting_run`).
-/

namespace DeskStream.Session

open Wire

variable {s : Session} {t : Nat}

/-- The packet of a message, if it opens and is one. -/
def opened? (s : Session) (message : Bytes) : Option Packet :=
  match s.plaintext message with
  | .error _ => none
  | .ok plain => (Packet.decode plain).toOption

/-- What a packet does to the video path. -/
def packetOps (p : Packet) : List VideoPath.Op :=
  if p.kind = .video then [.submit p.payload p.timestamp] else []

/-- What going on does to the video path: a disconnect that ends resets it. -/
def resumeOps (s : Session) : Task → List VideoPath.Op
  | .disconnect _ => if s.isLeaving = false ∧ s.link = none ∧ s.state ≠ .disconnected then [.reset] else []
  | .join _ link => if s.isListening link then [] else [.reset]
  | _ => []

/-- What a step does to the video path. -/
def videoOps (s : Session) : Event → List VideoPath.Op
  | .run t => ((s.task? t).map s.resumeOps).getD []
  | .receive t message =>
    match s.task? t with
    | some (.listen _ false) => ((s.opened? message).map packetOps).getD []
    | _ => []
  | .work action => [.work action]
  | .pop => [.pop]
  | .free => [.reset]
  | _ => []

/-- What a run does to the video path. -/
def videoTrace (s : Session) : List (Moment × Event) → List VideoPath.Op
  | [] => []
  | x :: events => s.videoOps x.2 ++ (s.step x.1 x.2).videoTrace events

/-- What becomes of video frames in a run. -/
def videoLog (s : Session) (events : List (Moment × Event)) : VideoPath.Log :=
  s.pipeline.video.log (s.videoTrace events)

theorem submit_video (p : Pipeline) (packet : Packet) :
    (p.submit packet).1.video = p.video.play (packetOps packet) := by
  unfold Pipeline.submit packetOps
  cases packet.kind <;> rfl

theorem video_eq {s s' : Session} (h : s'.holdings = s.holdings) : s'.pipeline.video = s.pipeline.video :=
  congrArg (·.pipeline.video) h

theorem resume_video (s : Session) (m : Moment) (t : Nat) (task : Task) :
    (s.resume m t task).pipeline.video = s.pipeline.video.play (s.resumeOps task) := by
  cases task with
  | connect =>
    simp only [resume]
    split
    · rfl
    · exact video_eq (holdings_connect ..)
  | disconnect call =>
    simp only [resume, resumeOps]
    have hd := congrArg (·.pipeline.video) (holdings_disconnect s t call)
    change (s.disconnect t call).pipeline.video = _ at hd
    by_cases hj : s.isLeaving
    · rw [if_pos hj, if_neg (by simp [hj])]; rfl
    · rw [if_neg hj, hd]
      by_cases h : s.link = none ∧ s.state ≠ .disconnected
      · rw [if_pos h, if_pos ⟨by simpa using hj, h⟩]; rfl
      · rw [if_neg h, if_neg fun hc => h hc.2]; rfl
  | join call link =>
    simp only [resume, resumeOps]
    split
    · rfl
    · exact congrArg (·.pipeline.video) (holdings_release s)
  | send => exact video_eq (holdings_beginSend ..)
  | queued =>
    simp only [resume]
    split
    · rfl
    · exact video_eq (holdings_beginWrite ..)
  | listen =>
    simp only [resume]
    split <;> rfl
  | close | dial | write | timer => rfl

theorem receive_video (s : Session) (m : Moment) (g : Nat) (message : Bytes) :
    (s.receive m g message).pipeline.video = s.pipeline.video.play (((s.opened? message).map packetOps).getD []) := by
  unfold receive opened?
  cases s.plaintext message with
  | error e => rfl
  | ok plain =>
    simp only
    cases Packet.decode plain with
    | error e => rfl
    | ok p => exact (congrArg (·.pipeline.video) (holdings_packet s m g p)).trans (submit_video ..)

/-- A step does to the video path what is said of it. -/
theorem step_video (s : Session) (m : Moment) (e : Event) :
    (s.step m e).pipeline.video = s.pipeline.video.play (s.videoOps e) := by
  cases e with
  | run t =>
    simp only [step, videoOps]
    cases s.task? t with
    | none => rfl
    | some task => exact resume_video s m t task
  | dialDone t result =>
    simp only [step]
    split
    · exact video_eq (holdings_dialDone ..)
    · rfl
  | intervalOver t =>
    simp only [step]
    split
    · exact video_eq (holdings_intervalOver ..)
    · rfl
  | writeDone t result =>
    simp only [step]
    split
    · rename_i origin l sequence message _
      have hw := congrArg (·.pipeline.video) (holdings_writeDone s t origin l sequence message result)
      cases result <;> exact hw
    · rfl
  | receive t message =>
    simp only [step, videoOps]
    cases s.task? t with
    | none => rfl
    | some task =>
      cases task with
      | listen l cancelled =>
        cases cancelled with
        | false => exact receive_video ..
        | true => rfl
      | _ => rfl
  | linkEnded t reason =>
    simp only [step]
    split
    · exact video_eq (holdings_lose ..)
    · rfl
  | letGo => exact video_eq (holdings_letGo s)
  | callConnect | callDisconnect | callSend | tick | work | pop | setVolume | authenticate | logout | free => rfl

theorem run_video (s : Session) (events : List (Moment × Event)) :
    (s.run events).pipeline.video = s.pipeline.video.play (s.videoTrace events) := by
  induction events generalizing s with
  | nil => rfl
  | cons x events ih =>
    rw [videoTrace, VideoPath.play_append, ← step_video s x.1 x.2]
    exact ih (s.step x.1 x.2)

theorem balanced_run (h : s.pipeline.video.Balanced) (events : List (Moment × Event)) :
    (s.run events).pipeline.video.Balanced := by
  rw [run_video]
  exact VideoPath.balanced_play h _

/-! ## A disconnected session's path is at rest -/

/-- Only the receive loop of the installed link gives frames to the path. -/
theorem submit_mem_videoOps (hi : Inv s) {e : Event} {payload : Bytes} {timestamp : UInt64}
    (h : .submit payload timestamp ∈ s.videoOps e) : s.link.isSome := by
  cases e with
  | receive t message =>
    simp only [videoOps] at h
    split at h
    · rw [hi.heard _ _ (task?_mem ‹_›)]; rfl
    · simp at h
  | run t =>
    cases ht : s.task? t with
    | none => simp [videoOps, ht] at h
    | some task =>
      simp only [videoOps, ht, Option.map_some, Option.getD_some] at h
      cases task with
      | disconnect | join =>
        simp only [resumeOps] at h
        split at h <;> simp at h
      | _ => simp [resumeOps] at h
  | _ => simp [videoOps] at h

theorem transition_ne (hs : s.state ≠ .disconnected) (g : Nat) (allowed : ConnectionState → Bool)
    {n : ConnectionState} (hn : n ≠ .disconnected) : (s.transition g allowed n).state ≠ .disconnected := by
  rw [transition_state]
  split
  · exact hn
  · exact hs

theorem dial_ne (hs : s.state ≠ .disconnected) (t : Nat) (call : Option Nat) (g : Nat) (peer : Peer) :
    (s.dial t call g peer).state ≠ .disconnected := by
  rcases dial_core s t call g peer with hc | hc
  · rw [show (s.dial t call g peer).state = _ from congrArg Core.state hc]
    exact hs
  · rw [show (s.dial t call g peer).state = _ from congrArg Core.state hc]
    exact transition_ne hs _ _ (by simp)

theorem connect_ne (hs : s.state ≠ .disconnected) (t call : Nat) (peer : Peer) :
    (s.connect t call peer).state ≠ .disconnected := by
  unfold connect
  split
  · apply dial_ne
    cases s.link <;> exact transition_ne hs _ _ (by simp)
  · exact hs

theorem install_state (s : Session) (t : Nat) (call : Option Nat) (l : Link) :
    (s.install t call l).state =
      if s.generation = l.generation ∧ s.state.isAttempting then .connected else s.state := by
  have h : (s.install t call l).state = (({ s with link := some l }.spawn (.listen l false)).transition
      l.generation (·.isAttempting) .connected).state := by
    unfold install
    simp only
    split
    · rfl
    · cases call <;> rfl
  rw [h, transition_state]
  rfl

theorem dialDone_ne (hs : s.state ≠ .disconnected) (t : Nat) (call : Option Nat) (g : Nat)
    (result : Except TransportError Unit) : (s.dialDone t call g result).state ≠ .disconnected := by
  unfold dialDone
  cases result with
  | error e =>
    have := transition_ne hs g (·.isAttempting) (n := .error e.message) (by simp)
    cases call <;> exact this
  | ok _ =>
    simp only
    split
    · rw [install_state]
      split
      · simp
      · exact hs
    · cases call <;> exact hs

theorem lose_ne (hs : s.state ≠ .disconnected) (g : Nat) (reason : String) (loss : Loss) :
    (s.lose g reason loss).state ≠ .disconnected := by
  unfold lose
  split
  · exact hs
  · simp only
    split
    · cases loss <;> simp only <;> split
      all_goals
        repeat refine transition_ne ?_ _ _ (by simp)
        exact hs
    · exact hs

theorem intervalOver_ne (hs : s.state ≠ .disconnected) (t g : Nat) :
    (s.intervalOver t g).state ≠ .disconnected := by
  unfold intervalOver
  split
  · split
    · exact hs
    · exact dial_ne (by exact hs) _ _ _ _
  · exact hs

theorem concludeSend_ne (hs : s.state ≠ .disconnected) (t : Nat) (origin : Origin) (r : Except ClientError UInt32) :
    (s.concludeSend t origin r).state ≠ .disconnected := by
  rw [show (s.concludeSend t origin r).state = s.state from congrArg Core.state (concludeSend_core ..)]
  exact hs

theorem writeDone_ne (hs : s.state ≠ .disconnected) (t : Nat) (origin : Origin) (link : Link) (sequence : UInt32)
    (message : Bytes) (result : Except TransportError Unit) :
    (s.writeDone t origin link sequence message result).state ≠ .disconnected := by
  unfold writeDone
  cases result with
  | ok _ => exact concludeSend_ne (by exact hs) _ _ _
  | error e =>
    simp only
    split
    · apply concludeSend_ne
      unfold countFailure
      simp only
      split
      · exact lose_ne (by exact hs) _ _ _
      · exact hs
    · exact concludeSend_ne (by exact hs) _ _ _

theorem media_ne (hs : s.state ≠ .disconnected) (g : Nat) (p : Packet) : (s.media g p).state ≠ .disconnected := by
  unfold media
  simp only
  split
  · exact hs
  · exact transition_ne (by exact hs) _ _ (by simp)

theorem receive_ne (hs : s.state ≠ .disconnected) (m : Moment) (g : Nat) (message : Bytes) :
    (s.receive m g message).state ≠ .disconnected := by
  unfold receive
  split
  · exact hs
  · split
    · exact hs
    · rename_i p _
      unfold packet
      cases p.kind with
      | video | audio => exact media_ne (s := { s with metrics := s.metrics.record p m.wall m.mono }) hs g p
      | keepAlive | control | auth | input => exact hs

theorem beginSend_ne (hs : s.state ≠ .disconnected) (t : Nat) (origin : Origin) (kind : PacketKind)
    (payload : Bytes) : (s.beginSend t origin kind payload).state ≠ .disconnected := by
  unfold beginSend
  split
  · exact hs
  · exact concludeSend_ne hs _ _ _

theorem beginWrite_ne (hs : s.state ≠ .disconnected) (m : Moment) (t : Nat) (origin : Origin) (kind : PacketKind)
    (payload : Bytes) : (s.beginWrite m t origin kind payload).state ≠ .disconnected := by
  unfold beginWrite
  split
  · exact concludeSend_ne hs _ _ _
  · simp only
    split
    · exact concludeSend_ne (by exact hs) _ _ _
    · exact hs

theorem letGo_state (s : Session) : s.letGo.state = s.state := by
  unfold letGo
  split <;> rfl

/-- A session is disconnected by what resets its path, and by nothing else. -/
theorem videoOps_of_disconnected (hs : s.state ≠ .disconnected) (m : Moment) {e : Event}
    (h : (s.step m e).state = .disconnected) : s.videoOps e = [.reset] := by
  have hm := move_step s m e
  generalize s.step m e = s' at hm h
  cases hm with
  | disconnect t call ht hj =>
    rcases disconnect_cases s t call with ⟨l, hl, he⟩ | ⟨hl, hs', -⟩ | ⟨hl, -, -⟩
    · -- With a link the session is not disconnected before its receive loop has ended.
      rw [he] at h
      exact absurd ((letGo_state s).symm.trans h) hs
    · exact absurd hs' hs
    · simp [videoOps, ht, resumeOps, hj, hl, hs]
  | joined t call link ht he => simp [videoOps, ht, resumeOps, he]
  | connect => exact absurd h (connect_ne hs _ _ _)
  | beginSend => exact absurd h (beginSend_ne hs _ _ _ _)
  | beginWrite => exact absurd h (beginWrite_ne hs _ _ _ _ _)
  | dialDone => exact absurd h (dialDone_ne hs _ _ _ _)
  | intervalOver => exact absurd h (intervalOver_ne hs _ _)
  | writeDone => exact absurd h (writeDone_ne hs _ _ _ _ _ _)
  | receive => exact absurd h (receive_ne hs _ _ _)
  | linkEnded t l => exact absurd h (lose_ne (s := s.erase t) hs _ _ _)
  | letGo => exact absurd ((letGo_state s).symm.trans h) hs
  | rest | call | close | unlisten | tick | work | pop | setVolume | authenticate | logout | free =>
    exact absurd h hs

theorem Inv.link_of_disconnected (hi : Inv s) (hs : s.state = .disconnected) : s.link = none :=
  (hi.idle (by rw [hs]; rfl)).1

theorem resting_step (hi : Inv s) (hr : s.state = .disconnected → s.pipeline.video.Resting) (m : Moment) (e : Event)
    (h : (s.step m e).state = .disconnected) : (s.step m e).pipeline.video.Resting := by
  rw [step_video]
  by_cases hs : s.state = .disconnected
  · -- A frame could only come over a link, and there is none.
    apply (hr hs).play
    intro payload timestamp hm
    have := submit_mem_videoOps hi hm
    simp [hi.link_of_disconnected hs] at this
  · rw [videoOps_of_disconnected hs m h]
    exact VideoPath.reset_resting _

/-- Once disconnected, and from the start, the path is at rest. -/
theorem resting_run (hi : Inv s) (hr : s.state = .disconnected → s.pipeline.video.Resting)
    (events : List (Moment × Event)) (h : (s.run events).state = .disconnected) :
    (s.run events).pipeline.video.Resting := by
  have keeps : Inv (s.run events) ∧
      ((s.run events).state = .disconnected → (s.run events).pipeline.video.Resting) := by
    refine run_keeps (P := fun s => Inv s ∧ (s.state = .disconnected → s.pipeline.video.Resting))
      (A := fun _ => True) ?_ (fun _ _ => trivial) ⟨hi, hr⟩
    intro s m e _ h
    exact ⟨inv_step h.1 m e, resting_step h.1 h.2 m e⟩
  exact keeps.2 h

theorem resting_ofConfig (config : SessionConfig) (ring : KeyRing) (format : PcmFormat) :
    (ofConfig config ring format).pipeline.video.Resting := ⟨rfl, rfl, rfl⟩

/-! ## A picture -/

/-- A picture is received over a link, decoded and presented. -/
def picture (listener : Nat) (timestamp : UInt64) : List Event :=
  [.receive listener (Packet.encode ⟨.video, timestamp, 1, [1, 0, 1, 0, 1, 7]⟩), .work (.next (.ok ())),
    .work (.finish (.ok ⟨timestamp, ⟨.h264, 1, 1⟩, [7]⟩))]

end DeskStream.Session

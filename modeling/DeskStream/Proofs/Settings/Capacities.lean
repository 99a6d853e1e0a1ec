import DeskStream.Proofs.Discovery.Restart
import DeskStream.Proofs.Session.Media
import DeskStream.Proofs.Session.Transitions
import DeskStream.Proofs.Settings.Sizes
import DeskStream.Proofs.Transport.Sending
import DeskStream.Proofs.Video.Account
/-!
# The sizes of queues

Where the settings give a size, the queue that is made may be greater: a session, its pipeline and the discovery service
make room for one where the settings leave none. A connection does not. Its size is taken as it is, and with none
there is no connection (`queues_of_settings`).
-/

namespace DeskStream

open Wire

/-! ## Queues in use -/

/-- The queues of a video path are made for what the limits say, and for one at least. -/
structure VideoPath.Sized (most : VideoLimits) (v : VideoPath) : Prop where
  decoding : v.queueCapacity = max most.decodeQueue 1
  presentation : v.frames.capacity = max most.presentationQueue 1
  /-- No frame is refused while none waits. -/
  takes : v.waiting = [] → ∀ payload unit timestamp, VideoUnit.decode payload = .ok unit →
    (v.submit payload timestamp).2 = .ok ()

theorem VideoPath.Bounded.sized {most : VideoLimits} {v : VideoPath} (h : Bounded most v) : Sized most v := by
  have hq : v.queueCapacity = max most.decodeQueue 1 := by rw [queueCapacity, h.limits]
  refine ⟨hq, h.capacity, ?_⟩
  intro hnone payload unit timestamp hu
  have hroom : v.workerOrIdle.jobs.length < v.queueCapacity := by
    have hjobs : v.workerOrIdle.jobs = [] := hnone
    rw [hjobs, hq]
    exact Nat.lt_of_lt_of_le Nat.one_pos (Nat.le_max_right ..)
  rw [submit_of_room hu timestamp hroom]

/-- The queue of a discovery service is made for what the settings say, and for one at least. -/
structure DiscoveryService.Sized (config : DiscoveryConfig) (s : DiscoveryService) : Prop where
  channel : s.config.channelCapacity = max config.channelSize 1
  /-- Until the service has been stopped, no event is refused while none waits. -/
  takes : s.queue = [] → s.consumer ≠ .ended → ∀ e, s.send e = .ok { s with queue := [e] }

theorem DiscoveryService.sized_run (config : DiscoveryConfig) (calls : List Call) :
    Sized config ((ofConfig config).run calls) := by
  have hsize : ((ofConfig config).run calls).config.channelCapacity = max config.channelSize 1 := by
    rw [config_run]
    rfl
  refine ⟨hsize, ?_⟩
  intro hnone hopen e
  have hroom : ¬ ((ofConfig config).run calls).config.channelCapacity ≤
      ((ofConfig config).run calls).queue.length := by
    rw [hsize, hnone]
    exact Nat.not_le_of_lt (Nat.lt_of_lt_of_le Nat.one_pos (Nat.le_max_right ..))
  rw [send, if_neg hopen, if_neg hroom, hnone]
  rfl

/-- The queues of a connection are made for what the settings say. -/
structure TcpConnection.Sized (config : TcpConfig) (c : TcpConnection) : Prop where
  channels : c.config.channelBufferSize = config.channelBufferSize
  room : 0 < config.channelBufferSize
  /-- No message waits or is refused while none is queued. -/
  takes : c.outgoing = [] → ∀ n m, c.check m = .ok () → c.send n m = c.accept n m ∧ c.trySend n m = c.accept n m
  /-- The loop does not stand still while the consumer has taken everything. -/
  tells : c.incoming = [] → c.isOver = false → c.isConsumed = true → ∀ e told, c.told = e :: told →
    c.deliver.incoming = [e]

theorem TcpConnection.ofConfig?_eq_none_iff {config : TcpConfig} :
    ofConfig? config = none ↔ config.channelBufferSize = 0 ∨ capacityLimit < config.channelBufferSize := by
  rw [ofConfig?, ite_eq_right_iff]
  simp only [reduceCtorEq, imp_false]
  omega

theorem TcpConnection.deliver_of_empty {c : TcpConnection} {e : LinkEvent} {told : List LinkEvent}
    (hover : c.isOver = false) (hconsumed : c.isConsumed = true) (hroom : 0 < c.config.channelBufferSize)
    (hnone : c.incoming = []) (htold : c.told = e :: told) : c.deliver.incoming = [e] := by
  by_cases hend : (c.isEnding && told.isEmpty) = true
  · simp [deliver, finish, hover, htold, hconsumed, hroom, hnone, hend]
  · simp [deliver, hover, htold, hconsumed, hroom, hnone, hend]

theorem TcpConnection.sized_run {config : TcpConfig} {c : TcpConnection} (hc : ofConfig? config = some c)
    (events : List Event) : Sized config (c.run events) := by
  obtain ⟨taken, ha⟩ := exists_account hc events
  have hconfig : (c.run events).config = config := config_run hc events
  have hroom : 0 < config.channelBufferSize := (ofConfig?_eq_some_iff.1 hc).1.1
  refine ⟨congrArg _ hconfig, hroom, ?_, ?_⟩
  · intro hnone n m hm
    have hfree : (c.run events).hasRoom = true := by
      rw [hasRoom_iff, hconfig, hnone]
      exact hroom
    exact ⟨ha.regular.send_of_room hm hfree n, ha.regular.trySend_of_room hm hfree n⟩
  · intro hnone hover hconsumed e told htold
    exact deliver_of_empty hover hconsumed (hconfig ▸ hroom) hnone htold

/-! ## The settings of a client -/

/-- A session, a pipeline and a discovery service make queues for what the settings say, and for one at least. A
connection makes them for what the settings say; for none there is no connection, and that is one of the sizes that
load. The sizes that load are the words of the machine, of which a file gives those that are integers of TOML: up to
half the words, and none is a size that can be given. What a queue was made for it keeps in every run, and while
nothing is in it, it takes what comes. -/
theorem queues_of_settings (c : ClientConfig) (pipeline : PipelineConfig) :
    (∀ ring format events, let s := (Session.ofConfig c.session ring format).run events
      s.config.channelCapacity = max c.session.controlChannelSize 1 ∧
        s.pipeline.video.Sized c.session.pipeline.videoLimits) ∧
    (∀ format events, ((Pipeline.ofConfig pipeline format).run events).video.Sized pipeline.videoLimits) ∧
    (∀ calls, ((DiscoveryService.ofConfig c.discovery).run calls).Sized c.discovery) ∧
    (∀ t, TcpConnection.ofConfig? c.transport = some t → ∀ events, (t.run events).Sized c.transport) ∧
    (TcpConnection.ofConfig? c.transport = none ↔
      c.transport.channelBufferSize = 0 ∨ TcpConnection.capacityLimit < c.transport.channelBufferSize) ∧
    ((∃ v loaded, ClientConfig.ofToml? v = some loaded ∧
        loaded.transport.channelBufferSize = c.transport.channelBufferSize) ↔
      c.transport.channelBufferSize < wordLimit) ∧
    ((∃ file loaded, ClientConfig.ofFile (some file) = .ok loaded ∧
        loaded.transport.channelBufferSize = c.transport.channelBufferSize) ↔
      c.transport.channelBufferSize < Toml.integerLimit) := by
  have hvideo (most : VideoLimits) (ops : List VideoPath.Op) : ((VideoPath.ofLimits most).play ops).Sized most :=
    (VideoPath.bounded_play (VideoPath.bounded_ofLimits most) ops).sized
  refine ⟨?_, ?_, DiscoveryService.sized_run c.discovery, ?_, TcpConnection.ofConfig?_eq_none_iff,
    ClientConfig.exists_size_iff _, ClientConfig.exists_file_iff _⟩
  · intro ring format events s
    constructor
    · exact congrArg SessionConfig.channelCapacity (Session.config_run ..)
    · exact Session.run_video (.ofConfig c.session ring format) events ▸ hvideo ..
  · intro format events
    exact Pipeline.run_video (.ofConfig pipeline format) events ▸ hvideo ..
  · intro t ht events
    exact TcpConnection.sized_run ht events

/-- A file that gives the queues of a connection no room. -/
def roomless : Bytes := "transport.channel_buffer_size=0".toUTF8.toList

/-- The file is read, and there is no connection then. -/
theorem queues_of_settings_roomless : ∃ c, ClientConfig.ofFile (some roomless) = .ok c ∧
    c.transport.channelBufferSize = 0 ∧ TcpConnection.ofConfig? c.transport = none := by
  have hread : (ClientConfig.ofFile (some roomless)).toOption.map (·.transport.channelBufferSize) = some 0 := by
    decide +kernel
  cases hfile : ClientConfig.ofFile (some roomless) with
  | error => rw [hfile] at hread; cases hread
  | ok c =>
    rw [hfile] at hread
    have hzero : c.transport.channelBufferSize = 0 := Option.some.inj hread
    obtain ⟨-, -, -, -, hnone, -⟩ := queues_of_settings c {}
    exact ⟨c, rfl, hzero, hnone.2 (.inl hzero)⟩

end DeskStream

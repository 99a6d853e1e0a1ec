import DeskStream.Proofs.Session.Holdings
import Mathlib.Data.List.Chain
/-!
# The history of states

The state changes in one place, where the change is broadcast too. So what is broadcast is a walk through
the states, and a step walks on from where the session stands (`walks_step`). Which changes there are follows
from the guards of each operation; but the loss of a link changes whatever state it finds, and it is the
invariant that says which states these can be. An error turns into a reconnect only there
(`transitions_run`).
-/

namespace DeskStream

namespace ConnectionState

/-- The changes of state that there are. -/
def leadsTo : ConnectionState → ConnectionState → Bool
  | .disconnected, .connecting => true
  | .error _, .connecting | .error _, .reconnecting | .error _, .disconnected => true
  | .connecting, .connected | .connecting, .error _ | .connecting, .disconnected => true
  | .connected, .streaming | .connected, .error _ | .connected, .reconnecting | .connected, .disconnected => true
  | .streaming, .error _ | .streaming, .reconnecting | .streaming, .disconnected => true
  | .reconnecting, .connected | .reconnecting, .error _ | .reconnecting, .disconnected => true
  | _, _ => false

/-- The changes of state but for the one from an error to a reconnect. -/
def movesTo (a b : ConnectionState) : Bool := a.leadsTo b && !(a.isError && b == .reconnecting)

theorem leadsTo_of_movesTo {a b : ConnectionState} (h : a.movesTo b) : a.leadsTo b := by
  simp only [movesTo, Bool.and_eq_true] at h
  exact h.1

theorem ne_of_leadsTo {a b : ConnectionState} (h : a.leadsTo b) : a ≠ b := by
  rintro rfl
  cases a <;> simp [leadsTo] at h

theorem movesTo_connecting {a : ConnectionState} (h : a.canConnect) : a.movesTo .connecting := by
  cases a <;> simp_all [canConnect, movesTo, leadsTo]

theorem movesTo_of_isAttempting {a b : ConnectionState} (h : a.isAttempting) (hb : b = .connected ∨ b.isError) :
    a.movesTo b := by
  cases a <;> cases b <;> simp_all [isAttempting, isError, movesTo, leadsTo]

/-- What a lost link leads to. -/
theorem movesTo_of_isConnected {a b : ConnectionState} (h : a.isConnected) (hb : b = .reconnecting ∨ b.isError) :
    a.movesTo b := by
  cases a <;> cases b <;> simp_all [isConnected, isError, movesTo, leadsTo]

theorem movesTo_disconnected {a : ConnectionState} (h : a ≠ .disconnected) : a.movesTo .disconnected := by
  cases a <;> simp_all [movesTo, leadsTo]

end ConnectionState

namespace Session

open Wire

variable {s s' s'' : Session} {t : Nat} {R : ConnectionState → ConnectionState → Bool}

/-! ## Walks -/

/-- The session gets from one state to another by changes of a kind, and each is broadcast. -/
inductive Walks (R : ConnectionState → ConnectionState → Bool) (s : Session) : Session → Prop where
  | stay {s' : Session} (hs : s'.state = s.state) (ht : s'.transitions = s.transitions) : Walks R s s'
  | change {s' s'' : Session} (h : Walks R s s') (hr : R s'.state s''.state)
    (ht : s''.transitions = s'.transitions ++ [s''.state]) : Walks R s s''

theorem Walks.refl (s : Session) : Walks R s s := .stay rfl rfl

theorem Walks.congr (h : Walks R s s') (hs : s''.state = s'.state) (ht : s''.transitions = s'.transitions) :
    Walks R s s'' := by
  cases h with
  | stay hs' ht' => exact .stay (hs.trans hs') (ht.trans ht')
  | change h hr ht' => exact .change h (hs ▸ hr) (by rw [ht, ht', hs])

theorem Walks.trans (h : Walks R s s') (h' : Walks R s' s'') : Walks R s s'' := by
  induction h' with
  | stay hs ht => exact h.congr hs ht
  | change _ hr ht ih => exact .change ih hr ht

theorem Walks.of_eq (h : Walks R s' s'') (hs : s'.state = s.state) (ht : s'.transitions = s.transitions) :
    Walks R s s'' :=
  .trans (.stay hs ht) h

theorem Walks.mono {R' : ConnectionState → ConnectionState → Bool} (hR : ∀ a b, R a b → R' a b) (h : Walks R s s') :
    Walks R' s s' := by
  induction h with
  | stay hs ht => exact .stay hs ht
  | change _ hr ht ih => exact .change ih (hR _ _ hr) ht

/-- A transition is a change of state, or nothing. -/
theorem walks_transition (g : Nat) {allowed : ConnectionState → Bool} {next : ConnectionState}
    (h : allowed s.state → s.state ≠ next → R s.state next) : Walks R s (s.transition g allowed next) := by
  unfold transition
  split
  · rename_i hc
    exact .change (.refl s) (h hc.2.1 hc.2.2) rfl
  · exact .refl s

theorem walks_failAttempt (s : Session) (g : Nat) (reason : String) :
    Walks ConnectionState.movesTo s (s.failAttempt g reason) :=
  walks_transition g fun h _ => ConnectionState.movesTo_of_isAttempting h (.inr rfl)

/-! ## Operations -/

theorem walks_dial (s : Session) (t : Nat) (call : Option Nat) (g : Nat) (peer : Peer) :
    Walks ConnectionState.movesTo s (s.dial t call g peer) := by
  unfold dial
  split
  · have := walks_failAttempt s g CryptoError.notAuthenticated.message
    cases call <;> exact this.congr rfl rfl
  · exact .stay rfl rfl

theorem walks_connect (s : Session) (t call : Nat) (peer : Peer) :
    Walks ConnectionState.movesTo s (s.connect t call peer) := by
  unfold connect
  split
  · -- Connecting, and perhaps failed for want of keys.
    have hc : Walks ConnectionState.movesTo s (s.transition s.generation (·.canConnect) .connecting) :=
      walks_transition _ fun h _ => ConnectionState.movesTo_connecting h
    refine .trans (hc.congr ?_ ?_) (walks_dial _ _ _ _ _) <;> cases s.link <;> rfl
  · exact .stay rfl rfl

theorem walks_install (s : Session) (t : Nat) (call : Option Nat) (l : Link) :
    Walks ConnectionState.movesTo s (s.install t call l) := by
  let s' := { s with link := some l }.spawn (.listen l false)
  have hc : Walks ConnectionState.movesTo s (s'.transition l.generation (·.isAttempting) .connected) :=
    .of_eq (walks_transition (s := s') _ fun h _ => ConnectionState.movesTo_of_isAttempting h (.inl rfl)) rfl rfl
  unfold install
  simp only
  split
  · exact hc.congr rfl rfl
  · cases call <;> exact hc.congr rfl rfl

theorem walks_dialDone (s : Session) (t : Nat) (call : Option Nat) (g : Nat) (result : Except TransportError Unit) :
    Walks ConnectionState.movesTo s (s.dialDone t call g result) := by
  unfold dialDone
  cases result with
  | error e =>
    have := walks_failAttempt s g e.message
    cases call <;> exact this.congr rfl rfl
  | ok _ =>
    simp only
    split
    · exact (walks_install _ _ _ _).of_eq rfl rfl
    · cases call <;> exact .stay rfl rfl

theorem walks_intervalOver (s : Session) (t g : Nat) : Walks ConnectionState.movesTo s (s.intervalOver t g) := by
  unfold intervalOver
  split
  · split
    · exact .stay rfl rfl
    · exact (walks_dial _ _ _ _ _).of_eq rfl rfl
  · exact .stay rfl rfl

theorem walks_release (s : Session) : Walks ConnectionState.movesTo s s.release :=
  .of_eq (walks_transition _ fun _ h => ConnectionState.movesTo_disconnected h) rfl rfl

theorem walks_letGo (s : Session) : Walks R s s.letGo := by
  unfold letGo
  split <;> exact .stay rfl rfl

theorem walks_disconnect (s : Session) (t call : Nat) : Walks ConnectionState.movesTo s (s.disconnect t call) := by
  have hl := walks_letGo (R := ConnectionState.movesTo) s
  rcases disconnect_cases s t call with ⟨l, -, he⟩ | ⟨-, -, he⟩ | ⟨-, -, he⟩ <;> rw [he]
  · exact hl.congr rfl rfl
  · exact hl.congr rfl rfl
  · exact (hl.trans (walks_release _)).congr rfl rfl

theorem walks_concludeSend (s : Session) (t : Nat) (origin : Origin) (r : Except ClientError UInt32) :
    Walks R s (s.concludeSend t origin r) := by
  cases origin with
  | call | echo => cases r <;> exact .stay rfl rfl
  | auth call => cases call <;> exact .stay rfl rfl

theorem walks_beginSend (s : Session) (t : Nat) (origin : Origin) (kind : PacketKind) (payload : Bytes) :
    Walks R s (s.beginSend t origin kind payload) := by
  unfold beginSend
  split
  · exact .stay rfl rfl
  · exact walks_concludeSend ..

theorem walks_beginWrite (s : Session) (m : Moment) (t : Nat) (origin : Origin) (kind : PacketKind)
    (payload : Bytes) : Walks R s (s.beginWrite m t origin kind payload) := by
  unfold beginWrite
  split
  · exact walks_concludeSend ..
  · simp only
    split
    · exact (walks_concludeSend _ _ _ _).of_eq rfl rfl
    · exact .stay rfl rfl

theorem walks_media (s : Session) (g : Nat) (p : Packet) : Walks ConnectionState.movesTo s (s.media g p) := by
  unfold media
  simp only
  split
  · exact .stay rfl rfl
  · refine .of_eq (walks_transition _ ?_) rfl rfl
    intro h _
    simp only [decide_eq_true_eq] at h
    rw [h]; rfl

theorem walks_receive (s : Session) (m : Moment) (g : Nat) (message : Bytes) :
    Walks ConnectionState.movesTo s (s.receive m g message) := by
  unfold receive
  split
  · exact .stay rfl rfl
  · split
    · exact .stay rfl rfl
    · rename_i p _
      unfold packet
      cases p.kind with
      | video | audio => exact (walks_media _ _ _).of_eq rfl rfl
      | keepAlive | control | auth | input => exact .stay rfl rfl

/-! ## Loss of a link -/

/-- A link that failed is lost by way of an error, and then a reconnect may be due. -/
theorem walks_lose_io {l : Link} (h : s.link = some l) (hs : s.state.isConnected) (reason : String) :
    let s' := s.lose l.generation reason .io
    (s.config.autoReconnect = true ∧ s'.state = .reconnecting ∧
        s'.transitions = s.transitions ++ [.error reason, .reconnecting]) ∨
      (s.config.autoReconnect = false ∧ s'.state = .error reason ∧
        s'.transitions = s.transitions ++ [.error reason]) := by
  have hne : s.state ≠ .error reason := by
    rintro he
    simp [he, ConnectionState.isConnected] at hs
  cases hr : s.config.autoReconnect <;>
    simp [lose, h, hr, transition, supersede, abandon, cancel, spawn, hne]

theorem walks_lose_sendFailures (hs : s.link.isSome → s.state.isConnected) (g : Nat) (reason : String) :
    Walks ConnectionState.movesTo s (s.lose g reason .sendFailures) := by
  unfold lose
  cases hl : s.link with
  | none => exact .refl s
  | some l =>
    have hs := hs (by rw [hl]; rfl)
    let s' := s.supersede.abandon l.number
    have h : Walks ConnectionState.movesTo s s' := .stay rfl rfl
    simp only
    split
    · split
      · refine .congr (.trans h (walks_transition (s := s') s'.generation fun _ _ => ?_)) rfl rfl
        exact ConnectionState.movesTo_of_isConnected hs (.inl rfl)
      · refine .trans h (walks_transition (s := s') s'.generation fun _ _ => ?_)
        exact ConnectionState.movesTo_of_isConnected hs (.inr rfl)
    · exact .refl s

theorem walks_writeDone (hs : s.link.isSome → s.state.isConnected) (t : Nat) (origin : Origin) (link : Link)
    (sequence : UInt32) (message : Bytes) (result : Except TransportError Unit) :
    Walks ConnectionState.movesTo s (s.writeDone t origin link sequence message result) := by
  unfold writeDone
  cases result with
  | ok _ => exact (walks_concludeSend _ _ _ _).of_eq rfl rfl
  | error e =>
    simp only
    split
    · refine .trans ?_ (walks_concludeSend _ _ _ _)
      unfold countFailure
      simp only
      split
      · exact (walks_lose_sendFailures (by exact hs) _ _).of_eq rfl rfl
      · exact .stay rfl rfl
    · exact (walks_concludeSend _ _ _ _).of_eq rfl rfl

/-! ## Steps -/

/-- The installed link has failed, and a reconnect is due. -/
structure Drops (s : Session) (t : Nat) : Prop where
  heard : ∃ l, s.task? t = some (.listen l false) ∧ s.link = some l
  reconnect : s.config.autoReconnect = true

/-- What a step does to the state. -/
inductive Turn (s : Session) : Event → Session → Prop where
  | walk {e : Event} {s' : Session} (h : Walks ConnectionState.movesTo s s') : Turn s e s'
  | retry {t : Nat} {reason : String} {s' : Session} (h : s.Drops t) (hs : s.state.isConnected)
    (hs' : s'.state = .reconnecting) (ht : s'.transitions = s.transitions ++ [.error reason, .reconnecting]) :
    Turn s (.linkEnded t reason) s'

theorem turn_linkEnded (hi : Inv s) {l : Link} (h : s.task? t = some (.listen l false)) (reason : String) :
    Turn s (.linkEnded t reason) (s.linkEnded t l.generation reason) := by
  have hl := hi.heard t l (task?_mem h)
  have hs := (hi.linked l hl).2.1
  rcases walks_lose_io (s := s.erase t) hl hs reason with ⟨hr, hs', ht⟩ | ⟨-, hs', ht⟩
  · exact .retry ⟨⟨l, h, hl⟩, hr⟩ hs hs' ht
  · refine .walk (.change (.refl s) ?_ (ht.trans (congrArg _ ?_)))
    · rw [show (s.linkEnded t l.generation reason).state = _ from hs']
      exact ConnectionState.movesTo_of_isConnected hs (.inr rfl)
    · rw [show (s.linkEnded t l.generation reason).state = _ from hs']

theorem turn_step (hi : Inv s) (m : Moment) (e : Event) : Turn s e (s.step m e) := by
  have hs : s.link.isSome → s.state.isConnected := by
    intro h
    obtain ⟨l, hl⟩ := Option.isSome_iff_exists.1 h
    exact (hi.linked l hl).2.1
  have hm := move_step s m e
  generalize s.step m e = s' at hm ⊢
  cases hm with
  | connect => exact .walk (walks_connect ..)
  | disconnect => exact .walk (walks_disconnect ..)
  | joined => exact .walk ((walks_release s).congr rfl rfl)
  | beginSend => exact .walk (walks_beginSend ..)
  | beginWrite => exact .walk (walks_beginWrite ..)
  | dialDone => exact .walk (walks_dialDone ..)
  | intervalOver => exact .walk (walks_intervalOver ..)
  | writeDone => exact .walk (walks_writeDone hs ..)
  | receive => exact .walk (walks_receive ..)
  | linkEnded t l reason h => exact turn_linkEnded hi h reason
  | letGo => exact .walk (walks_letGo s)
  | rest | call | close | unlisten | tick | work | pop | setVolume | authenticate | logout | free =>
    exact .walk (.stay rfl rfl)

theorem Turn.walks {e : Event} (h : Turn s e s') : Walks ConnectionState.leadsTo s s' := by
  cases h with
  | walk h => exact h.mono fun _ _ => ConnectionState.leadsTo_of_movesTo
  | @retry t reason _ h hs hs' ht =>
    let failed := { s with state := .error reason, transitions := s.transitions ++ [ConnectionState.error reason] }
    have hf : Walks ConnectionState.leadsTo s failed :=
      .change (.refl s) (ConnectionState.leadsTo_of_movesTo (ConnectionState.movesTo_of_isConnected hs (.inr rfl))) rfl
    refine .change hf ?_ ?_
    · rw [hs']; rfl
    · rw [ht, hs']; simp [failed]

/-! ## Runs -/

/-- All states from the first on. -/
def history (s : Session) : List ConnectionState := .disconnected :: s.transitions

/-- The history is a walk to the present state. -/
structure Told (s : Session) : Prop where
  chain : s.history.IsChain (fun a b => a.leadsTo b)
  last : s.history.getLast? = some s.state

theorem Told.walks (h : Told s) (hw : Walks ConnectionState.leadsTo s s') : Told s' := by
  induction hw with
  | stay hs ht =>
    constructor
    · rw [history, ht]; exact h.chain
    · rw [history, ht, hs]; exact h.last
  | @change s' s'' _ hr ht ih =>
    have hh : s''.history = s'.history ++ [s''.state] := by simp [history, ht]
    constructor
    · rw [hh]
      refine ih.chain.append (.singleton _) ?_
      intro x hx y hy
      rw [ih.last] at hx
      simp only [Option.mem_some_iff, List.head?_cons] at hx hy
      subst hx hy
      exact hr
    · rw [hh]; simp

theorem told_ofConfig (config : SessionConfig) (ring : KeyRing) (format : PcmFormat) :
    Told (ofConfig config ring format) :=
  ⟨.singleton _, rfl⟩

theorem Told.run (h : Told s) (hi : Inv s) (events : List (Moment × Event)) : Told (s.run events) := by
  refine (run_keeps (P := fun s => Inv s ∧ Told s) (A := fun _ => True) ?_ (fun _ _ => trivial) ⟨hi, h⟩).2
  intro s m e _ h
  exact ⟨inv_step h.1 m e, h.2.walks (turn_step h.1 m e).walks⟩

/-! ## From an error to a reconnect -/

variable {first : List ConnectionState} {reason : String}

/-- The changes of other operations do not make a reconnect of an error. -/
theorem Walks.prefix_of_retry (hw : Walks ConnectionState.movesTo s s') (h : Told s)
    (hp : first ++ [.error reason, .reconnecting] <+: s'.history) :
    first ++ [.error reason, .reconnecting] <+: s.history := by
  induction hw with
  | stay _ ht => rwa [history, ht] at hp
  | @change s' s'' hw hr ht ih =>
    have hl := (h.walks (hw.mono fun _ _ => ConnectionState.leadsTo_of_movesTo)).last
    rw [show s''.history = s'.history ++ [s''.state] by simp [history, ht], List.prefix_concat_iff] at hp
    rcases hp with he | hp
    · -- The last change would be the one that does not occur.
      rw [List.append_cons first] at he
      obtain ⟨hf, hs⟩ := List.append_inj' he rfl
      rw [← hf, List.getLast?_concat, Option.some.injEq] at hl
      rw [List.cons.injEq] at hs
      rw [← hl, ← hs.1] at hr
      simp [ConnectionState.movesTo, ConnectionState.isError] at hr
    · exact ih hp

/-- A reconnect of an error is due to the loss of the link. -/
theorem Turn.prefix_of_retry {e : Event} (ht : Turn s e s') (h : Told s)
    (hp : first ++ [.error reason, .reconnecting] <+: s'.history) :
    first ++ [.error reason, .reconnecting] <+: s.history ∨
      ∃ t, e = .linkEnded t reason ∧ s.Drops t ∧ s.history = first ∧
        s'.history = first ++ [.error reason, .reconnecting] := by
  cases ht with
  | walk hw => exact .inl (hw.prefix_of_retry h hp)
  | @retry t reason' _ hd _ _ ht =>
    have hh : s'.history = (s.history ++ [.error reason']) ++ [.reconnecting] := by simp [history, ht]
    rw [hh, List.prefix_concat_iff, List.prefix_concat_iff] at hp
    rcases hp with he | he | hp
    · rw [List.append_cons first] at he
      obtain ⟨hf, -⟩ := List.append_inj' he rfl
      obtain ⟨hf, hr⟩ := List.append_inj' hf rfl
      simp only [List.cons.injEq, ConnectionState.error.injEq, and_true] at hr
      subst hf hr
      exact .inr ⟨t, rfl, hd, rfl, by simp [hh]⟩
    · -- The error itself is no reconnect.
      rw [List.append_cons first] at he
      obtain ⟨-, hr⟩ := List.append_inj' he rfl
      simp at hr
    · exact .inl hp

/-- A step of a run at which the link is lost and a reconnect is due. -/
theorem exists_drop (hi : Inv s) (h : Told s) (events : List (Moment × Event))
    (hp : first ++ [.error reason, .reconnecting] <+: (s.run events).history) :
    first ++ [.error reason, .reconnecting] <+: s.history ∨
      ∃ before m t after, events = before ++ (m, .linkEnded t reason) :: after ∧ (s.run before).Drops t ∧
        (s.run before).history = first ∧
        ((s.run before).step m (.linkEnded t reason)).history = first ++ [.error reason, .reconnecting] := by
  induction events using List.reverseRecOn with
  | nil => exact .inl hp
  | append_singleton events x ih =>
    rw [run, List.foldl_append] at hp
    rcases (turn_step (inv_run hi events) x.1 x.2).prefix_of_retry (h.run hi events) hp with hp | ⟨t, he, hd, hf, hh⟩
    · -- It was there before the last step.
      refine (ih hp).imp_right ?_
      rintro ⟨before, m, t, after, rfl, hd⟩
      exact ⟨before, m, t, after ++ [x], by simp, hd⟩
    · exact .inr ⟨events, x.1, t, [], by simp [← he], hd, hf, he ▸ hh⟩

/-! ## Configuration -/

theorem config_step (s : Session) (m : Moment) (e : Event) : (s.step m e).config = s.config := by
  have hm := move_step s m e
  generalize s.step m e = s' at hm ⊢
  cases hm with
  | connect => exact congrArg Holdings.config (holdings_connect ..)
  | disconnect t call =>
    have hd := congrArg Holdings.config (holdings_disconnect s t call)
    split at hd <;> exact hd
  | joined => exact congrArg Holdings.config (holdings_release s)
  | beginSend => exact congrArg Holdings.config (holdings_beginSend ..)
  | beginWrite => exact congrArg Holdings.config (holdings_beginWrite ..)
  | dialDone => exact congrArg Holdings.config (holdings_dialDone ..)
  | intervalOver => exact congrArg Holdings.config (holdings_intervalOver ..)
  | writeDone t origin l sequence message result =>
    have hw := congrArg Holdings.config (holdings_writeDone s t origin l sequence message result)
    cases result <;> exact hw
  | receive t l message =>
    unfold receive
    split
    · rfl
    · split
      · rfl
      · exact congrArg Holdings.config (holdings_packet ..)
  | linkEnded t l reason => exact congrArg Holdings.config (holdings_lose (s.erase t) ..)
  | letGo => exact congrArg Holdings.config (holdings_letGo s)
  | rest | call | close | unlisten | tick | work | pop | setVolume | authenticate | logout | free => rfl

theorem config_run (s : Session) (events : List (Moment × Event)) : (s.run events).config = s.config :=
  run_keeps (P := fun s' => s'.config = s.config) (A := fun _ => True) (fun s' m e _ h => (config_step s' m e).trans h)
    (fun _ _ => trivial) rfl

/-! ## Every run -/

/-- The states broadcast in a run, from the first on, are a walk by the changes there are to the present state,
no two in a row are the same, and each step walks on. An error followed by a reconnect is what a step
broadcasts that loses the installed link to an I/O failure, and reconnecting is configured. -/
theorem transitions_run (config : SessionConfig) (ring : KeyRing) (format : PcmFormat)
    (events : List (Moment × Event)) :
    let start := ofConfig config ring format
    let s := start.run events
    s.history.IsChain (fun a b => a.leadsTo b ∧ a ≠ b) ∧
      s.history.getLast? = some s.state ∧
      (∀ m e, Walks ConnectionState.leadsTo s (s.step m e)) ∧
      ∀ first reason, first ++ [.error reason, .reconnecting] <+: s.history →
        ∃ before m t after, events = before ++ (m, .linkEnded t reason) :: after ∧
          (start.run before).Drops t ∧ config.autoReconnect = true ∧
          (start.run before).history = first ∧
          ((start.run before).step m (.linkEnded t reason)).history = first ++ [.error reason, .reconnecting] := by
  intro start s
  have hi := (bare_ofConfig config ring format).inv
  have ht := told_ofConfig config ring format
  have hs : Told s := ht.run hi events
  refine ⟨hs.chain.imp fun a b h => ⟨h, ConnectionState.ne_of_leadsTo h⟩, hs.last, ?_, ?_⟩
  · intro m e
    exact (turn_step (inv_run hi events) m e).walks
  · intro first reason hp
    rcases exists_drop hi ht events hp with hp | ⟨before, m, t, after, he, hd, hh⟩
    · -- The history begins with one state.
      have := hp.length_le
      simp [history, ofConfig] at this
    · have hc : (start.run before).config = config := config_run start before
      exact ⟨before, m, t, after, he, hd, hc ▸ hd.reconnect, hh⟩

/-- A link comes up, shows a picture and fails; the reconnect comes up too. -/
def relink : List (Moment × Event) :=
  atOnce ([.callConnect 0 (.manual "desk" "desk.local" 9000), .run 0, .dialDone 0 (.ok ()),
    .receive 1 (Packet.encode ⟨.audio, 10, 1, [0, 0, 0xbb, 0x80, 2]⟩), .linkEnded 1 "reset", .intervalOver 3,
    .dialDone 3 (.ok ())])

/-- The error on the way is due to the one loss. -/
theorem transitions_run_relink :
    (plain.run relink).history = [.disconnected, .connecting, .connected, .streaming, .error "reset", .reconnecting,
      .connected] ∧
      ∃ before m t after, relink = before ++ (m, .linkEnded t "reset") :: after ∧ (plain.run before).Drops t ∧
        (plain.run before).history = [.disconnected, .connecting, .connected, .streaming] := by
  have hh : (plain.run relink).history = [.disconnected, .connecting, .connected, .streaming, .error "reset",
      .reconnecting, .connected] := by decide +kernel
  refine ⟨hh, ?_⟩
  obtain ⟨before, m, t, after, he, hd, -, hf, -⟩ :=
    (transitions_run { encrypt := false, sendAuthToken := false } ⟨none, none⟩ .s16le relink).2.2.2
      [.disconnected, .connecting, .connected, .streaming] "reset" ⟨[.connected], hh.symm⟩
  exact ⟨before, m, t, after, he, hd, hf⟩

end Session
end DeskStream

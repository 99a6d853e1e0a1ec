import DeskStream.Proofs.Session.Invariant
import DeskStream.Proofs.Session.Moves
/-!
# What the operations keep

Each operation keeps `Inv`, and each but the letting go keeps `Engaged`. A step is one operation
(`kept_step`, `inv_step`), and a run keeps what its steps keep (`run_keeps`).
-/

namespace DeskStream.Session

open Wire

variable {s s' : Session} {t call : Nat} {peer : Peer} {old new task : Task}

/-! ## Connecting -/

theorem dial_core (s : Session) (t : Nat) (call : Option Nat) (g : Nat) (peer : Peer) :
    (s.dial t call g peer).core = (s.put t (.dial call g peer)).core ∨
      (s.dial t call g peer).core =
        ((s.failAttempt g CryptoError.notAuthenticated.message).erase t).core := by
  unfold dial
  split
  · right; cases call <;> rfl
  · left; rfl

theorem failAttempt_state (h : s.state.isAttempting) (reason : String) :
    (s.failAttempt s.generation reason).state = .error reason := by
  simp [failAttempt, h]

/-- An attempt that fails ends in an error. -/
theorem failed_attempt (hi : Inv s) (ha : Attempts s t) (reason : String) :
    Inv ((s.failAttempt s.generation reason).erase t) ∧ Engaged ((s.failAttempt s.generation reason).erase t) := by
  have hc : ((s.failAttempt s.generation reason).erase t).core
      = { (s.erase t).core with state := ((s.failAttempt s.generation reason).erase t).state } := by
    unfold failAttempt transition
    split <;> rfl
  refine ⟨((hi.erase_attempt ha).withState hc).inv, engaged_of_canConnect ?_⟩
  show (s.failAttempt s.generation reason).state.canConnect
  rw [failAttempt_state ha.1]; rfl

/-- The one attempt there may be calls the connector, or fails for want of keys. -/
theorem inv_dial (hi : Inv s) (ha : Attempts s t) (call : Option Nat) (peer : Peer) :
    Inv (s.dial t call s.generation peer) ∧ Engaged (s.dial t call s.generation peer) := by
  rcases dial_core s t call s.generation peer with hc | hc
  · have := hi.put_dial ha call peer
    exact ⟨this.1.of_core hc, this.2.of_core hc⟩
  · have := failed_attempt hi ha CryptoError.notAuthenticated.message
    exact ⟨this.1.of_core hc, this.2.of_core hc⟩

/-- A session that may connect has nothing to give up. -/
theorem Inv.idle (hi : Inv s) (hs : s.state.canConnect) : s.link = none ∧ s.attempts = 0 := by
  constructor
  · cases hl : s.link with
    | none => rfl
    | some l =>
      have := (hi.linked l hl).2.1
      cases hst : s.state <;> simp_all [ConnectionState.canConnect, ConnectionState.isConnected]
  · by_contra hne
    have := (hi.attempting (Nat.pos_of_ne_zero hne)).2.1
    cases hst : s.state <;> simp_all [ConnectionState.canConnect, ConnectionState.isAttempting]

/-- A session with a link has no attempt beside it. -/
theorem Inv.attempts_of_link (hi : Inv s) {l : Link} (hl : s.link = some l) : s.attempts = 0 := by
  by_contra hne
  have ha := (hi.attempting (Nat.pos_of_ne_zero hne)).2.1
  have hc := (hi.linked l hl).2.1
  cases hst : s.state <;> simp_all [ConnectionState.isAttempting, ConnectionState.isConnected]

/-- What an accepted connect begins from: a new generation, connecting to the peer, and all counts anew. -/
def accepted (s : Session) (peer : Peer) : Session :=
  { s with
    state := .connecting, transitions := s.transitions ++ [.connecting], generation := s.generation + 1, link := none
    metrics := s.metrics.reset, stats := {}, sequence := 1, failures := 0, peer := some peer }

theorem connect_of_canConnect (s : Session) (t call : Nat) (peer : Peer) (hs : s.state.canConnect)
    (hl : s.link = none) :
    s.connect t call peer = (s.accepted peer).dial t (some call) (s.generation + 1) peer := by
  have hne : s.state ≠ .connecting := by rintro he; simp [he, ConnectionState.canConnect] at hs
  simp [connect, hs, hl, transition, hne, supersede, accepted]

/-- A connect call has its turn and is accepted. -/
structure Accepts (s : Session) (t call : Nat) (peer : Peer) : Prop where
  task : s.task? t = some (.connect call peer)
  turn : s.isLeaving = false
  state : s.state.canConnect

theorem Accepts.step (h : Accepts s t call peer) (hi : Inv s) (m : Moment) :
    s.step m (.run t) = (s.accepted peer).dial t (some call) (s.generation + 1) peer := by
  simp only [Session.step, h.task, resume, h.turn, Bool.false_eq_true, if_false]
  exact connect_of_canConnect s t call peer h.state (hi.idle h.state).1

theorem bare_accepted (hi : Inv s) (hs : s.state.canConnect) (peer : Peer) : Bare (s.accepted peer) := by
  obtain ⟨hl, ha⟩ := hi.idle hs
  have hb := hi.bare_letGo
  simp only [letGo, hl] at hb
  exact ⟨⟨hb.numbered.nodup, hb.numbered.lt⟩, hb.past, hb.unheard, rfl, hb.attempts⟩

theorem kept_connect (hi : Inv s) {call : Nat} {peer : Peer} (h : s.task? t = some (.connect call peer))
    (hj : s.isLeaving = false) : Kept s (s.connect t call peer) := by
  by_cases hs : s.state.canConnect
  · -- Accepted: the call is the first attempt of a new generation.
    rw [connect_of_canConnect s t call peer hs (hi.idle hs).1]
    have hb := bare_accepted hi hs peer
    exact .of_both (inv_dial hb.inv ⟨rfl, rfl, hj, _, h, hb.attempts⟩ _ _)
  · simp only [connect, hs]
    exact .answer hi ⟨_, h, rfl, rfl⟩ _ _

/-! ## A connector call completes -/

/-- A link is installed with a receive loop of its own. -/
def linked (s : Session) (l : Link) : Session :=
  { s with
    tasks := s.tasks ++ [(s.spawned, .listen l false)], spawned := s.spawned + 1, link := some l
    state := .connected, transitions := s.transitions ++ [.connected] }

theorem linked_put (h : t < s.spawned) (new : Task) (l : Link) : (s.linked l).put t new = (s.put t new).linked l := by
  simp [put, linked, Nat.ne_of_gt h]

theorem linked_erase (h : t < s.spawned) (l : Link) : (s.linked l).erase t = (s.erase t).linked l := by
  simp [erase, linked, List.filter_append, Nat.ne_of_gt h]

theorem inv_linked (hb : Bare s) (hp : s.peer.isSome) {l : Link} (hg : l.generation = s.generation)
    (hj : s.isLeaving = false) : Inv (s.linked l) ∧ Engaged (s.linked l) := by
  have hs := hb.numbered.spawn (.listen l false)
  have hno : (s.linked l).attempts = 0 :=
    (count_spawn_same s (show (Task.listen l false).isAttempt s.generation = false from rfl)).trans hb.attempts
  refine ⟨⟨⟨hs.nodup, hs.lt⟩, ?_, ?_, ?_, ?_, ?_⟩, engaged_of_link rfl rfl⟩
  · intro x hx g hxg
    rcases mem_spawn.1 hx with hx | rfl
    · exact hb.past x hx g hxg
    · simp [Task.attempt?] at hxg
  · intro u k hx
    rcases mem_spawn.1 hx with hx | hx
    · exact absurd hx (hb.unheard u k)
    · simp only [Prod.mk.injEq, Task.listen.injEq, and_true] at hx
      rw [hx.2]; rfl
  · rintro k hk
    simp only [linked, Option.some.injEq] at hk
    exact ⟨hk ▸ hg, rfl, hp⟩
  · intro h
    omega
  · intro h
    have hc : (s.linked l).count Task.isJoin = s.count Task.isJoin :=
      count_spawn_same s (show (Task.listen l false).isJoin = false from rfl)
    rw [isLeaving_eq, decide_eq_true_eq, hc] at h
    rw [isLeaving_eq, decide_eq_false_iff_not] at hj
    exact absurd h hj

theorem isLeaving_put (h : s.isLeaving = false) (t : Nat) (hp : new.isPlain) : (s.put t new).isLeaving = false := by
  rw [isLeaving_eq, decide_eq_false_iff_not] at h ⊢
  have := count_put_le s t (Task.isJoin_of_isPlain hp)
  omega

theorem isLeaving_erase (h : s.isLeaving = false) (t : Nat) : (s.erase t).isLeaving = false := by
  rw [isLeaving_eq, decide_eq_false_iff_not] at h ⊢
  have := count_erase_le s t Task.isJoin
  omega

/-- The attempt turns into the sending of the token, or ends. -/
theorem install_core (call : Option Nat) {l : Link} (hs : s.state.isAttempting) (hg : l.generation = s.generation) :
    (∃ payload, s.install t call l = (s.linked l).put t (.send (.auth call) .auth payload)) ∨
      (s.install t call l).core = ((s.linked l).erase t).core := by
  have hne : s.state ≠ .connected := by rintro h; simp [h, ConnectionState.isAttempting] at hs
  have up : ({ s with link := some l }.spawn (.listen l false)).transition l.generation (·.isAttempting) .connected
      = s.linked l := by
    simp [transition, spawn, linked, hs, hg, hne]
  unfold install
  simp only [up]
  split
  · exact .inl ⟨_, rfl⟩
  · right; cases call <;> rfl

theorem inv_install (hi : Inv s) (ha : Attempts s t) (call : Option Nat) {l : Link}
    (hg : l.generation = s.generation) :
    Inv (s.install t call l) ∧ Engaged (s.install t call l) := by
  obtain ⟨hs, hp, hj, old, h, hone⟩ := id ha
  have ht := hi.numbered.lt _ (task?_mem h)
  rcases install_core (t := t) call hs hg with ⟨payload, he⟩ | hc
  · rw [he, linked_put ht]
    exact inv_linked (hi.put_attempt ha rfl) hp hg (isLeaving_put hj t rfl)
  · have := inv_linked (hi.erase_attempt ha) hp hg (isLeaving_erase hj t)
    rw [← linked_erase ht] at this
    exact ⟨this.1.of_core hc, this.2.of_core hc⟩

/-- An attempt of the present generation is the one there is. -/
theorem Inv.attempts_of_task (hi : Inv s) (h : s.task? t = some task) (ha : task.isAttempt s.generation) :
    Attempts s t := by
  have hpos : 0 < s.attempts := count_pos_of_mem (task?_mem h) ha
  obtain ⟨hone, hs, hp⟩ := hi.attempting hpos
  refine ⟨hs, hp, ?_, task, h, by rw [hone, ha]; rfl⟩
  by_contra hj
  have := (hi.leaving (by simpa using hj)).2
  omega

theorem transition_stale (s : Session) {g : Nat} (h : s.generation ≠ g) (allowed : ConnectionState → Bool)
    (next : ConnectionState) : s.transition g allowed next = s := by
  simp [transition, h]

/-- An activity ends, and a call with it. -/
def ended (s : Session) (t : Nat) (call : Option Nat) (o : Outcome) : Session :=
  match call with
  | none => s.erase t
  | some call => s.answer t call o

theorem ended_core (s : Session) (t : Nat) (call : Option Nat) (o : Outcome) :
    (s.ended t call o).core = (s.erase t).core := by
  cases call <;> rfl

/-- A superseded attempt that fails ends, and that is all. -/
theorem dialDone_error_of_stale {g : Nat} (hg : s.generation ≠ g) (t : Nat) (call : Option Nat)
    (e : TransportError) : s.dialDone t call g (.error e) = s.ended t call (.failed (.connectionFailed e)) := by
  cases call <;> simp [dialDone, ended, failAttempt, transition_stale s hg]

/-- The link of a superseded attempt is closed. Yet the metrics are told of it, as of any link. -/
theorem dialDone_ok_of_stale {g : Nat} (hg : s.generation ≠ g) (t : Nat) (call : Option Nat) :
    s.dialDone t call g (.ok ()) =
      { s with
        links := s.links + 1
        metrics := s.metrics.newLink
        closed := s.closed ++ [s.links] }.ended t call (.failed .cancelled) := by
  cases call <;> simp [dialDone, ended, hg]

theorem dialDone_core_of_stale {g : Nat} (hg : s.generation ≠ g) (t : Nat) (call : Option Nat)
    (result : Except TransportError Unit) : (s.dialDone t call g result).core = (s.erase t).core := by
  cases result with
  | error e => rw [dialDone_error_of_stale hg, ended_core]
  | ok _ => rw [dialDone_ok_of_stale hg, ended_core]; rfl

theorem kept_dialDone (hi : Inv s) {call : Option Nat} {g : Nat} {peer : Peer}
    (h : s.task? t = some (.dial call g peer)) (result : Except TransportError Unit) :
    Kept s (s.dialDone t call g result) := by
  by_cases hg : s.generation = g
  · -- Of the present generation, so this is the one attempt.
    subst hg
    have ha := hi.attempts_of_task h (by simp)
    cases result with
    | error e =>
      apply (Kept.of_both (failed_attempt hi ha e.message)).congr
      cases call <;> rfl
    | ok _ =>
      -- Counting the link and telling the metrics of it change nothing that matters here.
      let s' := { s with links := s.links + 1, metrics := s.metrics.newLink }
      have hi' : Inv s' := hi.of_core (by rfl)
      simp only [dialDone, if_true]
      exact .of_both (inv_install hi' (hi'.attempts_of_task h (by simp [s'])) call rfl)
  · have hna : (Task.dial call g peer).isAttempt s.generation = false := by
      simp [Ne.symm hg]
    exact (Kept.erase hi ⟨_, h, hna, rfl⟩).congr (dialDone_core_of_stale hg t call result)

/-! ## Losing a link -/

/-- Without its link a session takes no notice of a loss. -/
theorem lose_other {g : Nat} (h : ∀ l, s.link = some l → l.generation ≠ g) (reason : String) (loss : Loss) :
    s.lose g reason loss = s := by
  unfold lose
  split
  · rfl
  · rename_i l hl
    simp [h l hl]

/-- The session without its link, which is to be closed. -/
def bereft (s : Session) (l : Link) : Session := s.letGo.spawn (.close l.number)

theorem bereft_frame (s : Session) (l : Link) : (s.bereft l).config = s.config ∧ (s.bereft l).peer = s.peer := by
  cases h : s.link <;> simp [bereft, letGo, h, supersede, cancel, spawn]

/-- A reconnect is due after its interval, or the session has failed. -/
theorem lose_core {l : Link} (h : s.link = some l) (reason : String) (loss : Loss) :
    (s.lose l.generation reason loss).core =
      if s.config.autoReconnect then
        { ((s.bereft l).spawn (.timer (s.bereft l).generation)).core with state := .reconnecting }
      else { (s.bereft l).core with state := .error reason } := by
  have hb : s.supersede.abandon l.number = s.bereft l := by simp [bereft, letGo, h, abandon]
  unfold lose
  simp only [h, if_true, hb]
  cases loss <;> cases hr : s.config.autoReconnect <;> simp [core, spawn, (s.bereft_frame l).1, hr]

theorem inv_spawn_timer (hb : Bare s) (hs : s.state.isAttempting) (hp : s.peer.isSome) (hj : s.isLeaving = false) :
    Inv (s.spawn (.timer s.generation)) ∧ Engaged (s.spawn (.timer s.generation)) := by
  have hnew : (Task.timer s.generation).isAttempt s.generation = true := by simp
  have hcount : (s.spawn (.timer s.generation)).attempts = 1 := by
    have := count_spawn s (.timer s.generation) (Task.isAttempt s.generation)
    rwa [show s.count _ = _ from hb.attempts, hnew] at this
  refine ⟨⟨hb.numbered.spawn _, ?_, ?_, ?_,
    fun _ => ⟨hcount, hs, hp⟩, ?_⟩, engaged_of_attempt (by omega) hs⟩
  · intro x hx g hxg
    rcases mem_spawn.1 hx with hx | rfl
    · exact hb.past x hx g hxg
    · simp only [Task.attempt?, Option.some.injEq] at hxg
      exact Nat.le_of_eq hxg.symm
  · intro u l hx
    rcases mem_spawn.1 hx with hx | hx
    · exact absurd hx (hb.unheard u l)
    · simp at hx
  · intro l hl
    simp [Session.spawn, hb.link] at hl
  · intro hl
    have hc := count_spawn_same s (show (Task.timer s.generation).isJoin = false from rfl)
    rw [isLeaving_eq, decide_eq_true_eq, hc] at hl
    rw [isLeaving_eq, decide_eq_false_iff_not] at hj
    exact absurd hl hj

theorem isLeaving_bereft {l : Link} (h : s.link = some l) : (s.bereft l).isLeaving = s.isLeaving := by
  have hc : (s.bereft l).count Task.isJoin = s.count Task.isJoin := by
    rw [bereft, count_spawn_same _ (show (Task.close l.number).isJoin = false from rfl)]
    simp only [letGo, h]
    exact count_cancel _ _ _ (Task.isJoin_told _)
  rw [isLeaving_eq, isLeaving_eq, hc]

theorem kept_lose (hi : Inv s) (g : Nat) (reason : String) (loss : Loss) : Kept s (s.lose g reason loss) := by
  by_cases hg : ∀ l, s.link = some l → l.generation ≠ g
  · rw [lose_other hg]; exact ⟨hi, id⟩
  · push Not at hg
    obtain ⟨l, hl, rfl⟩ := hg
    -- The installed link is lost. What follows depends on whether a reconnect is due.
    have hb : Bare (s.bereft l) := hi.bare_letGo.spawn (show (Task.close l.number).isPlain from rfl)
    have hc := lose_core hl reason loss
    cases hr : s.config.autoReconnect with
    | true =>
      simp only [hr, if_true] at hc
      let b := { s.bereft l with state := .reconnecting }
      have hb' : Bare b := hb.withState rfl
      have hj : b.isLeaving = false := by
        rw [show b.isLeaving = _ from isLeaving_bereft hl]
        by_contra hj
        have := (hi.leaving (by simpa using hj)).1
        simp [hl] at this
      have hp : b.peer.isSome := by
        rw [show b.peer = s.peer from (s.bereft_frame l).2]
        exact (hi.linked l hl).2.2
      exact (Kept.of_both (inv_spawn_timer hb' rfl hp hj)).congr hc
    | false =>
      simp only [hr, Bool.false_eq_true, if_false] at hc
      let b := { s.bereft l with state := .error reason }
      have hb' : Bare b := hb.withState rfl
      exact (Kept.of_both ⟨hb'.inv, engaged_of_canConnect rfl⟩).congr hc

theorem kept_linkEnded (hi : Inv s) {l : Link} (h : s.task? t = some (.listen l false)) (reason : String) :
    Kept s (s.linkEnded t l.generation reason) :=
  (Kept.erase hi ⟨_, h, rfl, rfl⟩).trans (kept_lose (hi.erase t) _ _ _)

/-- The interval before a reconnect has passed. -/
theorem kept_intervalOver (hi : Inv s) {g : Nat} (h : s.task? t = some (.timer g)) : Kept s (s.intervalOver t g) := by
  unfold intervalOver
  by_cases hg : s.generation = g
  · subst hg
    have ha := hi.attempts_of_task h (by simp)
    rw [if_pos rfl]
    split
    · rename_i hp
      simpa [hp] using ha.2.1
    · let s' := { s with stats := { s.stats with reconnectAttempts := s.stats.reconnectAttempts + 1 } }
      exact .of_both (inv_dial (s := s') (hi.of_core (by rfl)) ha none _)
  · have hna : (Task.timer g).isAttempt s.generation = false := by
      simp [Ne.symm hg]
    rw [if_neg hg]
    exact .erase hi ⟨_, h, hna, rfl⟩

/-! ## Disconnecting -/

/-- A session without link and attempts is released. -/
theorem inv_released (hb : Bare s) (t call : Nat) :
    Inv (s.release.answer t call .disconnected) ∧ Engaged (s.release.answer t call .disconnected) := by
  have hc : (s.release.answer t call .disconnected).core
      = { (s.erase t).core with state := (s.release.answer t call .disconnected).state } := by
    simp [core, answer, Session.erase, release]
  have hs : (s.release.answer t call .disconnected).state = .disconnected := by
    simp [answer, Session.erase, release]
  exact ⟨((hb.erase t).withState hc).inv, engaged_of_canConnect (by rw [hs]; rfl)⟩

theorem Inv.bare_of_join (hi : Inv s) {call link : Nat} (h : s.task? t = some (.join call link)) : Bare s := by
  have hj : s.isLeaving := by
    rw [isLeaving_eq, decide_eq_true_eq]
    exact count_pos_of_mem (task?_mem h) rfl
  exact hi.bare (hi.leaving hj).1 (hi.leaving hj).2

/-- With a link a disconnect is under way from now on, without one it is over at once. -/
theorem disconnect_cases (s : Session) (t call : Nat) :
    (∃ l, s.link = some l ∧ s.disconnect t call =
        { s.letGo.put t (.join call l.number) with closed := s.closed ++ [l.number] }) ∨
      (s.link = none ∧ s.state = .disconnected ∧ s.disconnect t call = s.letGo.answer t call .disconnected) ∨
      (s.link = none ∧ s.state ≠ .disconnected ∧
        s.disconnect t call = s.letGo.release.answer t call .disconnected) := by
  unfold disconnect letGo
  cases hl : s.link with
  | some l => exact .inl ⟨l, rfl, rfl⟩
  | none =>
    by_cases hs : s.state = .disconnected
    · exact .inr (.inl ⟨rfl, hs, if_pos hs⟩)
    · exact .inr (.inr ⟨rfl, hs, if_neg hs⟩)

theorem letGo_tasks (s : Session) :
    s.letGo.tasks = s.tasks ∨ ∃ n, s.letGo.tasks = s.tasks.map fun x => (x.1, x.2.told n) := by
  unfold letGo
  split
  · exact .inl rfl
  · exact .inr ⟨_, cancel_tasks _ _⟩

theorem kept_disconnect (hi : Inv s) {call : Nat} (h : s.task? t = some (.disconnect call)) :
    Kept s (s.disconnect t call) := by
  have hb := hi.bare_letGo
  rcases disconnect_cases s t call with ⟨l, -, he⟩ | ⟨hl, hs, he⟩ | ⟨-, -, he⟩ <;> rw [he]
  · have hi' : Inv (s.letGo.put t (.join call l.number)) := (hb.put t (.inr rfl)).inv
    refine Kept.congr ⟨hi', ?_⟩ (by rfl)
    intro _ hj
    -- This very disconnect is under way.
    have hm : (t, Task.disconnect call) ∈ s.letGo.tasks := by
      rcases letGo_tasks s with h' | ⟨n, h'⟩ <;> rw [h']
      · exact task?_mem h
      · exact List.mem_map.2 ⟨_, task?_mem h, rfl⟩
    have := count_pos_of_mem (p := Task.isJoin) (mem_put_self (hb.numbered.task?_of_mem hm) (.join call l.number)) rfl
    rw [isLeaving_eq, decide_eq_false_iff_not] at hj
    exact absurd this hj
  · refine .of_both ⟨(hb.erase t).inv.of_core (by rfl), engaged_of_canConnect ?_⟩
    simp [letGo, hl, answer, Session.erase, supersede, hs, ConnectionState.canConnect]
  · exact .of_both (inv_released hb t call)

theorem kept_joined (hi : Inv s) {call link : Nat} (h : s.task? t = some (.join call link)) :
    Kept s (s.joined t call) :=
  .of_both (inv_released (hi.bare_of_join h) t call)

/-! ## Sending -/

theorem concludeSend_core (s : Session) (t : Nat) (origin : Origin) (r : Except ClientError UInt32) :
    (s.concludeSend t origin r).core = (s.erase t).core := by
  cases origin with
  | call | echo => cases r <;> rfl
  | auth call => cases call <;> rfl

theorem kept_beginSend (hi : Inv s) {origin : Origin} {kind : PacketKind} {payload : Bytes}
    (h : s.task? t = some (.send origin kind payload)) : Kept s (s.beginSend t origin kind payload) := by
  unfold beginSend
  split
  · exact .put hi ⟨_, h, rfl, rfl⟩ rfl
  · exact (Kept.erase hi ⟨_, h, rfl, rfl⟩).congr (concludeSend_core ..)

theorem kept_beginWrite (hi : Inv s) (m : Moment) {origin : Origin} {kind : PacketKind} {payload : Bytes}
    (h : s.task? t = some (.queued origin kind payload)) : Kept s (s.beginWrite m t origin kind payload) := by
  have ht : Slight s t := ⟨_, h, rfl, rfl⟩
  unfold beginWrite
  split
  · exact (Kept.erase hi ht).congr (concludeSend_core ..)
  · simp only
    split
    · exact (Kept.erase hi ht).congr (concludeSend_core ..)
    · exact (Kept.put hi ht (show (Task.write origin _ _ _).isPlain from rfl)).congr (by rfl)

/-- The activities of a lost link's session are those there were, but for receive loops told to end. -/
theorem lose_mem {x : Nat × Task} (hx : x ∈ s.tasks) (hl : ∀ l c, x.2 ≠ .listen l c) (g : Nat)
    (reason : String) (loss : Loss) : x ∈ (s.lose g reason loss).tasks := by
  by_cases hg : ∀ l, s.link = some l → l.generation ≠ g
  · rw [lose_other hg]; exact hx
  · push Not at hg
    obtain ⟨l, h, rfl⟩ := hg
    have hb : x ∈ (s.bereft l).tasks := by
      refine mem_spawn.2 (.inl ?_)
      simp only [letGo, h]
      refine mem_cancel.2 ⟨x, hx, ?_⟩
      obtain ⟨u, task⟩ := x
      cases task <;> simp_all [Task.told]
    have hc := congrArg Core.tasks (lose_core h reason loss)
    change (s.lose l.generation reason loss).tasks = _ at hc
    rw [hc]
    split
    · exact mem_spawn.2 (.inl hb)
    · exact hb

theorem kept_countFailure (hi : Inv s) (g : Nat) : Kept s (s.countFailure g) := by
  unfold countFailure
  simp only
  split
  · exact (Kept.of_core hi (by rfl)).trans (kept_lose (hi.of_core (by rfl)) _ _ _)
  · exact .of_core hi (by rfl)

theorem countFailure_mem {x : Nat × Task} (hx : x ∈ s.tasks) (hl : ∀ l c, x.2 ≠ .listen l c) (g : Nat) :
    x ∈ (s.countFailure g).tasks := by
  unfold countFailure
  simp only
  split
  · exact lose_mem (s := { s with failures := 0 }) hx hl _ _ _
  · exact hx

theorem kept_writeDone (hi : Inv s) {origin : Origin} {link : Link} {sequence : UInt32} {message : Bytes}
    (h : s.task? t = some (.write origin link sequence message)) (result : Except TransportError Unit) :
    Kept s (s.writeDone t origin link sequence message result) := by
  have ht : Slight s t := ⟨_, h, rfl, rfl⟩
  unfold writeDone
  cases result with
  | ok _ => exact (Kept.erase hi ht).congr (concludeSend_core ..)
  | error e =>
    simp only
    split
    · -- The write is still there when the link it failed on is taken away.
      let s' := { s with stats := { s.stats with sendFailures := s.stats.sendFailures + 1 } }
      have hi' : Inv s' := hi.of_core (by rfl)
      have hk := kept_countFailure hi' link.generation
      have hm := countFailure_mem (s := s') (x := (t, .write origin link sequence message))
        (task?_mem (s := s') h) (by simp) link.generation
      have he := Kept.erase hk.inv ⟨_, hk.inv.numbered.task?_of_mem hm, rfl, rfl⟩
      exact ((Kept.of_core hi (by rfl)).trans hk).trans (he.congr (concludeSend_core ..))
    · exact (Kept.erase hi ht).congr (concludeSend_core ..)

/-! ## Receiving -/

/-- Media makes a connected session a streaming one. -/
theorem kept_streaming (hi : Inv s) (g : Nat) : Kept s (s.transition g (· = .connected) .streaming) := by
  by_cases h : s.generation = g ∧ s.state = .connected
  · have hst : (s.transition g (· = .connected) .streaming).state = .streaming := by simp [h.1, h.2]
    refine ⟨hi.withState (transition_core ..) (fun _ => by rw [hst]; rfl) ?_, ?_⟩
    · intro ha
      have := (hi.attempting ha).2.1
      simp [h.2, ConnectionState.isAttempting] at this
    · intro he hj
      have := (he (by simpa [isLeaving] using hj)).1 (by rw [h.2]; rfl)
      refine ⟨fun _ => by simpa using this, ?_⟩
      intro ha
      rw [hst] at ha
      exact absurd ha (by decide)
  · have : s.transition g (· = .connected) .streaming = s := by
      simp only [transition, decide_eq_true_eq]
      exact if_neg fun hc => h ⟨hc.1, hc.2.1⟩
    rw [this]
    exact ⟨hi, id⟩

theorem kept_media (hi : Inv s) (g : Nat) (p : Packet) : Kept s (s.media g p) := by
  let s' := { s with pipeline := (s.pipeline.submit p).1 }
  have hi' : Inv s' := hi.of_core (by rfl)
  unfold media
  simp only
  split
  · exact .of_core hi (by rfl)
  · exact (Kept.of_core hi (by rfl)).trans (kept_streaming hi' g)

theorem kept_packet (hi : Inv s) (m : Moment) (g : Nat) (p : Packet) : Kept s (s.packet m g p) := by
  let s' := { s with metrics := s.metrics.record p m.wall m.mono }
  have hi' : Inv s' := hi.of_core (by rfl)
  have hk : Kept s s' := .of_core hi (by rfl)
  unfold packet
  cases p.kind with
  | video | audio => exact hk.trans (kept_media hi' g p)
  | keepAlive => exact hk.trans (.spawn hi' rfl)
  | control | auth | input => exact .of_core hi (by rfl)

theorem kept_receive (hi : Inv s) (m : Moment) (g : Nat) (message : Bytes) : Kept s (s.receive m g message) := by
  unfold receive
  split
  · exact .of_core hi (by rfl)
  · split
    · exact .of_core hi (by rfl)
    · exact kept_packet hi m g _

/-! ## Steps and runs -/

/-- A step of a held session. -/
theorem kept_step (hi : Inv s) (m : Moment) {e : Event} (he : e ≠ .letGo) : Kept s (s.step m e) := by
  have hm := move_step s m e
  generalize s.step m e = s' at hm ⊢
  cases hm with
  | rest => exact ⟨hi, id⟩
  | call task hp => exact .spawn hi hp
  | connect t call peer h hj => exact kept_connect hi h hj
  | disconnect t call h => exact kept_disconnect hi h
  | joined t call link h => exact kept_joined hi h
  | beginSend t origin kind payload h => exact kept_beginSend hi h
  | beginWrite t origin kind payload h => exact kept_beginWrite hi m h
  | close t link h => exact (Kept.erase hi ⟨_, h, rfl, rfl⟩).congr (by rfl)
  | unlisten t l h => exact .erase hi ⟨_, h, rfl, rfl⟩
  | dialDone t call g peer result h => exact kept_dialDone hi h result
  | intervalOver t g h => exact kept_intervalOver hi h
  | writeDone t origin l sequence message result h => exact kept_writeDone hi h result
  | receive t l message => exact kept_receive hi m _ message
  | linkEnded t l reason h => exact kept_linkEnded hi h reason
  | letGo => exact absurd rfl he
  | tick | work | pop | setVolume | authenticate | logout | free => exact .of_core hi (by rfl)

/-- Every step, also the letting go. -/
theorem inv_step (hi : Inv s) (m : Moment) (e : Event) : Inv (s.step m e) := by
  by_cases he : e = .letGo
  · subst he; exact hi.bare_letGo.inv
  · exact (kept_step hi m he).inv

/-- What every step allowed in a run keeps, the run keeps. -/
theorem run_keeps {P : Session → Prop} {A : Event → Prop}
    (hstep : ∀ s m e, A e → P s → P (s.step m e)) {events : List (Moment × Event)}
    (he : ∀ x ∈ events, A x.2) (hs : P s) : P (s.run events) := by
  induction events generalizing s with
  | nil => exact hs
  | cons x events ih =>
    rw [List.forall_mem_cons] at he
    exact ih he.2 (hstep s x.1 x.2 he.1 hs)

theorem inv_run (hi : Inv s) (events : List (Moment × Event)) : Inv (s.run events) :=
  run_keeps (P := Inv) (A := fun _ => True) (fun _ m e _ hi => inv_step hi m e) (by simp) hi

theorem kept_run (hi : Inv s) (he : Engaged s) {events : List (Moment × Event)}
    (hold : ∀ x ∈ events, x.2 ≠ .letGo) :
    Inv (s.run events) ∧ Engaged (s.run events) := by
  refine run_keeps (P := fun s => Inv s ∧ Engaged s) (A := (· ≠ .letGo)) ?_ hold ⟨hi, he⟩
  intro s m e hne h
  have hk := kept_step h.1 m hne
  exact ⟨hk.inv, hk.engaged h.2⟩

theorem bare_ofConfig (config : SessionConfig) (ring : KeyRing) (format : PcmFormat) :
    Bare (ofConfig config ring format) :=
  ⟨⟨List.nodup_nil, by simp [ofConfig]⟩, by simp [ofConfig], by simp [ofConfig], rfl, rfl⟩

/-! ## Small runs -/

/-- Nothing is sealed, and no token is sent. -/
def plain : Session := ofConfig { encrypt := false, sendAuthToken := false } ⟨none, none⟩ .s16le

/-- The moment at which clocks stand still. -/
def still : Moment := ⟨0, 0, ⟨List.replicate 12 0, rfl⟩⟩

/-- Events of one moment. -/
def atOnce (events : List Event) : List (Moment × Event) := events.map fun e => (still, e)

end DeskStream.Session

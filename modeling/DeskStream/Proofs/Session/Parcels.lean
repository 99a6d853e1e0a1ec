import DeskStream.Proofs.Session.Messages
import DeskStream.Proofs.Session.Outgoing
/-!
# Where packets come from

A send begins with a call of the user, with a new link if there is a token for it, or with a keep-alive that arrives
(`parcel?`), and in no other way (`begun_step`). It goes on under a number that is new, or that of the attempt which had
the link.
-/

namespace DeskStream.Session

open Wire

/-- A packet to send, for whom, and the number under which its send goes on. -/
structure Parcel where
  send : Nat
  origin : Origin
  kind : PacketKind
  payload : Bytes
  deriving DecidableEq

/-- The activity with which it begins. -/
def Parcel.entry (p : Parcel) : Nat × Task := (p.send, .send p.origin p.kind p.payload)

variable {start s s' s'' : Session} {m : Moment} {e : Event} {t : Nat} {task new : Task} {p : Parcel}

/-! ## How sends begin -/

/-- The token that is sent when a connector call of a generation has handed over a link. -/
def token? (s : Session) (t : Nat) (call : Option Nat) (g : Nat) : Option Parcel :=
  if s.generation = g ∧ s.config.sendAuthToken then
    s.ring.token?.map fun token => ⟨t, .auth call, .auth, token.text.toUTF8.toList⟩
  else none

/-- The answer to a packet: a keep-alive is sent back. -/
def echo? (s : Session) (p : Packet) : Option Parcel :=
  if p.kind = .keepAlive then some ⟨s.spawned, .echo, .keepAlive, p.payload⟩ else none

/-- The parcel that begins in a step. -/
def parcel? (s : Session) : Event → Option Parcel
  | .callSend call kind payload => some ⟨s.spawned, .call call, kind, payload⟩
  | .dialDone t (.ok _) =>
    match s.task? t with
    | some (.dial call g _) => s.token? t call g
    | _ => none
  | e => (s.arrival? e).bind s.echo?

/-- Why a parcel begins in a step. -/
inductive Cause (s : Session) : Event → Parcel → Prop where
  | call (call : Nat) (kind : PacketKind) (payload : Bytes) :
    Cause s (.callSend call kind payload) ⟨s.spawned, .call call, kind, payload⟩
  /-- A link is installed, and there is a token to send. -/
  | token (t : Nat) (call : Option Nat) (peer : Peer) (token : Token)
    (h : s.task? t = some (.dial call s.generation peer)) (hs : s.config.sendAuthToken) (ht : s.ring.token? = some token) :
    Cause s (.dialDone t (.ok ())) ⟨t, .auth call, .auth, token.text.toUTF8.toList⟩
  | keepAlive {e : Event} (packet : Packet) (h : s.arrival? e = some packet) (hk : packet.kind = .keepAlive) :
    Cause s e ⟨s.spawned, .echo, .keepAlive, packet.payload⟩

theorem Cause.of_echo? (h : (s.arrival? e).bind s.echo? = some p) : Cause s e p := by
  obtain ⟨packet, ha, he⟩ := Option.bind_eq_some_iff.1 h
  unfold echo? at he
  split at he
  · cases he
    exact .keepAlive packet ha ‹_›
  · cases he

theorem parcel?_eq_some_iff : s.parcel? e = some p ↔ Cause s e p := by
  constructor
  · intro h
    cases e with
    | callSend call kind payload =>
      cases h
      exact .call ..
    | dialDone t result =>
      cases result with
      | error e => cases h
      | ok _ =>
        simp only [parcel?] at h
        split at h
        · rename_i call g peer ht
          unfold token? at h
          split at h
          · obtain ⟨rfl, hs⟩ := ‹_ ∧ _›
            obtain ⟨token, htoken, rfl⟩ := Option.map_eq_some_iff.1 h
            exact .token t call peer token ht hs htoken
          · cases h
        · cases h
    | receive t message => exact .of_echo? h
    | callConnect | callDisconnect | run | intervalOver | writeDone | linkEnded | tick | work | pop | setVolume
      | authenticate | logout | letGo | free => cases h
  · intro h
    cases h with
    | call => rfl
    | token t call peer token h hs ht => simp [parcel?, h, token?, hs, ht]
    | keepAlive packet h hk =>
      have he : (s.arrival? e).bind s.echo? = some ⟨s.spawned, .echo, .keepAlive, packet.payload⟩ := by
        rw [h]
        exact if_pos hk
      cases e <;> first | exact he | cases h

/-- The parcels that begin in a run, in order. -/
def parcels (s : Session) : List (Moment × Event) → List Parcel
  | [] => []
  | x :: events => (s.parcel? x.2).toList ++ (s.step x.1 x.2).parcels events

theorem parcels_append (s : Session) (events more : List (Moment × Event)) :
    s.parcels (events ++ more) = s.parcels events ++ (s.run events).parcels more := by
  induction events generalizing s with
  | nil => rfl
  | cons x events ih => simp [parcels, ih, run]

theorem parcels_concat (start : Session) (events : List (Moment × Event)) (m : Moment) (e : Event) :
    start.parcels (events ++ [(m, e)]) = start.parcels events ++ ((start.run events).parcel? e).toList := by
  simp [parcels_append, parcels]

theorem cause_of_mem_parcels {events : List (Moment × Event)} (h : p ∈ s.parcels events) :
    ∃ before m e after, events = before ++ (m, e) :: after ∧ (s.run before).Cause e p := by
  induction events generalizing s with
  | nil => cases h
  | cons x events ih =>
    rcases List.mem_append.1 h with h | h
    · exact ⟨[], x.1, x.2, events, rfl, parcel?_eq_some_iff.1 (Option.mem_toList.1 h)⟩
    · obtain ⟨before, m, e, after, rfl, hc⟩ := ih h
      exact ⟨x :: before, m, e, after, rfl, hc⟩

/-! ## Operations by which none begins -/

/-- Sends that wait to be looked at did so before. -/
structure NoneBegun (s s' : Session) : Prop where
  sends : ∀ x ∈ s'.tasks, x.2.isSend → x ∈ s.tasks

namespace NoneBegun

theorem of_tasks (h : s'.tasks = s.tasks) : NoneBegun s s' := ⟨fun _ hx _ => h ▸ hx⟩

theorem of_core (h : NoneBegun s s') (hc : s''.core = s'.core) : NoneBegun s s'' := by
  refine ⟨fun x hx => ?_⟩
  rw [show s''.tasks = s'.tasks from congrArg Core.tasks hc] at hx
  exact h.sends x hx

theorem refl (s : Session) : NoneBegun s s := of_tasks rfl

theorem trans (h : NoneBegun s s') (h' : NoneBegun s' s'') : NoneBegun s s'' :=
  ⟨fun x hx hs => h.sends x (h'.sends x hx hs) hs⟩

/-- What is around the activities may change first. -/
theorem of_eq (h : NoneBegun s' s'') (ht : s'.tasks = s.tasks) : NoneBegun s s'' := (of_tasks ht).trans h

theorem spawn (s : Session) (h : new.isSend = false) : NoneBegun s (s.spawn new) := by
  refine ⟨fun x hx hs => ?_⟩
  rcases mem_spawn.1 hx with hx | rfl
  · exact hx
  · simp [h] at hs

theorem put (s : Session) (t : Nat) (h : new.isSend = false) : NoneBegun s (s.put t new) := by
  refine ⟨fun x hx hs => ?_⟩
  rcases mem_put hx with hx | rfl
  · exact hx
  · simp [h] at hs

theorem erase (s : Session) (t : Nat) : NoneBegun s (s.erase t) := ⟨fun _ hx _ => (mem_erase.1 hx).1⟩

theorem answer (s : Session) (t call : Nat) (o : Outcome) : NoneBegun s (s.answer t call o) :=
  (erase s t).trans (of_tasks rfl)

theorem told {n : Nat} (h : s'.tasks = s.tasks.map fun x => (x.1, x.2.told n)) : NoneBegun s s' := by
  refine ⟨fun x hx hs => ?_⟩
  rw [h] at hx
  obtain ⟨⟨u, task⟩, hy, rfl⟩ := List.mem_map.1 hx
  cases task <;> first | exact hy | cases hs

theorem transition (s : Session) (g : Nat) (allowed : ConnectionState → Bool) (next : ConnectionState) :
    NoneBegun s (s.transition g allowed next) :=
  of_tasks (transition_frame ..).2.2.2.2.1

theorem letGo (s : Session) : NoneBegun s s.letGo := by
  rcases letGo_tasks s with h | ⟨n, h⟩
  · exact of_tasks h
  · exact told h

theorem dial (s : Session) (t : Nat) (call : Option Nat) (g : Nat) (peer : Peer) :
    NoneBegun s (s.dial t call g peer) := by
  rcases dial_core s t call g peer with hc | hc
  · exact (put s t rfl).of_core hc
  · exact ((transition s ..).trans (erase _ t)).of_core hc

theorem lose (s : Session) (g : Nat) (reason : String) (loss : Loss) : NoneBegun s (s.lose g reason loss) := by
  by_cases hg : ∀ l, s.link = some l → l.generation ≠ g
  · rw [lose_other hg]
    exact refl s
  · push Not at hg
    obtain ⟨l, hl, rfl⟩ := hg
    have hb : NoneBegun s (s.bereft l) := (letGo s).trans (spawn _ rfl)
    have hc := congrArg Core.tasks (lose_core hl reason loss)
    split at hc
    · exact hb.trans ((spawn (s.bereft l) rfl).trans (of_tasks hc))
    · exact hb.trans (of_tasks hc)

theorem concludeSend (s : Session) (t : Nat) (origin : Origin) (r : Except ClientError UInt32) :
    NoneBegun s (s.concludeSend t origin r) :=
  (erase s t).of_core (concludeSend_core ..)

theorem beginWrite (s : Session) (m : Moment) (t : Nat) (origin : Origin) (kind : PacketKind) (payload : Bytes) :
    NoneBegun s (s.beginWrite m t origin kind payload) := by
  cases hl : s.link with
  | none =>
    simp only [Session.beginWrite, hl]
    exact concludeSend ..
  | some l =>
    let s₁ := { s with sequence := s.sequence + 1 }
    rw [beginWrite_of_link hl]
    split
    · exact .of_eq (concludeSend s₁ ..) rfl
    · exact .of_eq (put s₁ t rfl) rfl

theorem writeDone (s : Session) (t : Nat) (origin : Origin) (l : Link) (n : UInt32) (message : Bytes)
    (result : Except TransportError Unit) : NoneBegun s (s.writeDone t origin l n message result) := by
  unfold Session.writeDone
  cases result with
  | ok _ => exact .of_eq (concludeSend ..) rfl
  | error e =>
    simp only
    split
    · refine NoneBegun.trans ?_ (concludeSend ..)
      unfold countFailure
      simp only
      split
      · exact .of_eq (lose ..) rfl
      · exact of_tasks rfl
    · exact .of_eq (concludeSend ..) rfl

theorem release (s : Session) : NoneBegun s s.release := .of_eq (transition ..) rfl

theorem disconnect (s : Session) (t call : Nat) : NoneBegun s (s.disconnect t call) := by
  rcases disconnect_cases s t call with ⟨l, -, he⟩ | ⟨-, -, he⟩ | ⟨-, -, he⟩ <;> rw [he]
  · exact ((letGo s).trans (put _ t rfl)).trans (of_tasks rfl)
  · exact (letGo s).trans (answer ..)
  · exact ((letGo s).trans (release _)).trans (answer ..)

theorem joined (s : Session) (t call : Nat) : NoneBegun s (s.joined t call) :=
  (release s).trans (answer ..)

theorem intervalOver (s : Session) (t g : Nat) : NoneBegun s (s.intervalOver t g) := by
  unfold Session.intervalOver
  split
  · split
    · exact erase s t
    · exact .of_eq (dial ..) rfl
  · exact erase s t

theorem connect (hi : Inv s) (t call : Nat) (peer : Peer) : NoneBegun s (s.connect t call peer) := by
  by_cases hs : s.state.canConnect
  · rw [connect_of_canConnect s t call peer hs (hi.idle hs).1]
    exact .of_eq (dial (s.accepted peer) ..) rfl
  · rw [Session.connect, if_neg hs]
    exact answer ..

/-- An activity that goes on begins no send. -/
theorem resume (hi : Inv s) (m : Moment) (t : Nat) (task : Task) : NoneBegun s (s.resume m t task) := by
  cases task with
  | connect call peer =>
    simp only [Session.resume]
    split
    · exact refl s
    · exact connect hi ..
  | disconnect call =>
    simp only [Session.resume]
    split
    · exact refl s
    · exact disconnect ..
  | join call link =>
    simp only [Session.resume]
    split
    · exact refl s
    · exact joined ..
  | send origin kind payload =>
    simp only [Session.resume, beginSend]
    split
    · exact put s t rfl
    · exact concludeSend ..
  | queued origin kind payload =>
    simp only [Session.resume]
    split
    · exact refl s
    · exact beginWrite ..
  | close link => exact (erase s t).trans (of_tasks rfl)
  | listen l cancelled =>
    simp only [Session.resume]
    split
    · exact erase s t
    · exact refl s
  | dial | write | timer => exact refl s

end NoneBegun

/-! ## Every step -/

/-- A step begins the parcel that it is said to, and no other send. -/
structure Begun (s s' : Session) (parcel : Option Parcel) : Prop where
  old : ∀ x ∈ s'.tasks, x.2.isSend → x ∈ s.tasks ∨ ∃ p, parcel = some p ∧ x = p.entry
  new : ∀ p, parcel = some p → p.entry ∈ s'.tasks ∧
    (p.send = s.spawned ∨ ∃ task, s.task? p.send = some task ∧ task.isSending = false)

theorem NoneBegun.begun (h : NoneBegun s s') {parcel : Option Parcel} (hp : parcel = none) : Begun s s' parcel := by
  subst hp
  exact ⟨fun x hx hs => .inl (h.sends x hx hs), nofun⟩

/-- A send begins under a new number. -/
theorem begun_spawn (hp : p.send = s.spawned) (ht : s'.tasks = s.tasks ++ [p.entry]) : Begun s s' (some p) where
  old x hx _ := by
    rw [ht] at hx
    exact (List.mem_append.1 hx).imp_right fun hx => ⟨p, rfl, List.mem_singleton.1 hx⟩
  new := by
    rintro _ ⟨⟩
    exact ⟨by simp [ht], .inl hp⟩

/-- What is no send turns into one. -/
theorem begun_put (h : s.task? p.send = some task) (hs : task.isSending = false) (hn : NoneBegun s s')
    (ht : (p.send, task) ∈ s'.tasks) : Begun s (s'.put p.send (.send p.origin p.kind p.payload)) (some p) where
  old x hx hsend := by
    rcases mem_put hx with hx | rfl
    · exact .inl (hn.sends x hx hsend)
    · exact .inr ⟨p, rfl, rfl⟩
  new := by
    rintro _ ⟨⟩
    exact ⟨List.mem_map.2 ⟨_, ht, by simp [Parcel.entry]⟩, .inr ⟨task, h, hs⟩⟩

/-- An attempt that has a link goes on with the token, or ends. -/
theorem install_eq {l : Link} (hs : s.state.isAttempting) (hg : l.generation = s.generation) (t : Nat)
    (call : Option Nat) :
    s.install t call l =
      match s.token? t call s.generation with
      | some p => (s.linked l).put p.send (.send p.origin p.kind p.payload)
      | none => (s.linked l).ended t call (.connected .connected) := by
  have hne : s.state ≠ .connected := by rintro h; simp [h, ConnectionState.isAttempting] at hs
  have up : ({ s with link := some l }.spawn (.listen l false)).transition l.generation (·.isAttempting) .connected
      = s.linked l := by
    simp [transition, spawn, linked, hs, hg, hne]
  have hconfig : (s.linked l).config = s.config := rfl
  have hring : (s.linked l).ring = s.ring := rfl
  simp only [install, up, hconfig, hring, token?, true_and]
  cases s.config.sendAuthToken with
  | false => cases call <;> rfl
  | true =>
    cases s.ring.token? with
    | none => cases call <;> rfl
    | some token => rfl

theorem NoneBegun.ended (s : Session) (t : Nat) (call : Option Nat) (o : Outcome) : NoneBegun s (s.ended t call o) := by
  cases call with
  | none => exact erase s t
  | some call => exact answer ..

theorem begun_dialDone (hi : Inv s) {call : Option Nat} {g : Nat} {peer : Peer} (h : s.task? t = some (.dial call g peer))
    (result : Except TransportError Unit) : Begun s (s.dialDone t call g result) (s.parcel? (.dialDone t result)) := by
  cases result with
  | error e =>
    have hf : NoneBegun s (s.failAttempt g e.message) := .transition ..
    refine NoneBegun.begun ?_ rfl
    cases call with
    | none => exact hf.trans (.erase _ t)
    | some call => exact hf.trans (.answer ..)
  | ok _ =>
    have hp : s.parcel? (.dialDone t (.ok ())) = s.token? t call g := by simp only [parcel?, h]
    rw [hp]
    by_cases hg : s.generation = g
    · subst hg
      -- The one attempt there is, so the link is installed.
      let s₁ := { s with links := s.links + 1, metrics := s.metrics.newLink }
      have ha := (hi.attempts_of_task h (by simp)).1
      have hlisten : (Task.listen ⟨s.links, s.generation⟩ false).isSend = false := rfl
      have hlinked : NoneBegun s (s₁.linked ⟨s.links, s.generation⟩) := (NoneBegun.spawn s hlisten).trans (.of_tasks rfl)
      have he : s.dialDone t call s.generation (.ok ()) = s₁.install t call ⟨s.links, s.generation⟩ := if_pos rfl
      rw [he, install_eq (s := s₁) (l := ⟨s.links, s.generation⟩) ha rfl t call]
      change Begun s (match s.token? t call s.generation with
        | some p => (s₁.linked _).put p.send (.send p.origin p.kind p.payload)
        | none => (s₁.linked _).ended t call (.connected .connected)) _
      cases htoken : s.token? t call s.generation with
      | none => exact (hlinked.trans (.ended ..)).begun rfl
      | some p =>
        have ht : p.send = t := by
          unfold token? at htoken
          split at htoken
          · obtain ⟨token, -, rfl⟩ := Option.map_eq_some_iff.1 htoken
            rfl
          · cases htoken
        subst ht
        exact begun_put h rfl hlinked (List.mem_append_left _ (task?_mem h))
    · refine NoneBegun.begun ((NoneBegun.erase s t).of_core (dialDone_core_of_stale hg ..)) ?_
      rw [token?, if_neg fun h => hg h.1]

theorem begun_receive (hi : Inv s) (m : Moment) {l : Link} (h : s.task? t = some (.listen l false)) (message : Bytes) :
    Begun s (s.receive m l.generation message) (s.parcel? (.receive t message)) := by
  have ht := (handled_receive hi (hi.heard t l (task?_mem h)) m message).tasks
  have hp : s.parcel? (.receive t message) = (s.reading message).packet?.bind s.echo? := by
    simp only [parcel?, arrival?, h]
  rw [hp]
  cases hr : s.reading message with
  | closed | garbled =>
    rw [hr] at ht
    exact (NoneBegun.of_tasks (ht.trans (List.append_nil _))).begun rfl
  | packet p =>
    rw [hr] at ht
    by_cases hk : p.kind = .keepAlive
    · have he : (Reading.packet p).packet?.bind s.echo? = some ⟨s.spawned, .echo, .keepAlive, p.payload⟩ := if_pos hk
      rw [he]
      exact begun_spawn rfl (by simpa [Reading.echo?, Parcel.entry, hk] using ht)
    · refine NoneBegun.begun (.of_tasks ?_) (if_neg hk)
      simpa [Reading.echo?, hk] using ht

theorem begun_step (hi : Inv s) (m : Moment) (e : Event) : Begun s (s.step m e) (s.parcel? e) := by
  cases e with
  | callSend call kind payload => exact begun_spawn rfl rfl
  | dialDone t result =>
    by_cases h : ∃ call g peer, s.task? t = some (.dial call g peer)
    · obtain ⟨call, g, peer, h⟩ := h
      simp only [step, h]
      exact begun_dialDone hi h result
    · rw [step_dialDone_idle h]
      refine (NoneBegun.refl s).begun ?_
      cases result with
      | error _ => rfl
      | ok _ =>
        simp only [parcel?]
        split
        · exact absurd ⟨_, _, _, ‹_›⟩ h
        · rfl
  | receive t message =>
    by_cases h : ∃ l, s.task? t = some (.listen l false)
    · obtain ⟨l, h⟩ := h
      simp only [step, h]
      exact begun_receive hi m h message
    · rw [step_receive_idle h]
      exact (NoneBegun.refl s).begun (by simp only [parcel?, arrival?_idle h, Option.bind_none])
  | run t =>
    refine NoneBegun.begun ?_ rfl
    simp only [step]
    split
    · exact .resume hi ..
    · exact .refl s
  | intervalOver t =>
    refine NoneBegun.begun ?_ rfl
    simp only [step]
    split
    · exact .intervalOver ..
    · exact .refl s
  | writeDone t result =>
    refine NoneBegun.begun ?_ rfl
    simp only [step]
    split
    · exact .writeDone ..
    · exact .refl s
  | linkEnded t reason =>
    refine NoneBegun.begun ?_ rfl
    simp only [step]
    split
    · exact (NoneBegun.erase s t).trans (.lose ..)
    · exact .refl s
  | callConnect | callDisconnect => exact (NoneBegun.spawn s rfl).begun rfl
  | letGo => exact (NoneBegun.letGo s).begun rfl
  | tick | work | pop | setVolume | authenticate | logout | free => refine NoneBegun.begun (.of_tasks ?_) ?_ <;> rfl

end DeskStream.Session

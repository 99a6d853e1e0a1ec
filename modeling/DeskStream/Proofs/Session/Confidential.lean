import DeskStream.Proofs.Security.Layout
import DeskStream.Proofs.Session.Outgoing
import DeskStream.Proofs.Session.Transitions
/-!
# Sealed traffic

A session that seals asks for keys at three places: before the connector is called, when a packet has its
turn to be written, and when a message is received. Keys may be given up and replaced between any two of
these, so each is about the keys held just then (`confidential_run`).
-/

namespace DeskStream.Session

open Wire SendMark

variable {start s s' s₁ : Session} {m : Moment} {e : Event} {t link : Nat} {message : Bytes}
  {events : List (Moment × Event)}

/-! ## What links are handed -/

theorem message_eq_ok_iff (he : s.config.encrypt = true) {p : Packet} :
    s.message m p = .ok message ↔
      ∃ keys, s.ring.keys = some keys ∧ Sealed.ofMessage keys.key m.nonce p.encode = some message := by
  rw [Session.message, if_pos he, KeyRing.encrypt]
  cases s.ring.keys with
  | none => simp
  | some keys => cases hs : Sealed.ofMessage keys.key m.nonce p.encode <;> simp [hs]

/-- Without keys nothing is sealed. -/
theorem message_of_keys_eq_none (he : s.config.encrypt = true) (hk : s.ring.keys = none) (p : Packet) :
    s.message m p = .error .notAuthenticated := by
  rw [Session.message, if_pos he, KeyRing.encrypt, hk]

/-- A queued packet has its turn, and the installed link is handed its sealing under the key held. -/
structure Seals (s : Session) (m : Moment) (t : Nat) (p : Packet) (link : Nat) (message : Bytes) : Prop where
  turn : ∃ origin, s.task? t = some (.queued origin p.kind p.payload)
  link : ∃ l, s.link = some l ∧ l.number = link
  key : ∃ keys, s.ring.keys = some keys ∧ Sealed.ofMessage keys.key m.nonce p.encode = some message

/-- A sealed packet is longer than the packet. -/
theorem Seals.length {p : Packet} (h : s.Seals m t p link message) :
    message.length = p.encode.length + Sealed.minSize := by
  obtain ⟨keys, -, hs⟩ := h.key
  rw [(Sealed.ofMessage_eq_some_iff.1 hs).2, Sealed.length_ofParts]

theorem handed_step (hi : Inv s) (he : s.config.encrypt = true) (m : Moment) (e : Event)
    (h : (s.step m e).Handed link message) :
    s.Handed link message ∨ ∃ t p, e = .run t ∧ s.Seals m t p link message := by
  obtain ⟨t, origin, l, n, hx, hl⟩ := h
  rcases (dispatch_step hi m e).begun (inv_step hi m e).numbered hx rfl with hx | ⟨-, rfl, -, h⟩
  · exact .inl ⟨t, origin, l, n, hx, hl⟩
  · obtain ⟨origin', kind, payload, l', message', ht, hl', hm, hw⟩ := h
    cases hw
    exact .inr ⟨t, ⟨kind, m.wall, s.sequence, payload⟩, rfl, ⟨_, ht⟩, ⟨l, hl', hl⟩, (message_eq_ok_iff he).1 hm⟩

/-- What a link takes was handed to it. -/
theorem handed_of_written_step (hi : Inv s) (m : Moment) (e : Event)
    (h : (link, message) ∈ (s.step m e).written) : (link, message) ∈ s.written ∨ s.Handed link message := by
  rw [written_step hi, List.mem_append] at h
  refine h.imp_right ?_
  have hd := dispatch_step hi m e
  generalize s.marks m e = marks at hd ⊢
  intro h
  cases hd with
  | @taken t origin l n message' ht =>
    obtain ⟨rfl, rfl⟩ : link = l.number ∧ message = message' := by simpa [Delivery.item] using h
    exact ⟨t, origin, l, n, task?_mem ht, rfl⟩
  | aside | connect | wait | refuse | unsealed | hand | failed => simp at h

/-- In a run, a link was handed this message as the sealing of a packet. -/
def SealedIn (start : Session) (events : List (Moment × Event)) (link : Nat) (message : Bytes) : Prop :=
  ∃ before m t after p, events = before ++ (m, .run t) :: after ∧ (start.run before).Seals m t p link message ∧
    message.length = p.encode.length + Sealed.minSize

theorem SealedIn.append (h : start.SealedIn events link message) (more : List (Moment × Event)) :
    start.SealedIn (events ++ more) link message := by
  obtain ⟨before, m, t, after, p, rfl, h⟩ := h
  exact ⟨before, m, t, after ++ more, p, by simp, h⟩

theorem sealed_run (hi : Inv start) (hh : ∀ link message, ¬ start.Handed link message) (hw : start.written = [])
    (he : start.config.encrypt = true) (events : List (Moment × Event)) (link : Nat) (message : Bytes)
    (h : (start.run events).Handed link message ∨ (link, message) ∈ (start.run events).written) :
    start.SealedIn events link message := by
  induction events using List.reverseRecOn with
  | nil =>
    rcases h with h | h
    · exact absurd h (hh _ _)
    · simp [run, hw] at h
  | append_singleton events x ih =>
    have hi' := inv_run hi events
    have he' : (start.run events).config.encrypt = true := by rw [config_run, he]
    rw [run_concat] at h
    rcases h with h | h
    · rcases handed_step hi' he' x.1 x.2 h with h | ⟨t, p, ht, h⟩
      · exact (ih (.inl h)).append [x]
      · exact ⟨events, x.1, t, [], p, by simp [← ht], h, h.length⟩
    · exact (ih (handed_of_written_step hi' x.1 x.2 h).symm).append [x]

/-! ## Sends without keys -/

/-- All through a run a link is installed and no keys are held. -/
def Keyless (s : Session) : List (Moment × Event) → Prop
  | [] => True
  | x :: events => (s.link.isSome ∧ s.ring.keys = none) ∧ (s.step x.1 x.2).Keyless events

/-- Nothing is being written under this number. -/
def Unwritten (s : Session) (t : Nat) : Prop := ∀ x ∈ s.tasks, x.1 = t → x.2.isWrite = false

theorem Unwritten.task? (h : s.Unwritten t) (origin : Origin) (l : Link) (n : UInt32) (message : Bytes) :
    s.task? t ≠ some (.write origin l n message) := by
  intro ht
  cases h _ (task?_mem ht) rfl

theorem Unwritten.step (h : s.Unwritten t) (hi : Inv s) (he : s.config.encrypt = true) (hk : s.ring.keys = none)
    (m : Moment) (e : Event) : (s.step m e).Unwritten t := by
  intro x hx hxt
  by_contra hw
  rcases (dispatch_step hi m e).begun (inv_step hi m e).numbered hx (by simpa using hw) with hx | ⟨-, -, -, h⟩
  · exact hw (h x hx hxt)
  · obtain ⟨_, _, _, _, _, -, -, hm, -⟩ := h
    rw [message_of_keys_eq_none he hk] at hm
    cases hm

/-- The turn of a packet without keys takes a number, writes nothing, and the send fails. -/
theorem turnMarks_of_keys_eq_none (he : s.config.encrypt = true) (hk : s.ring.keys = none) {l : Link}
    (hl : s.link = some l) (m : Moment) (t : Nat) (kind : PacketKind) (payload : Bytes) :
    s.turnMarks m t kind payload = [.numbered t s.sequence, .ended t (.error (.crypto .notAuthenticated))] := by
  rw [turnMarks, hl, message_of_keys_eq_none he hk]

theorem mark_of_keys_eq_none (hi : Inv s) (he : s.config.encrypt = true) (hl : s.link.isSome)
    (hk : s.ring.keys = none) (hw : s.Unwritten t) {mark : SendMark} (h : mark ∈ s.marks m e) (ht : mark.send = t) :
    mark = .numbered t s.sequence ∨ mark = .ended t (.error (.crypto .notAuthenticated)) := by
  obtain ⟨l, hl⟩ := Option.isSome_iff_exists.1 hl
  subst ht
  rcases (dispatch_step hi m e).event h with rfl | ⟨result, rfl⟩
  · simp only [marks] at h
    split at h
    · -- With a link the session is connected, so a packet that is looked at is not refused.
      rw [if_pos (hi.linked l hl).2.1] at h
      cases h
    · split at h
      · cases h
      · rw [turnMarks_of_keys_eq_none he hk hl] at h
        simpa using h
    · cases h
  · simp only [marks] at h
    split at h
    · rename_i ht
      exact absurd ht (hw.task? _ _ _ _)
    · cases h

theorem mark_of_keyless (hi : Inv s) (he : s.config.encrypt = true) (hw : s.Unwritten t) (hu : s.Keyless events)
    {mark : SendMark} (h : mark ∈ s.journal events) (ht : mark.send = t) :
    (∃ n, mark = .numbered t n) ∨ mark = .ended t (.error (.crypto .notAuthenticated)) := by
  induction events generalizing s with
  | nil => cases h
  | cons x events ih =>
    obtain ⟨⟨hl, hk⟩, hu⟩ := hu
    rcases List.mem_append.1 h with h | h
    · exact (mark_of_keys_eq_none hi he hl hk hw h ht).imp_left fun h => ⟨_, h⟩
    · have he' : (s.step x.1 x.2).config.encrypt = true := by rw [config_step, he]
      exact ih (inv_step hi x.1 x.2) he' (hw.step hi he hk x.1 x.2) hu h

/-- A packet had its turn without keys: it has used up a number, its send has failed, and nothing is written. -/
structure Declined (s : Session) (m : Moment) (t : Nat) (origin : Origin) : Prop where
  step : s.step m (.run t) =
    { s with sequence := s.sequence + 1 }.concludeSend t origin (.error (.crypto .notAuthenticated))
  marks : s.marks m (.run t) = [.numbered t s.sequence, .ended t (.error (.crypto .notAuthenticated))]
  answer : ∀ call, origin = .call call →
    (s.step m (.run t)).outcomes = s.outcomes ++ [(call, .failed (.crypto .notAuthenticated))]
  written : (s.step m (.run t)).written = s.written
  handed : ∀ link message, (s.step m (.run t)).Handed link message → s.Handed link message

theorem declined (hi : Inv s) (he : s.config.encrypt = true) (hl : s.link.isSome) (hk : s.ring.keys = none)
    {origin : Origin} {kind : PacketKind} {payload : Bytes} (ht : s.task? t = some (.queued origin kind payload))
    (hw : s.isWriting = false) (m : Moment) : s.Declined m t origin := by
  obtain ⟨l, hl⟩ := Option.isSome_iff_exists.1 hl
  have hstep : s.step m (.run t) = s.beginWrite m t origin kind payload := by simp [step, ht, resume, hw]
  have hmarks : s.marks m (.run t) = s.turnMarks m t kind payload := by simp [marks, ht, hw]
  rw [beginWrite_of_link hl, message_of_keys_eq_none he hk] at hstep
  rw [turnMarks_of_keys_eq_none he hk hl] at hmarks
  refine ⟨hstep, hmarks, ?_, ?_, ?_⟩
  · rintro call rfl
    rw [hstep, outcomes_concludeSend, answered]
  · rw [written_step hi, hmarks]
    simp
  · intro link message h
    rcases handed_step hi he m _ h with h | ⟨_, _, -, h⟩
    · exact h
    · obtain ⟨keys, hk', -⟩ := h.key
      cases hk.symm.trans hk'

/-! ## Calls of the connector -/

/-- The connector is called at most once, and not without keys if they are needed. -/
inductive Dials (s s' : Session) : Prop where
  | none (h : s'.dialled = s.dialled)
  | once (peer : Peer) (hk : s.config.encrypt = true → s.ring.isAuthenticated = true)
    (h : s'.dialled = s.dialled ++ [(peer.connectHost, peer.port)])

theorem Dials.of_eq (h : Dials s₁ s') (hh : s₁.holdings = s.holdings) (hd : s₁.dialled = s.dialled) : Dials s s' := by
  have hc : s₁.config = s.config := congrArg Holdings.config hh
  have hr : s₁.ring = s.ring := congrArg Holdings.ring hh
  cases h with
  | none h => exact .none (h.trans hd)
  | once peer hk h => exact .once peer (hc ▸ hr ▸ hk) (hd ▸ h)

@[simp] theorem dialled_transition (s : Session) (g : Nat) (allowed : ConnectionState → Bool)
    (next : ConnectionState) : (s.transition g allowed next).dialled = s.dialled := by
  unfold transition
  split <;> rfl

theorem dials_dial (s : Session) (t : Nat) (call : Option Nat) (g : Nat) (peer : Peer) :
    Dials s (s.dial t call g peer) := by
  unfold dial
  split
  · cases call <;> exact .none (dialled_transition ..)
  · rename_i hk
    refine .once peer (fun he => ?_) rfl
    simpa [he] using hk

theorem dials_connect (s : Session) (t call : Nat) (peer : Peer) : Dials s (s.connect t call peer) := by
  unfold connect
  split
  · refine (dials_dial ..).of_eq ?_ ?_
    · cases s.link <;> exact holdings_transition ..
    · cases s.link <;> exact dialled_transition ..
  · exact .none rfl

theorem dials_intervalOver (s : Session) (t g : Nat) : Dials s (s.intervalOver t g) := by
  unfold intervalOver
  split
  · split
    · exact .none rfl
    · exact (dials_dial ..).of_eq rfl rfl
  · exact .none rfl

theorem dialled_dialDone (s : Session) (t : Nat) (call : Option Nat) (g : Nat) (result : Except TransportError Unit) :
    (s.dialDone t call g result).dialled = s.dialled := by
  unfold dialDone
  cases result with
  | error e => cases call <;> exact dialled_transition ..
  | ok _ =>
    simp only
    split
    · unfold install
      simp only
      split
      · exact dialled_transition ..
      · cases call <;> exact dialled_transition ..
    · cases call <;> rfl

theorem dialled_lose (s : Session) (g : Nat) (reason : String) (loss : Loss) :
    (s.lose g reason loss).dialled = s.dialled := by
  unfold lose
  cases s.link with
  | none => rfl
  | some l =>
    simp only
    split
    · cases loss with
      | io =>
        simp only
        split <;> exact (dialled_transition ..).trans (dialled_transition ..)
      | sendFailures =>
        simp only
        split <;> exact dialled_transition ..
    · rfl

theorem dialled_concludeSend (s : Session) (t : Nat) (origin : Origin) (r : Except ClientError UInt32) :
    (s.concludeSend t origin r).dialled = s.dialled := by
  cases origin with
  | call | echo => cases r <;> rfl
  | auth call => cases call <;> rfl

theorem dialled_beginWrite (s : Session) (m : Moment) (t : Nat) (origin : Origin) (kind : PacketKind)
    (payload : Bytes) : (s.beginWrite m t origin kind payload).dialled = s.dialled := by
  unfold beginWrite
  split
  · exact dialled_concludeSend ..
  · simp only
    split
    · exact dialled_concludeSend ..
    · rfl

theorem dialled_writeDone (s : Session) (t : Nat) (origin : Origin) (l : Link) (n : UInt32) (message : Bytes)
    (result : Except TransportError Unit) : (s.writeDone t origin l n message result).dialled = s.dialled := by
  unfold writeDone
  cases result with
  | ok _ => exact dialled_concludeSend ..
  | error e =>
    simp only
    split
    · rw [dialled_concludeSend]
      unfold countFailure
      simp only
      split
      · exact dialled_lose ..
      · rfl
    · exact dialled_concludeSend ..

theorem dialled_receive (s : Session) (m : Moment) (g : Nat) (message : Bytes) :
    (s.receive m g message).dialled = s.dialled := by
  unfold receive
  split
  · rfl
  · split
    · rfl
    · rename_i p _
      unfold packet
      cases p.kind with
      | video | audio =>
        simp only [media]
        split
        · rfl
        · exact dialled_transition ..
      | keepAlive | control | auth | input => rfl

theorem dials_step (s : Session) (m : Moment) (e : Event) : Dials s (s.step m e) := by
  have hm := move_step s m e
  generalize s.step m e = s' at hm ⊢
  cases hm with
  | connect => exact dials_connect ..
  | intervalOver => exact dials_intervalOver ..
  | disconnect t call =>
    have hg : s.letGo.dialled = s.dialled := by unfold letGo; split <;> rfl
    rcases disconnect_cases s t call with ⟨l, -, he⟩ | ⟨-, -, he⟩ | ⟨-, -, he⟩ <;> rw [he]
    · exact .none hg
    · exact .none hg
    · exact .none ((dialled_transition ..).trans hg)
  | joined => exact .none (dialled_transition ..)
  | beginSend =>
    unfold beginSend
    split
    · exact .none rfl
    · exact .none (dialled_concludeSend ..)
  | beginWrite => exact .none (dialled_beginWrite ..)
  | dialDone => exact .none (dialled_dialDone ..)
  | writeDone => exact .none (dialled_writeDone ..)
  | receive => exact .none (dialled_receive ..)
  | linkEnded => exact .none (dialled_lose ..)
  | letGo =>
    unfold letGo
    split <;> exact .none rfl
  | rest | call | close | unlisten | tick | work | pop | setVolume | authenticate | logout | free => exact .none rfl

/-! ## What is received -/

/-- Nothing sealed under the key held, if there is one, is this message. -/
def Foreign (s : Session) (message : Bytes) : Prop :=
  ∀ keys nonce plain, s.ring.keys = some keys → Sealed.ofMessage keys.key nonce plain ≠ some message

/-- A message that does not open is counted, and nothing else is done. -/
theorem receive_of_foreign (he : s.config.encrypt = true) (h : s.Foreign message) {l : Link}
    (ht : s.task? t = some (.listen l false)) (m : Moment) :
    s.step m (.receive t message) =
      { s with stats := { s.stats with cryptoDrops := s.stats.cryptoDrops + 1 } } := by
  have hd : ∃ why, s.plaintext message = .error why := by
    rw [plaintext, if_pos he]
    cases hd : s.ring.decrypt message with
    | error why => exact ⟨why, rfl⟩
    | ok plain =>
      obtain ⟨keys, nonce, hk, hs⟩ := KeyRing.decrypt_eq_ok_iff.1 hd
      exact absurd hs (h keys nonce plain hk)
  obtain ⟨why, hd⟩ := hd
  simp only [step, ht, receive, hd, dropCrypto]

/-! ## Every run -/

/-- In every run of a session that seals, whoever signs in or out meanwhile: what links are handed or took is
packets, sealed under the key held when they were handed over; the connector is called with keys held; a send
that waits with a link installed and no keys held gets no further than a number, and fails for want of keys at
its turn; and a received message that is no sealing under the key held is counted and has no other effect. -/
theorem confidential_run (config : SessionConfig) (he : config.encrypt = true) (ring : KeyRing) (format : PcmFormat)
    (before : List (Moment × Event)) :
    let start := ofConfig config ring format
    let s := start.run before
    (∀ link message, s.Handed link message ∨ (link, message) ∈ s.written → start.SealedIn before link message) ∧
      (∀ m e, (s.step m e).dialled = s.dialled ∨ s.ring.isAuthenticated = true ∧
        ∃ peer : Peer, (s.step m e).dialled = s.dialled ++ [(peer.connectHost, peer.port)]) ∧
      (∀ t origin kind payload, s.task? t = some (.send origin kind payload) → ∀ after, s.Keyless after →
        ∀ mark ∈ s.journal after, mark.send = t →
          (∃ n, mark = .numbered t n) ∨ mark = .ended t (.error (.crypto .notAuthenticated))) ∧
      (∀ m t origin kind payload, s.task? t = some (.queued origin kind payload) → s.isWriting = false →
        s.link.isSome → s.ring.keys = none → s.Declined m t origin) ∧
      ∀ m t l message, s.task? t = some (.listen l false) → s.Foreign message →
        s.step m (.receive t message) =
          { s with stats := { s.stats with cryptoDrops := s.stats.cryptoDrops + 1 } } := by
  intro start s
  have hi : Inv s := inv_run (bare_ofConfig config ring format).inv before
  have he' : s.config.encrypt = true := by rw [config_run]; exact he
  refine ⟨?_, ?_, ?_, ?_, ?_⟩
  · have hh : ∀ link message, ¬ start.Handed link message := by
      rintro link message ⟨t, origin, l, n, hx, -⟩
      cases hx
    exact sealed_run (bare_ofConfig config ring format).inv hh rfl he before
  · intro m e
    cases dials_step s m e with
    | none h => exact .inl h
    | once peer hk h => exact .inr ⟨hk he', peer, h⟩
  · intro t origin kind payload ht after hu mark hm hs
    have hw : s.Unwritten t := by
      rintro ⟨u, task⟩ hx rfl
      rw [hi.numbered.eq_of_mem ht hx]
      rfl
    exact mark_of_keyless hi he' hw hu hm hs
  · intro m t origin kind payload ht hw hl hk
    exact declined hi he' hl hk ht hw m
  · intro m t l message ht hf
    exact receive_of_foreign he' hf ht m

/-- Someone can sign in, and each time a fresh key is drawn. -/
def guarded : KeyRing := .ofAccounts { users := [("desk", .ofPassword "secret")] }

/-- A connect without keys; then a message is sent, keys are given up with the link in place, a message is refused
and another received, and after a new sign-in one more is sent. -/
def relogin : List (Moment × Event) :=
  let login (n : UInt8) : Event := .authenticate ⟨"desk", "secret"⟩ ⟨⟨"token"⟩, List.replicate 32 n, rfl⟩
  atOnce [.callConnect 0 (.manual "desk" "desk.local" 9000), .run 0,
    login 1, .callConnect 1 (.manual "desk" "desk.local" 9000), .run 1, .dialDone 1 (.ok ()),
    .callSend 2 .control [7], .run 3, .run 3, .writeDone 3 (.ok ()),
    .logout, .callSend 3 .control [8], .run 4, .run 4, .receive 2 [1, 2, 3],
    login 2, .callSend 4 .control [9], .run 5, .run 5, .writeDone 5 (.ok ())]

/-- The connector was called once, and two messages were sealed. -/
theorem confidential_run_relogin :
    let start := ofConfig { sendAuthToken := false } guarded .s16le
    let s := start.run relogin
    s.outcomes = [(0, .failed (.crypto .notAuthenticated)), (1, .connected .connected), (2, .sent 1),
        (3, .failed (.crypto .notAuthenticated)), (4, .sent 3)] ∧
      s.dialled.length = 1 ∧ s.stats.cryptoDrops = 1 ∧ s.written.length = 2 ∧
      ∀ x ∈ s.written, start.SealedIn relogin x.1 x.2 := by
  intro start s
  have hsealed := (confidential_run { sendAuthToken := false } rfl guarded .s16le relogin).1
  exact ⟨by decide +kernel, by decide +kernel, by decide +kernel, by decide +kernel,
    fun x hx => hsealed x.1 x.2 (.inr hx)⟩

end DeskStream.Session

import DeskStream.Proofs.Session.Confidential
/-!
# Connector calls in flight

Nothing ends a connector call but its answer. A disconnect supersedes the attempt, the call goes on, and
the next connect calls again: so at most one call is of the present generation, but any number may be
outstanding (`exists_outstanding_eq`). How many there are is settled by what was given up and has not
been answered since (`outstanding_calls`).
-/

namespace DeskStream

open Wire

namespace Task

/-- An outstanding connector call. -/
def isDial : Task → Bool
  | .dial .. => true
  | _ => false

/-- An outstanding connector call of a generation. -/
def isDialOf (g : Nat) : Task → Bool
  | .dial _ g' _ => g' = g
  | _ => false

theorem isAttempt_of_isDialOf {g : Nat} {task : Task} (h : task.isDialOf g) : task.isAttempt g := by
  cases task <;> simp_all [isDialOf, isAttempt, attempt?]

end Task

/-- What becomes of a connector call. -/
inductive CallMark where
  /-- It is answered while its attempt is the present one. -/
  | answered
  /-- It is answered after its attempt was superseded. -/
  | late
  /-- Its attempt is superseded, and the call goes on. -/
  | abandoned
  deriving Repr, DecidableEq

namespace Session

variable {s s' s'' : Session} {t : Nat} {old new task : Task} {marks log : List CallMark}

def outstanding (s : Session) : Nat := s.count Task.isDial

/-- Outstanding connector calls of the present generation. -/
def current (s : Session) : Nat := s.count (Task.isDialOf s.generation)

def abandonment (s : Session) : List CallMark := List.replicate s.current .abandoned

/-- What a step does to connector calls that are outstanding. -/
def callMarks (s : Session) : Event → List CallMark
  | .run t =>
    match s.task? t with
    | some (.disconnect _) => if s.isLeaving then [] else s.abandonment
    | _ => []
  | .dialDone t _ =>
    match s.task? t with
    | some (.dial _ g _) => [if s.generation = g then .answered else .late]
    | _ => []
  | .letGo => s.abandonment
  | _ => []

/-- What a run does to connector calls, in order. -/
def callLog (s : Session) : List (Moment × Event) → List CallMark
  | [] => []
  | x :: events => s.callMarks x.2 ++ (s.step x.1 x.2).callLog events

/-! ## What leaves connector calls alone -/

/-- A kind of connector calls. -/
def OfDials (p : Task → Bool) : Prop := ∀ task, task.isDial = false → p task = false

theorem ofDials_isDial : OfDials Task.isDial := fun _ h => h

theorem ofDials_isDialOf (g : Nat) : OfDials (Task.isDialOf g) := by
  intro task h
  cases task <;> simp_all [Task.isDial, Task.isDialOf]

/-- Those that are outstanding stay so, and the connector is not called. -/
structure Calm (s s' : Session) : Prop where
  count : ∀ p, OfDials p → s'.count p = s.count p
  dialled : s'.dialled = s.dialled

theorem Calm.of_tasks (ht : s'.tasks = s.tasks) (hd : s'.dialled = s.dialled) : Calm s s' :=
  ⟨fun p _ => by rw [Session.count, Session.count, ht], hd⟩

theorem Calm.trans (h : Calm s s') (h' : Calm s' s'') : Calm s s'' :=
  ⟨fun p hp => (h'.count p hp).trans (h.count p hp), h'.dialled.trans h.dialled⟩

/-- The same activities, and the same record of calls. -/
theorem Calm.congr (h : Calm s s') (ht : s''.tasks = s'.tasks) (hd : s''.dialled = s'.dialled) : Calm s s'' :=
  h.trans (.of_tasks ht hd)

theorem Calm.spawn (s : Session) (h : task.isDial = false) : Calm s (s.spawn task) :=
  ⟨fun _ hp => count_spawn_same s (hp _ h), rfl⟩

theorem Calm.put (hn : s.Numbered) (h : s.task? t = some old) (ho : old.isDial = false) (hd : new.isDial = false) :
    Calm s (s.put t new) :=
  ⟨fun _ hp => count_put_same hn h ((hp _ hd).trans (hp _ ho).symm), rfl⟩

theorem Calm.erase (hn : s.Numbered) (h : s.task? t = some old) (ho : old.isDial = false) : Calm s (s.erase t) :=
  ⟨fun _ hp => count_erase_same hn h (hp _ ho), rfl⟩

theorem Calm.cancel (s : Session) (link : Nat) : Calm s (s.cancel link) := by
  refine ⟨fun p hp => count_cancel s link p ?_, rfl⟩
  intro task
  cases task with
  | listen l c => rw [hp _ rfl, hp _ rfl]
  | _ => rfl

theorem Calm.transition (s : Session) (g : Nat) (allowed : ConnectionState → Bool) (next : ConnectionState) :
    Calm s (s.transition g allowed next) :=
  .of_tasks (transition_frame ..).2.2.2.2.1 (dialled_transition ..)

theorem Calm.letGo (s : Session) : Calm s s.letGo := by
  unfold Session.letGo
  split
  · exact .of_tasks rfl rfl
  · have h : Calm s s.supersede := .of_tasks rfl rfl
    exact h.trans (.cancel ..)

theorem task?_letGo (hi : Inv s) (h : s.task? t = some task) (hl : ∀ l c, task ≠ .listen l c) :
    s.letGo.task? t = some task := by
  apply hi.bare_letGo.numbered.task?_of_mem
  rcases letGo_tasks s with ht | ⟨n, ht⟩ <;> rw [ht]
  · exact task?_mem h
  · refine List.mem_map.2 ⟨_, task?_mem h, ?_⟩
    cases task with
    | listen l c => exact absurd rfl (hl l c)
    | _ => rfl

theorem calm_concludeSend (hn : s.Numbered) (h : s.task? t = some old) (ho : old.isDial = false) (origin : Origin)
    (r : Except ClientError UInt32) : Calm s (s.concludeSend t origin r) :=
  (Calm.erase hn h ho).congr (congrArg Core.tasks (concludeSend_core ..)) (dialled_concludeSend ..)

theorem calm_lose (s : Session) (g : Nat) (reason : String) (loss : Loss) : Calm s (s.lose g reason loss) := by
  by_cases hg : ∀ l, s.link = some l → l.generation ≠ g
  · rw [lose_other hg]
    exact .of_tasks rfl rfl
  · push Not at hg
    obtain ⟨l, hl, rfl⟩ := hg
    have hb : Calm s (s.bereft l) := (Calm.letGo s).trans (.spawn _ rfl)
    refine ⟨fun p hp => ?_, dialled_lose ..⟩
    have ht : (s.lose l.generation reason loss).tasks = _ := congrArg Core.tasks (lose_core hl reason loss)
    rw [Session.count, ht]
    split
    · exact (hb.trans (.spawn _ rfl)).count p hp
    · exact hb.count p hp

theorem calm_countFailure (s : Session) (g : Nat) : Calm s (s.countFailure g) := by
  unfold countFailure
  simp only
  split
  · have h : Calm s { s with failures := 0 } := .of_tasks rfl rfl
    exact h.trans (calm_lose ..)
  · exact .of_tasks rfl rfl

theorem calm_disconnect (hi : Inv s) {call : Nat} (h : s.task? t = some (.disconnect call)) :
    Calm s (s.disconnect t call) := by
  have hl := task?_letGo hi h (by simp)
  have hn := hi.bare_letGo.numbered
  rcases disconnect_cases s t call with ⟨l, -, he⟩ | ⟨-, -, he⟩ | ⟨-, -, he⟩ <;> rw [he]
  · exact ((Calm.letGo s).trans (.put hn hl rfl rfl)).congr rfl rfl
  · exact ((Calm.letGo s).trans (.erase hn hl rfl)).congr rfl rfl
  · refine ((Calm.letGo s).trans (.erase hn hl rfl)).congr ?_ (dialled_transition ..)
    simp [answer, Session.erase, release]

theorem calm_joined (hn : s.Numbered) {call link : Nat} (h : s.task? t = some (.join call link)) :
    Calm s (s.joined t call) := by
  refine (Calm.erase hn h rfl).congr ?_ (dialled_transition ..)
  simp [joined, answer, Session.erase, release]

theorem calm_beginSend (hn : s.Numbered) {origin : Origin} {kind : PacketKind} {payload : Bytes}
    (h : s.task? t = some (.send origin kind payload)) : Calm s (s.beginSend t origin kind payload) := by
  unfold beginSend
  split
  · exact .put hn h rfl rfl
  · exact calm_concludeSend hn h rfl ..

theorem calm_beginWrite (hn : s.Numbered) (m : Moment) {origin : Origin} {kind : PacketKind} {payload : Bytes}
    (h : s.task? t = some (.queued origin kind payload)) : Calm s (s.beginWrite m t origin kind payload) := by
  unfold beginWrite
  split
  · exact calm_concludeSend hn h rfl ..
  · let s₁ := { s with sequence := s.sequence + 1 }
    have hn₁ : s₁.Numbered := ⟨hn.nodup, hn.lt⟩
    have h₁ : Calm s s₁ := .of_tasks rfl rfl
    simp only
    split
    · exact h₁.trans (calm_concludeSend hn₁ h rfl ..)
    · exact h₁.trans (.put hn₁ h rfl rfl)

theorem calm_writeDone (hi : Inv s) {origin : Origin} {l : Link} {n : UInt32} {message : Bytes}
    (h : s.task? t = some (.write origin l n message)) (result : Except TransportError Unit) :
    Calm s (s.writeDone t origin l n message result) := by
  unfold writeDone
  cases result with
  | ok _ =>
    let s₁ := { s with
      failures := 0
      stats := { s.stats with packetsSent := s.stats.packetsSent + 1 }
      written := s.written ++ [(l.number, message)] }
    have h₁ : Calm s s₁ := .of_tasks rfl rfl
    have hn : s₁.Numbered := ⟨hi.numbered.nodup, hi.numbered.lt⟩
    exact h₁.trans (calm_concludeSend hn h rfl origin (.ok n))
  | error e =>
    let s₁ := { s with stats := { s.stats with sendFailures := s.stats.sendFailures + 1 } }
    have hi₁ : Inv s₁ := hi.of_core (by rfl)
    have h₁ : Calm s s₁ := .of_tasks rfl rfl
    simp only
    split
    · -- The write is still there when its link is dropped.
      have hn := (kept_countFailure hi₁ l.generation).inv.numbered
      have ht := hn.task?_of_mem (countFailure_mem (s := s₁) (task?_mem (s := s₁) h) (by simp) l.generation)
      exact (h₁.trans (calm_countFailure ..)).trans (calm_concludeSend hn ht rfl ..)
    · exact h₁.trans (calm_concludeSend hi₁.numbered h rfl ..)

theorem calm_receive (s : Session) (m : Moment) (g : Nat) (message : Bytes) : Calm s (s.receive m g message) := by
  unfold receive
  split
  · exact .of_tasks rfl rfl
  · split
    · exact .of_tasks rfl rfl
    · rename_i p _
      let s₁ := { s with metrics := s.metrics.record p m.wall m.mono }
      have h₁ : Calm s s₁ := .of_tasks rfl rfl
      unfold packet
      cases p.kind with
      | video | audio =>
        have h₂ : Calm s { s₁ with pipeline := (s₁.pipeline.submit p).1 } := .of_tasks rfl rfl
        simp only [media]
        split
        · exact .of_tasks rfl rfl
        · exact h₂.trans (.transition ..)
      | keepAlive => exact h₁.trans (.spawn _ rfl)
      | control | auth | input => exact .of_tasks rfl rfl

/-! ## What a step comes to -/

/-- What a step comes to for connector calls, with its marks. -/
inductive Flight (s s' : Session) : List CallMark → Prop where
  | calm (h : Calm s s') (hg : s'.generation = s.generation) : Flight s s' []
  | superseded (h : Calm s s') (hg : s.generation < s'.generation) : Flight s s' s.abandonment
  /-- A call begins when none of its generation is outstanding. -/
  | begun (call : Option Nat) (peer : Peer) (idle : s.current = 0) (fresh : s.count (Task.isDialOf s'.generation) = 0)
    (count : ∀ p, OfDials p → s'.count p = s.count p + (p (.dial call s'.generation peer)).toNat)
    (dialled : s'.dialled = s.dialled ++ [(peer.connectHost, peer.port)]) : Flight s s' []
  | done {call : Option Nat} {g : Nat} {peer : Peer}
    (count : ∀ p, OfDials p → s'.count p + (p (.dial call g peer)).toNat = s.count p)
    (dialled : s'.dialled = s.dialled) (hg : s'.generation = s.generation) :
    Flight s s' [if s.generation = g then .answered else .late]

theorem current_le_attempts (s : Session) : s.current ≤ s.attempts :=
  List.countP_mono_left fun _ _ h => Task.isAttempt_of_isDialOf h

theorem Inv.current_le (hi : Inv s) : s.current ≤ 1 := by
  have h := current_le_attempts s
  rcases Nat.eq_zero_or_pos s.attempts with h0 | hp
  · omega
  · have := (hi.attempting hp).1
    omega

/-- No call is of a generation to come. -/
theorem Inv.count_isDialOf (hi : Inv s) {g : Nat} (hg : s.generation < g) : s.count (Task.isDialOf g) = 0 := by
  apply count_eq_zero.2
  rintro ⟨u, task⟩ hx
  by_contra h
  rw [Bool.not_eq_false] at h
  have ha := Task.isAttempt_of_isDialOf h
  rw [Task.isAttempt, decide_eq_true_eq] at ha
  have := hi.past _ hx g ha
  omega

theorem Inv.abandonment_of_link (hi : Inv s) {l : Link} (hl : s.link = some l) : s.abandonment = [] := by
  have h0 : s.current ≤ 0 := hi.attempts_of_link hl ▸ current_le_attempts s
  rw [abandonment, Nat.le_zero.1 h0]
  rfl

theorem dial_calls (hn : s.Numbered) (h : s.task? t = some old) (ho : old.isDial = false) (call : Option Nat) (g : Nat)
    (peer : Peer) : Calm s (s.dial t call g peer) ∨
      (∀ p, OfDials p → (s.dial t call g peer).count p = s.count p + (p (.dial call g peer)).toNat) ∧
        (s.dial t call g peer).dialled = s.dialled ++ [(peer.connectHost, peer.port)] := by
  unfold dial
  split
  · left
    have hf : (s.failAttempt g CryptoError.notAuthenticated.message).tasks = s.tasks :=
      (transition_frame ..).2.2.2.2.1
    have hd : (s.failAttempt g CryptoError.notAuthenticated.message).dialled = s.dialled := dialled_transition ..
    cases call <;>
      exact (Calm.erase hn h ho).congr (by simp [answer, Session.erase, hf]) hd
  · right
    refine ⟨fun p hp => ?_, rfl⟩
    have := count_put hn h (.dial call g peer) p
    rw [hp _ ho] at this
    exact this

theorem flight_connect (hi : Inv s) {call : Nat} {peer : Peer} (h : s.task? t = some (.connect call peer)) :
    Flight s (s.connect t call peer) [] := by
  by_cases hs : s.state.canConnect
  · obtain ⟨hl, ha⟩ := hi.idle hs
    have h0 : s.current = 0 := Nat.le_zero.1 (ha ▸ current_le_attempts s)
    have hg : (s.connect t call peer).generation = s.generation + 1 := by
      rw [connect_of_canConnect s t call peer hs hl, generation_dial]
      rfl
    have hc : Calm s (s.accepted peer) := .of_tasks rfl rfl
    rw [connect_of_canConnect s t call peer hs hl] at hg ⊢
    have hn : (s.accepted peer).Numbered := ⟨hi.numbered.nodup, hi.numbered.lt⟩
    rcases dial_calls hn h rfl (some call) (s.generation + 1) peer with hd | ⟨hd, hr⟩
    · have hm : s.abandonment = [] := by rw [abandonment, h0]; rfl
      rw [← hm]
      exact .superseded (hc.trans hd) (by omega)
    · refine .begun (some call) peer h0 (hi.count_isDialOf (by omega)) ?_ hr
      intro p hp
      rw [hg, hd p hp, hc.count p hp]
  · have : s.connect t call peer = s.answer t call (.failed (.connectRejected s.state)) := by simp [connect, hs]
    rw [this]
    exact .calm ((Calm.erase hi.numbered h rfl).congr rfl rfl) rfl

theorem flight_intervalOver (hi : Inv s) {g : Nat} (h : s.task? t = some (.timer g)) :
    Flight s (s.intervalOver t g) [] := by
  have hg := generation_intervalOver s t g
  unfold intervalOver at hg ⊢
  split
  · rename_i hsg
    subst hsg
    split
    · exact .calm (.erase hi.numbered h rfl) rfl
    · rename_i peer hp
      -- The timer is the one attempt, so no call is outstanding beside it.
      have h0 : s.current = 0 := by
        have hattempt : (Task.timer s.generation).isAttempt s.generation = true := by simp
        have hone := (hi.attempting (count_pos_of_mem (task?_mem h) hattempt)).1
        have herase := count_erase hi.numbered h (Task.isAttempt s.generation)
        have hle : (s.erase t).count (Task.isDialOf s.generation) ≤ (s.erase t).count (Task.isAttempt s.generation) :=
          List.countP_mono_left fun _ _ h => Task.isAttempt_of_isDialOf h
        rw [count_erase_same hi.numbered h (ofDials_isDialOf _ _ rfl)] at hle
        rw [hattempt, show s.count _ = _ from hone] at herase
        simp only [Bool.toNat_true] at herase
        rw [current]
        omega
      let s₁ := { s with stats := { s.stats with reconnectAttempts := s.stats.reconnectAttempts + 1 } }
      have h₁ : Calm s s₁ := .of_tasks rfl rfl
      have hn : s₁.Numbered := ⟨hi.numbered.nodup, hi.numbered.lt⟩
      have hg₁ : (s₁.dial t none s.generation peer).generation = s.generation := generation_dial ..
      rcases dial_calls hn h rfl none s.generation peer with hd | ⟨hd, hr⟩
      · exact .calm (h₁.trans hd) hg₁
      · refine .begun none peer h0 (by rw [hg₁]; exact h0) ?_ hr
        intro p hp
        rw [hg₁]
        exact hd p hp
  · exact .calm (.erase hi.numbered h rfl) rfl

theorem dialDone_calls (hi : Inv s) {call : Option Nat} {g : Nat} {peer : Peer}
    (h : s.task? t = some (.dial call g peer)) (result : Except TransportError Unit) {p : Task → Bool}
    (hp : OfDials p) : (s.dialDone t call g result).count p + (p (.dial call g peer)).toNat = s.count p := by
  have herase : (s.erase t).count p + (p (.dial call g peer)).toNat = s.count p := count_erase hi.numbered h p
  have of_tasks {s' : Session} (ht : s'.tasks = (s.erase t).tasks) :
      s'.count p + (p (.dial call g peer)).toNat = s.count p := by
    rw [Session.count, ht]
    exact herase
  by_cases hg : s.generation = g
  · subst hg
    have ha := hi.attempts_of_task h (by simp)
    cases result with
    | error e =>
      have hf : (s.failAttempt s.generation e.message).tasks = s.tasks := (transition_frame ..).2.2.2.2.1
      apply of_tasks
      cases call <;> simp [dialDone, answer, Session.erase, hf]
    | ok _ =>
      let s₁ := { s with links := s.links + 1, metrics := s.metrics.newLink }
      have ht : t < s₁.spawned := hi.numbered.lt _ (task?_mem h)
      let l : Link := ⟨s.links, s.generation⟩
      have hlisten : (s₁.linked l).count p = s.count p := count_spawn_same s (hp (.listen l false) rfl)
      have hn : (s₁.linked l).Numbered := by
        have := hi.numbered.spawn (.listen l false)
        exact ⟨this.nodup, this.lt⟩
      have htask : (s₁.linked l).task? t = some (.dial call s.generation peer) :=
        hn.task?_of_mem (mem_spawn.2 (.inl (task?_mem h)))
      simp only [dialDone, if_true]
      rcases install_core (s := s₁) (t := t) call (l := l) ha.1 rfl with ⟨payload, he⟩ | hc
      · have hput := count_put hn htask (.send (.auth call) .auth payload) p
        rw [hp (.send (.auth call) .auth payload) rfl, hlisten] at hput
        rw [he]
        exact hput
      · have ht' : (s₁.install t call l).tasks = ((s₁.linked l).erase t).tasks := congrArg Core.tasks hc
        have herase' := count_erase hn htask p
        rw [hlisten] at herase'
        rw [Session.count, ht']
        exact herase'
  · exact of_tasks (congrArg Core.tasks (dialDone_core_of_stale hg t call result))

theorem generation_lose_of_link_eq_none (hl : s.link = none) (g : Nat) (reason : String) (loss : Loss) :
    (s.lose g reason loss).generation = s.generation := by
  rw [lose_other (by simp [hl])]

/-- Only the loss of an installed link supersedes, and beside a link there is no attempt. -/
theorem flight_lose (hi : Inv s) (hc : Calm s s') (hg : s.generation ≤ s'.generation)
    (hnone : s.link = none → s'.generation = s.generation) : Flight s s' [] := by
  cases hl : s.link with
  | none => exact .calm hc (hnone hl)
  | some l =>
    rcases Nat.eq_or_lt_of_le hg with hg | hg
    · exact .calm hc hg.symm
    · rw [← hi.abandonment_of_link hl]
      exact .superseded hc hg

theorem flight_writeDone (hi : Inv s) {origin : Origin} {l : Link} {n : UInt32} {message : Bytes}
    (h : s.task? t = some (.write origin l n message)) (result : Except TransportError Unit) :
    Flight s (s.writeDone t origin l n message result) [] := by
  refine flight_lose hi (calm_writeDone hi h result) (generation_le_writeDone ..) ?_
  intro hl
  unfold writeDone
  cases result with
  | ok _ => exact generation_concludeSend ..
  | error e =>
    simp only
    split
    · rw [generation_concludeSend]
      unfold countFailure
      simp only
      split
      · exact generation_lose_of_link_eq_none (by exact hl) ..
      · rfl
    · exact generation_concludeSend ..

theorem flight_linkEnded (hi : Inv s) {l : Link} (h : s.task? t = some (.listen l false)) (reason : String) :
    Flight s (s.linkEnded t l.generation reason) [] := by
  have hc := (Calm.erase hi.numbered h rfl).trans (calm_lose (s.erase t) l.generation reason .io)
  refine flight_lose hi hc (generation_le_lose (s.erase t) ..) ?_
  intro hl
  exact generation_lose_of_link_eq_none (s := s.erase t) hl ..

theorem flight_resume (hi : Inv s) (m : Moment) (h : s.task? t = some task) :
    Flight s (s.resume m t task) (s.callMarks (.run t)) := by
  have hn := hi.numbered
  have rest : Flight s s [] := .calm (.of_tasks rfl rfl) rfl
  simp only [callMarks, h]
  cases task with
  | connect call peer =>
    simp only [resume]
    split
    · exact rest
    · exact flight_connect hi h
  | disconnect call =>
    simp only [resume]
    split
    · exact rest
    · exact .superseded (calm_disconnect hi h) (by rw [generation_disconnect]; omega)
  | join call link =>
    simp only [resume]
    split
    · exact rest
    · exact .calm (calm_joined hn h) (generation_release s)
  | send => exact .calm (calm_beginSend hn h) (generation_beginSend ..)
  | queued =>
    simp only [resume]
    split
    · exact rest
    · exact .calm (calm_beginWrite hn m h) (generation_beginWrite ..)
  | close => exact .calm ((Calm.erase hn h rfl).congr rfl rfl) rfl
  | listen l cancelled =>
    simp only [resume]
    split
    · exact .calm (.erase hn h rfl) rfl
    · exact rest
  | dial | write | timer => exact rest

theorem flight_step (hi : Inv s) (m : Moment) (e : Event) : Flight s (s.step m e) (s.callMarks e) := by
  have rest : Flight s s [] := .calm (.of_tasks rfl rfl) rfl
  cases e with
  | callConnect | callDisconnect | callSend => exact .calm (.spawn _ rfl) rfl
  | run t =>
    cases h : s.task? t with
    | none => simpa only [step, callMarks, h] using rest
    | some task => simpa only [step, h] using flight_resume hi m h
  | dialDone t result =>
    cases h : s.task? t with
    | none => simpa only [step, callMarks, h] using rest
    | some task =>
      cases task with
      | dial call g peer =>
        simp only [step, callMarks, h]
        exact .done (fun p hp => dialDone_calls hi h result hp) (dialled_dialDone ..) (generation_dialDone ..)
      | _ => simpa only [step, callMarks, h] using rest
  | intervalOver t =>
    simp only [step, callMarks]
    split
    · exact flight_intervalOver hi ‹_›
    · exact rest
  | writeDone t result =>
    simp only [step, callMarks]
    split
    · exact flight_writeDone hi ‹_› result
    · exact rest
  | receive t message =>
    simp only [step, callMarks]
    split
    · exact .calm (calm_receive ..) (generation_receive ..)
    · exact rest
  | linkEnded t reason =>
    simp only [step, callMarks]
    split
    · exact flight_linkEnded hi ‹_› reason
    · exact rest
  | letGo => exact .superseded (.letGo s) (by rw [step, generation_letGo]; omega)
  | tick | work | pop | setVolume | authenticate | logout | free => exact .calm (.of_tasks rfl rfl) rfl

/-! ## The account of a run -/

/-- Every call is answered or outstanding, and those outstanding beside the present one were abandoned and
not answered since. -/
structure Calls (s : Session) (log : List CallMark) : Prop where
  conserved : s.dialled.length = s.outstanding + log.count .answered + log.count .late
  overdue : s.outstanding + log.count .late = s.current + log.count .abandoned

theorem Calls.flight (hc : Calls s log) (hi : Inv s) (h : Flight s s' marks) : Calls s' (log ++ marks) := by
  obtain ⟨hcons, hover⟩ := hc
  cases h with
  | calm h hg =>
    have ho : s'.outstanding = s.outstanding := h.count _ ofDials_isDial
    have hcur : s'.current = s.current := by
      rw [current, hg]
      exact h.count _ (ofDials_isDialOf _)
    rw [List.append_nil]
    exact ⟨by rw [h.dialled, ho, hcons], by rw [ho, hcur, hover]⟩
  | superseded h hg =>
    have ho : s'.outstanding = s.outstanding := h.count _ ofDials_isDial
    have hcur : s'.current = 0 := (h.count _ (ofDials_isDialOf _)).trans (hi.count_isDialOf hg)
    constructor
    · simp [h.dialled, ho, hcons, abandonment, List.count_replicate]
    · simp only [List.count_append, abandonment, List.count_replicate]
      simp
      omega
  | begun call peer idle fresh count dialled =>
    have ho : s'.outstanding = s.outstanding + 1 := count _ ofDials_isDial
    have hcur : s'.current = 1 := by
      have := count _ (ofDials_isDialOf s'.generation)
      rw [fresh] at this
      simp only [Task.isDialOf, decide_true, Bool.toNat_true] at this
      exact this
    rw [List.append_nil]
    constructor
    · rw [dialled, List.length_append, List.length_singleton]
      omega
    · omega
  | @done call g peer count dialled hg =>
    have ho : s'.outstanding + 1 = s.outstanding := count _ ofDials_isDial
    have hcur : s'.current + ((Task.dial call g peer).isDialOf s.generation).toNat = s.current := by
      rw [current, hg]
      exact count _ (ofDials_isDialOf _)
    by_cases hsg : s.generation = g
    · simp only [Task.isDialOf, hsg, decide_true, Bool.toNat_true] at hcur
      constructor <;> simp [dialled, hsg] <;> omega
    · simp only [Task.isDialOf, Ne.symm hsg, decide_false, Bool.toNat_false] at hcur
      constructor <;> simp [dialled, hsg] <;> omega

theorem Calls.run (hc : Calls s log) (hi : Inv s) (events : List (Moment × Event)) :
    Calls (s.run events) (log ++ s.callLog events) := by
  induction events generalizing s log with
  | nil => simpa [callLog, Session.run] using hc
  | cons x events ih =>
    have := ih (hc.flight hi (flight_step hi x.1 x.2)) (inv_step hi x.1 x.2)
    rwa [List.append_assoc] at this

/-- In every run, however long connector calls take: every call made is answered or outstanding; at most one of
those outstanding is of the present generation; and there are as many besides as were abandoned, by a disconnect or
by letting go, and not answered since. So at most one is outstanding as long as none that was abandoned is. -/
theorem outstanding_calls (config : SessionConfig) (ring : KeyRing) (format : PcmFormat)
    (events : List (Moment × Event)) :
    let s := (ofConfig config ring format).run events
    let calls := (ofConfig config ring format).callLog events
    s.dialled.length = s.outstanding + calls.count .answered + calls.count .late ∧
      s.current ≤ 1 ∧
      s.outstanding + calls.count .late = s.current + calls.count .abandoned ∧
      (calls.count .abandoned ≤ calls.count .late → s.outstanding ≤ 1) := by
  intro s calls
  have hi := (bare_ofConfig config ring format).inv
  have hnone : Calls (ofConfig config ring format) [] := ⟨rfl, rfl⟩
  have hcalls : Calls s ([] ++ calls) := hnone.run hi events
  obtain ⟨hcons, hover⟩ := hcalls
  have hone : s.current ≤ 1 := (inv_run hi events).current_le
  refine ⟨hcons, hone, hover, ?_⟩
  intro h
  rw [List.nil_append] at hover
  omega

/-- A host is given up while the connector is called, and another is tried. -/
def impatient : List (Moment × Event) :=
  atOnce [.callConnect 0 (.manual "desk" "desk.local" 9000), .run 0, .callDisconnect 1, .run 1,
    .callConnect 2 (.manual "attic" "attic.local" 9000), .run 2]

/-- The call that was abandoned is outstanding beside the present one. -/
theorem outstanding_calls_impatient :
    plain.callLog impatient = [.abandoned] ∧ (plain.run impatient).current = 1 ∧
      (plain.run impatient).outstanding = 2 := by
  have hlog : plain.callLog impatient = [.abandoned] := by decide +kernel
  have hcur : (plain.run impatient).current = 1 := by decide +kernel
  have h := (outstanding_calls { encrypt := false, sendAuthToken := false } ⟨none, none⟩ .s16le impatient).2.2.1
  refine ⟨hlog, hcur, ?_⟩
  change (plain.run impatient).outstanding + (plain.callLog impatient).count .late =
    (plain.run impatient).current + (plain.callLog impatient).count .abandoned at h
  rw [hlog, hcur] at h
  exact h

/-! ## Calls without end -/

/-- Nothing is connected or under way, and no keys are asked for. -/
structure Idle (s : Session) : Prop where
  inv : Inv s
  unsealed : s.config.encrypt = false
  state : s.state = .disconnected
  turn : s.isLeaving = false

theorem dial_of_unsealed (ho : s.config.encrypt = false) (t : Nat) (call : Option Nat) (g : Nat) (peer : Peer) :
    s.dial t call g peer =
      { s.put t (.dial call g peer) with dialled := s.dialled ++ [(peer.connectHost, peer.port)] } := by
  simp [dial, ho]

theorem isLeaving_spawn (h : s.isLeaving = false) (hj : task.isJoin = false) : (s.spawn task).isLeaving = false := by
  rw [isLeaving_eq, count_spawn_same s hj, ← isLeaving_eq]
  exact h

/-- What has just begun stands under the next number. -/
theorem Numbered.task?_spawn (hn : s.Numbered) (task : Task) : (s.spawn task).task? s.spawned = some task :=
  (hn.spawn task).task?_of_mem (mem_spawn.2 (.inr rfl))

/-- A connect call that is never answered. -/
theorem Idle.connect (h : Idle s) (peer : Peer) :
    let s' := (s.spawn (.connect 0 peer)).step still (.run s.spawned)
    Inv s' ∧ s'.config.encrypt = false ∧ s'.isLeaving = false ∧ s'.link = none ∧ s'.state = .connecting ∧
      s'.outstanding = s.outstanding + 1 := by
  intro s'
  have hn := h.inv.numbered
  have hi : Inv (s.spawn (.connect 0 peer)) := h.inv.spawn rfl
  have hj : (s.spawn (.connect 0 peer)).isLeaving = false := isLeaving_spawn h.turn rfl
  have ha : (s.spawn (.connect 0 peer)).Accepts s.spawned 0 peer :=
    ⟨hn.task?_spawn _, hj, show s.state.canConnect by rw [h.state]; rfl⟩
  have hdial := dial_of_unsealed (s := (s.spawn (.connect 0 peer)).accepted peer) h.unsealed s.spawned (some 0)
    (s.generation + 1) peer
  have he : s' = _ := (ha.step hi still).trans hdial
  have hcount := count_put hi.numbered ha.task (.dial (some 0) (s.generation + 1) peer) Task.isDial
  have hspawn : (s.spawn (.connect 0 peer)).outstanding = s.outstanding :=
    count_spawn_same s (show (Task.connect 0 peer).isDial = false from rfl)
  refine ⟨inv_step hi still _, ?_, ?_, ?_, ?_, ?_⟩
  · rw [he]
    exact h.unsealed
  · rw [he, isLeaving_eq]
    have := count_put_same (p := Task.isJoin) hi.numbered ha.task
      (show (Task.dial (some 0) (s.generation + 1) peer).isJoin = (Task.connect 0 peer).isJoin from rfl)
    rw [isLeaving_eq] at hj
    rw [← hj]
    exact congrArg (fun n => decide (0 < n)) this
  · rw [he]
    rfl
  · rw [he]
    rfl
  · rw [he, ← hspawn]
    exact hcount

/-- A connect that is given up before it is answered leaves one more call outstanding. -/
theorem Idle.abandon (h : Idle s) (peer : Peer) :
    ∃ events, Idle (s.run events) ∧ (s.run events).outstanding = s.outstanding + 1 := by
  obtain ⟨hi, ho, hj, hl, hs, hcount⟩ := h.connect peer
  generalize hs' : (s.spawn (.connect 0 peer)).step still (.run s.spawned) = s' at *
  have hd : (s'.spawn (.disconnect 0)).task? s'.spawned = some (.disconnect 0) := hi.numbered.task?_spawn _
  have hi' : Inv (s'.spawn (.disconnect 0)) := hi.spawn rfl
  have hj' : (s'.spawn (.disconnect 0)).isLeaving = false := isLeaving_spawn hj rfl
  have hrun : s.run (atOnce [.callConnect 0 peer, .run s.spawned, .callDisconnect 0, .run s'.spawned]) =
      (s'.spawn (.disconnect 0)).disconnect s'.spawned 0 := by
    have : s.run (atOnce [.callConnect 0 peer, .run s.spawned, .callDisconnect 0, .run s'.spawned]) =
        ((((s.spawn (.connect 0 peer)).step still (.run s.spawned)).spawn (.disconnect 0)).step still
          (.run s'.spawned)) := rfl
    rw [this, hs']
    simp [step, hd, resume, hj']
  have hrelease : (s'.spawn (.disconnect 0)).disconnect s'.spawned 0 =
      (s'.spawn (.disconnect 0)).letGo.release.answer s'.spawned 0 .disconnected := by
    rcases disconnect_cases (s'.spawn (.disconnect 0)) s'.spawned 0 with ⟨l, hl', -⟩ | ⟨-, hs'', -⟩ | ⟨-, -, he⟩
    · cases hl.symm.trans hl'
    · cases hs.symm.trans hs''
    · exact he
  refine ⟨atOnce [.callConnect 0 peer, .run s.spawned, .callDisconnect 0, .run s'.spawned], ⟨?_, ?_, ?_, ?_⟩, ?_⟩
  · exact inv_run h.inv _
  · rw [config_run]
    exact h.unsealed
  · rw [hrun, hrelease]
    simp [answer, Session.erase, release]
  · have hj'' : ((s'.spawn (.disconnect 0)).erase s'.spawned).isLeaving = false := isLeaving_erase hj' _
    rw [hrun, hrelease]
    simpa [isLeaving, answer, Session.erase, release, letGo, hl, Session.spawn, supersede] using hj''
  · rw [hrun, ← hcount]
    have hd' := (calm_disconnect hi' hd).count _ ofDials_isDial
    exact hd'.trans (count_spawn_same s' (show (Task.disconnect 0).isDial = false from rfl))

/-- There is no bound on how many calls are outstanding. -/
theorem exists_outstanding_eq (n : Nat) :
    ∃ events, (plain.run events).outstanding = n ∧ Idle (plain.run events) := by
  induction n with
  | zero => exact ⟨[], rfl, (bare_ofConfig ..).inv, rfl, rfl, rfl⟩
  | succ n ih =>
    obtain ⟨events, hn, h⟩ := ih
    obtain ⟨more, h', hn'⟩ := h.abandon (.manual "desk" "desk.local" 9000)
    refine ⟨events ++ more, ?_, ?_⟩
    · rw [run, List.foldl_append, ← hn]
      exact hn'
    · rw [run, List.foldl_append]
      exact h'

end Session
end DeskStream

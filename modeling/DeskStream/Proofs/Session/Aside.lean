import DeskStream.Proofs.Session.Holdings
/-!
# What goes on beside the sends

While a packet is looked at, queued or written, other activities go on. None of them touches it
(`Around`): they may begin sends, but those that have begun stand where they stood, and the number of
an activity that is over is not used again. Nor do they take a sequence number, or write, or count a
message as sent (`Aside`); only an accepted connect begins the numbers anew.
-/

namespace DeskStream.Session

open Wire

variable {s s' s'' : Session} {t : Nat} {task new : Task} {but : Option Nat}

/-! ## Sends that are left alone -/

/-- Sends that have begun go on as they are, but for one, and only new ones begin. No number is used
again. -/
structure Around (but : Option Nat) (s s' : Session) : Prop where
  kept : ∀ x ∈ s.tasks, but ≠ some x.1 → x.2.isSending → x ∈ s'.tasks
  fresh : ∀ x ∈ s'.tasks, but ≠ some x.1 → x.2.isSending → x ∈ s.tasks ∨ x.2.isSend
  numbers : ∀ x ∈ s'.tasks, s.spawned ≤ x.1 ∨ ∃ y ∈ s.tasks, y.1 = x.1
  spawned : s.spawned ≤ s'.spawned

/-- Nothing is sent under this number. -/
def Rests (s : Session) (t : Nat) : Prop := ∀ y ∈ s.tasks, y.1 = t → y.2.isSending = false

theorem Numbered.rests (hn : s.Numbered) (h : s.task? t = some task) (hs : task.isSending = false) :
    s.Rests t := by
  rintro ⟨u, other⟩ hx rfl
  rw [hn.eq_of_mem h hx]
  exact hs

theorem Rests.spawn (h : s.Rests t) (hs : task.isSending = false) : (s.spawn task).Rests t := by
  intro x hx hxt
  rcases mem_spawn.1 hx with hx | rfl
  · exact h x hx hxt
  · exact hs

theorem Rests.cancel (h : s.Rests t) (link : Nat) : (s.cancel link).Rests t := by
  intro x hx hxt
  obtain ⟨y, hy, rfl⟩ := mem_cancel.1 hx
  simpa using h y hy hxt

theorem Around.of_tasks (ht : s'.tasks = s.tasks) (hs : s'.spawned = s.spawned) : Around but s s' :=
  ⟨fun _ hx _ _ => ht ▸ hx, fun _ hx _ _ => .inl (ht ▸ hx), fun x hx => .inr ⟨x, ht ▸ hx, rfl⟩,
    Nat.le_of_eq hs.symm⟩

theorem Around.trans (h : Around but s s') (h' : Around but s' s'') : Around but s s'' := by
  refine ⟨fun x hx hb hs => h'.kept x (h.kept x hx hb hs) hb hs, ?_, ?_, Nat.le_trans h.spawned h'.spawned⟩
  · intro x hx hb hs
    rcases h'.fresh x hx hb hs with hx | hx
    · exact h.fresh x hx hb hs
    · exact .inr hx
  · intro x hx
    rcases h'.numbers x hx with hx | ⟨y, hy, hyx⟩
    · exact .inl (Nat.le_trans h.spawned hx)
    · rw [← hyx]
      exact h.numbers y hy

theorem Around.except (h : Around none s s') (t : Nat) : Around (some t) s s' :=
  ⟨fun x hx _ hs => h.kept x hx (by simp) hs, fun x hx _ hs => h.fresh x hx (by simp) hs, h.numbers, h.spawned⟩

theorem Around.spawn (s : Session) (h : task.isSending = task.isSend) : Around none s (s.spawn task) := by
  refine ⟨fun x hx _ _ => mem_spawn.2 (.inl hx), ?_, ?_, Nat.le_succ _⟩
  · intro x hx _ hs
    rcases mem_spawn.1 hx with hx | rfl
    · exact .inl hx
    · exact .inr (h ▸ hs)
  · intro x hx
    rcases mem_spawn.1 hx with hx | rfl
    · exact .inr ⟨x, hx, rfl⟩
    · exact .inl (Nat.le_refl _)

/-- What stands under a number changes, and the rest stays. -/
theorem Around.put_self (s : Session) (t : Nat) (new : Task) : Around (some t) s (s.put t new) := by
  refine ⟨?_, ?_, ?_, Nat.le_refl _⟩
  · intro x hx hb _
    have hxt : x.1 ≠ t := fun hxt => hb (congrArg some hxt.symm)
    exact List.mem_map.2 ⟨x, hx, by simp [hxt]⟩
  · intro x hx hb _
    rcases mem_put hx with hx | rfl
    · exact .inl hx
    · exact absurd rfl hb
  · intro x hx
    simp only [Session.put, List.mem_map] at hx
    obtain ⟨y, hy, rfl⟩ := hx
    exact .inr ⟨y, hy, rfl⟩

theorem Around.erase_self (s : Session) (t : Nat) : Around (some t) s (s.erase t) :=
  ⟨fun _ hx hb _ => mem_erase.2 ⟨hx, fun hxt => hb (congrArg some hxt.symm)⟩,
    fun _ hx _ _ => .inl (mem_erase.1 hx).1, fun x hx => .inr ⟨x, (mem_erase.1 hx).1, rfl⟩, Nat.le_refl _⟩

/-- What is no send changes into no send, or into a new one. -/
theorem Around.of_rests (hr : s.Rests t) (h : Around (some t) s s')
    (hnew : ∀ x ∈ s'.tasks, x.1 = t → x.2.isSending → x.2.isSend) : Around none s s' := by
  refine ⟨?_, ?_, h.numbers, h.spawned⟩
  · intro x hx _ hs
    have hxt : x.1 ≠ t := fun hxt => by simp [hr x hx hxt] at hs
    exact h.kept x hx (fun hb => hxt (Option.some.inj hb).symm) hs
  · intro x hx _ hs
    by_cases hxt : x.1 = t
    · exact .inr (hnew x hx hxt hs)
    · exact h.fresh x hx (fun hb => hxt (Option.some.inj hb).symm) hs

theorem Around.put (hr : s.Rests t) (h : new.isSending = new.isSend) : Around none s (s.put t new) := by
  refine .of_rests hr (.put_self s t new) ?_
  intro x hx hxt hs
  rcases mem_put hx with hx | rfl
  · simp [hr x hx hxt] at hs
  · exact h ▸ hs

theorem Around.erase (hr : s.Rests t) : Around none s (s.erase t) :=
  .of_rests hr (.erase_self s t) fun _ hx hxt => absurd hxt (mem_erase.1 hx).2

theorem Around.cancel (s : Session) (link : Nat) : Around none s (s.cancel link) := by
  refine ⟨?_, ?_, ?_, Nat.le_refl _⟩
  · intro x hx _ hs
    exact mem_cancel.2 ⟨x, hx, by rw [Task.told_of_isSending hs]⟩
  · intro x hx _ hs
    obtain ⟨y, hy, rfl⟩ := mem_cancel.1 hx
    rw [Task.isSending_told] at hs
    exact .inl (by rwa [Task.told_of_isSending hs])
  · intro x hx
    obtain ⟨y, hy, rfl⟩ := mem_cancel.1 hx
    exact .inr ⟨y, hy, rfl⟩

/-! ## Numbers that are left alone -/

/-- The number of the next packet, and what links have taken. -/
structure Tally where
  sequence : UInt32
  sent : Nat
  written : List (Nat × Bytes)

def tally (s : Session) : Tally := ⟨s.sequence, s.stats.packetsSent, s.written⟩

/-- Sends go on as they are; besides, no number is taken, and no message written or counted. -/
structure Aside (s s' : Session) : Prop where
  around : Around none s s'
  tally : s'.tally = s.tally

theorem Aside.of_tasks (ht : s'.tasks = s.tasks) (hs : s'.spawned = s.spawned) (hy : s'.tally = s.tally) :
    Aside s s' :=
  ⟨.of_tasks ht hs, hy⟩

theorem Aside.refl (s : Session) : Aside s s := .of_tasks rfl rfl rfl

theorem Aside.trans (h : Aside s s') (h' : Aside s' s'') : Aside s s'' :=
  ⟨h.around.trans h'.around, h'.tally.trans h.tally⟩

theorem Aside.of_eq (h : Aside s' s'') (ht : s'.tasks = s.tasks) (hs : s'.spawned = s.spawned)
    (hy : s'.tally = s.tally) : Aside s s'' :=
  .trans (.of_tasks ht hs hy) h

theorem Aside.spawn (s : Session) (h : task.isSending = task.isSend) : Aside s (s.spawn task) := ⟨.spawn s h, rfl⟩

theorem Aside.put (hr : s.Rests t) (h : new.isSending = new.isSend) : Aside s (s.put t new) := ⟨.put hr h, rfl⟩

theorem Aside.erase (hr : s.Rests t) : Aside s (s.erase t) := ⟨.erase hr, rfl⟩

theorem Aside.answer (hr : s.Rests t) (call : Nat) (o : Outcome) : Aside s (s.answer t call o) :=
  (Aside.erase hr).trans (.of_tasks rfl rfl rfl)

theorem Aside.abandon (s : Session) (link : Nat) : Aside s (s.abandon link) :=
  .trans ⟨.cancel s link, rfl⟩ (.spawn _ rfl)

theorem aside_transition (s : Session) (g : Nat) (allowed : ConnectionState → Bool) (next : ConnectionState) :
    Aside s (s.transition g allowed next) := by
  unfold transition
  split <;> exact .of_tasks rfl rfl rfl

theorem Rests.transition (hr : s.Rests t) (g : Nat) (allowed : ConnectionState → Bool) (next : ConnectionState) :
    (s.transition g allowed next).Rests t := by
  unfold Session.transition
  split <;> exact hr

/-! ## Connecting, losing a link, letting go -/

theorem aside_dial (hr : s.Rests t) (call : Option Nat) (g : Nat) (peer : Peer) :
    Aside s (s.dial t call g peer) := by
  unfold dial
  split
  · have hr' : (s.failAttempt g CryptoError.notAuthenticated.message).Rests t := hr.transition _ _ _
    have h : Aside s (s.failAttempt g CryptoError.notAuthenticated.message) := aside_transition ..
    cases call with
    | none => exact h.trans (.erase hr')
    | some call => exact h.trans (.answer hr' call _)
  · exact (Aside.put hr rfl).trans (.of_tasks rfl rfl rfl)

/-- What an accepted connect does to the sends. -/
theorem Accepts.around {call : Nat} {peer : Peer} (h : s.Accepts t call peer) (hi : Inv s) (m : Moment) :
    Around none s (s.step m (.run t)) := by
  rw [h.step hi m]
  have hr : (s.accepted peer).Rests t := hi.numbered.rests h.task rfl
  have ha : Around none s (s.accepted peer) := .of_tasks rfl rfl
  exact ha.trans (aside_dial hr ..).around

theorem aside_install (hr : s.Rests t) (call : Option Nat) (l : Link) : Aside s (s.install t call l) := by
  let s₁ := ({ s with link := some l }.spawn (.listen l false)).transition l.generation (·.isAttempting) .connected
  have hl : (Task.listen l false).isSending = (Task.listen l false).isSend := rfl
  have h₁ : Aside s s₁ := .trans (.of_eq (.spawn { s with link := some l } hl) rfl rfl rfl) (aside_transition ..)
  have hr₁ : s₁.Rests t := Rests.transition (Rests.spawn (s := { s with link := some l }) hr rfl) _ _ _
  unfold install
  simp only
  split
  · exact h₁.trans (.put hr₁ rfl)
  · cases call with
    | none => exact h₁.trans (.erase hr₁)
    | some call => exact h₁.trans (.answer hr₁ ..)

theorem aside_dialDone (hr : s.Rests t) (call : Option Nat) (g : Nat) (result : Except TransportError Unit) :
    Aside s (s.dialDone t call g result) := by
  unfold dialDone
  cases result with
  | error e =>
    have h : Aside s (s.failAttempt g e.message) := aside_transition ..
    have hr' : (s.failAttempt g e.message).Rests t := hr.transition _ _ _
    cases call with
    | none => exact h.trans (.erase hr')
    | some call => exact h.trans (.answer hr' ..)
  | ok _ =>
    simp only
    split
    · exact .of_eq (aside_install (by exact hr) ..) rfl rfl rfl
    · have h : Aside s { s with
          links := s.links + 1, metrics := s.metrics.newLink, closed := s.closed ++ [s.links] } :=
        .of_tasks rfl rfl rfl
      cases call with
      | none => exact h.trans (.erase (by exact hr))
      | some call => exact h.trans (.answer (by exact hr) ..)

theorem aside_lose (s : Session) (g : Nat) (reason : String) (loss : Loss) : Aside s (s.lose g reason loss) := by
  unfold lose
  cases s.link with
  | none => exact .refl s
  | some l =>
    have h : Aside s (s.supersede.abandon l.number) :=
      .of_eq (.abandon s.supersede l.number) rfl rfl rfl
    simp only
    split
    · -- In each case a reconnect is due, or not.
      cases loss with
      | io =>
        simp only
        split
        · exact ((h.trans (aside_transition ..)).trans (aside_transition ..)).trans (.spawn _ rfl)
        · exact (h.trans (aside_transition ..)).trans (aside_transition ..)
      | sendFailures =>
        simp only
        split
        · exact (h.trans (aside_transition ..)).trans (.spawn _ rfl)
        · exact h.trans (aside_transition ..)
    · exact .refl s

theorem aside_intervalOver (hr : s.Rests t) (g : Nat) : Aside s (s.intervalOver t g) := by
  unfold intervalOver
  split
  · split
    · exact .erase hr
    · exact .of_eq (aside_dial (by exact hr) ..) rfl rfl rfl
  · exact .erase hr

theorem aside_letGo (s : Session) : Aside s s.letGo := by
  unfold letGo
  split
  · exact .of_tasks rfl rfl rfl
  · exact .of_eq ⟨.cancel s.supersede _, rfl⟩ rfl rfl rfl

theorem Rests.letGo (hr : s.Rests t) : s.letGo.Rests t := by
  unfold Session.letGo
  split
  · exact hr
  · exact Rests.cancel (s := s.supersede) hr _

theorem aside_release (s : Session) : Aside s s.release :=
  .of_eq (aside_transition ..) rfl rfl rfl

theorem Rests.release (hr : s.Rests t) : s.release.Rests t :=
  Rests.transition (s := { s with pipeline := s.pipeline.reset, ring := s.ring.logout }) hr _ _ _

theorem aside_disconnect (hr : s.Rests t) (call : Nat) : Aside s (s.disconnect t call) := by
  have h := aside_letGo s
  rcases disconnect_cases s t call with ⟨l, -, he⟩ | ⟨-, -, he⟩ | ⟨-, -, he⟩ <;> rw [he]
  · exact (h.trans (.put hr.letGo rfl)).trans (.of_tasks rfl rfl rfl)
  · exact h.trans (.answer hr.letGo ..)
  · exact (h.trans (aside_release _)).trans (.answer hr.letGo.release ..)

theorem aside_joined (hr : s.Rests t) (call : Nat) : Aside s (s.joined t call) :=
  (aside_release s).trans (.answer hr.release ..)

theorem aside_countFailure (s : Session) (g : Nat) : Aside s (s.countFailure g) := by
  unfold countFailure
  simp only
  split
  · exact .of_eq (aside_lose ..) rfl rfl rfl
  · exact .of_tasks rfl rfl rfl

/-! ## Receiving -/

theorem aside_media (s : Session) (g : Nat) (p : Packet) : Aside s (s.media g p) := by
  unfold media
  simp only
  split
  · exact .of_tasks rfl rfl rfl
  · exact .of_eq (aside_transition ..) rfl rfl rfl

theorem aside_receive (s : Session) (m : Moment) (g : Nat) (message : Bytes) : Aside s (s.receive m g message) := by
  unfold receive
  split
  · exact .of_tasks rfl rfl rfl
  · split
    · exact .of_tasks rfl rfl rfl
    · rename_i p _
      unfold packet
      cases p.kind with
      | video | audio => exact .of_eq (aside_media ..) rfl rfl rfl
      | keepAlive => exact .of_eq (.spawn _ rfl) rfl rfl rfl
      | control | auth | input => exact .of_tasks rfl rfl rfl

/-! ## Steps -/

/-- A step that sends nothing, and by which no connect is accepted. -/
theorem aside_step (hi : Inv s) (m : Moment) {e : Event}
    (hs : ∀ t task, e = .run t ∨ (∃ r, e = .writeDone t r) → s.task? t = some task → task.isSending = false)
    (hn : ∀ t call peer, e = .run t → ¬ s.Accepts t call peer) : Aside s (s.step m e) := by
  have hm := move_step s m e
  generalize s.step m e = s' at hm ⊢
  -- What is erased or answered is a task that has its turn, so it is not that of a send.
  cases hm with
  | rest => exact .refl s
  | call task hp hw hs => exact .spawn s hs
  | connect t call peer h hj =>
    have hc : s.state.canConnect ≠ true := fun hc => hn t call peer rfl ⟨h, hj, hc⟩
    rw [connect, if_neg hc]
    exact .answer (hi.numbered.rests h rfl) ..
  | disconnect t call h => exact aside_disconnect (hi.numbered.rests h rfl) call
  | joined t call link h => exact aside_joined (hi.numbered.rests h rfl) call
  | beginSend t origin kind payload h => exact absurd (hs t _ (.inl rfl) h) (by simp [Task.isSending])
  | beginWrite t origin kind payload h => exact absurd (hs t _ (.inl rfl) h) (by simp [Task.isSending])
  | close t link h => exact (Aside.erase (hi.numbered.rests h rfl)).trans (.of_tasks rfl rfl rfl)
  | unlisten t l h => exact .erase (hi.numbered.rests h rfl)
  | dialDone t call g peer result h => exact aside_dialDone (hi.numbered.rests h rfl) ..
  | intervalOver t g h => exact aside_intervalOver (hi.numbered.rests h rfl) g
  | writeDone t origin l sequence message result h =>
    exact absurd (hs t _ (.inr ⟨result, rfl⟩) h) (by simp [Task.isSending])
  | receive => exact aside_receive ..
  | linkEnded t l reason h => exact (Aside.erase (hi.numbered.rests h rfl)).trans (aside_lose ..)
  | letGo => exact aside_letGo s
  | tick | work | pop | setVolume | authenticate | logout | free => exact .of_tasks rfl rfl rfl

end DeskStream.Session

import DeskStream.Proofs.Session.Media
/-!
# A finished disconnect is final

A disconnected session has no link, no attempt and no receive loop that takes messages, so what was
still pending when it was disconnected finds nothing to act on. Until a connect is accepted it stays as
the disconnect left it (`disconnect_final`).

With one exception: a disconnect does not wait for a message that is being written, nor does it call one back, and
such a message may be taken by the link after the call has returned (`sent_after_disconnect`).
-/

namespace DeskStream.Session

open Wire

variable {s s' : Session} {t call : Nat} {task : Task}

/-- A disconnect call returns: there was no link, or the receive loop of the link has ended. -/
inductive Returns (s : Session) (t call : Nat) : Prop where
  | atOnce (h : s.task? t = some (.disconnect call)) (turn : s.isLeaving = false) (link : s.link = none)
  | joined (link : Nat) (h : s.task? t = some (.join call link)) (ended : s.isListening link = false)

/-- No connect is accepted in a run. -/
def Unconnected (s : Session) : List (Moment × Event) → Prop
  | [] => True
  | x :: events =>
    (∀ t call peer, x.2 = .run t → ¬ s.Accepts t call peer) ∧ (s.step x.1 x.2).Unconnected events

/-- Whether a connect is accepted in a step. -/
def admits (s : Session) : Event → Bool
  | .run t =>
    match s.task? t with
    | some (.connect ..) => !s.isLeaving && s.state.canConnect
    | _ => false
  | _ => false

theorem admits_eq_false {e : Event} :
    s.admits e = false ↔ ∀ t call peer, e = .run t → ¬ s.Accepts t call peer := by
  constructor
  · rintro h t call peer rfl ha
    simp [admits, ha.task, ha.turn, ha.state] at h
  · intro h
    cases e with
    | run t =>
      simp only [admits]
      split
      · rename_i call peer ht
        by_contra hc
        simp only [Bool.not_eq_false, Bool.and_eq_true, Bool.not_eq_true'] at hc
        exact h t call peer rfl ⟨ht, hc.1, hc.2⟩
      · rfl
    | _ => rfl

instance (s : Session) (events : List (Moment × Event)) : Decidable (s.Unconnected events) :=
  match events with
  | [] => isTrue trivial
  | x :: events =>
    have := instDecidableUnconnected (s.step x.1 x.2) events
    decidable_of_iff (s.admits x.2 = false ∧ (s.step x.1 x.2).Unconnected events)
      (and_congr_left fun _ => admits_eq_false)

/-- A write under way: a message handed to a link. -/
def Handed (s : Session) (link : Nat) (message : Bytes) : Prop :=
  ∃ t origin l sequence, (t, .write origin l sequence message) ∈ s.tasks ∧ l.number = link

/-- A message that is being written may be taken next. -/
theorem written_of_handed (hi : Inv s) {link : Nat} {message : Bytes} (h : s.Handed link message) (m : Moment) :
    ∃ t, (s.step m (.writeDone t (.ok ()))).written = s.written ++ [(link, message)] := by
  obtain ⟨t, origin, l, sequence, hx, rfl⟩ := h
  refine ⟨t, ?_⟩
  simp only [step, hi.numbered.task?_of_mem hx]
  exact congrArg Holdings.written (holdings_writeDone s t origin l sequence message (.ok ()))

/-! ## A step of a disconnected session -/

/-- A step of a disconnected session, as far as state and writing are concerned. -/
structure Quiet (s s' : Session) : Prop where
  state : s'.state = .disconnected
  handed : ∀ link message, s'.Handed link message → s.Handed link message
  written : s'.written = s.written ∨
    ∃ link message, s.Handed link message ∧ s'.written = s.written ++ [(link, message)]

theorem Quiet.refl (hs : s.state = .disconnected) : Quiet s s := ⟨hs, fun _ _ h => h, .inl rfl⟩

/-- Nothing is handed to a link by changes of the table that hand nothing to one. -/
theorem Quiet.of_tasks (hs : s'.state = .disconnected) (hw : s'.written = s.written)
    (ht : ∀ x ∈ s'.tasks, x ∈ s.tasks ∨ x.2.isWrite = false) : Quiet s s' := by
  refine ⟨hs, ?_, .inl hw⟩
  rintro link message ⟨t, origin, l, sequence, hm, hl⟩
  rcases ht _ hm with h | h
  · exact ⟨t, origin, l, sequence, h, hl⟩
  · simp [Task.isWrite] at h

theorem quiet_erase (hs : s.state = .disconnected) (hc : s'.core = (s.erase t).core)
    (hh : s'.holdings = s.holdings) : Quiet s s' := by
  apply Quiet.of_tasks ((congrArg Core.state hc).trans hs) (congrArg Holdings.written hh)
  intro x hx
  rw [show s'.tasks = (s.erase t).tasks from congrArg Core.tasks hc] at hx
  exact .inl (mem_erase.1 hx).1

/-- No attempt is of the generation of a disconnected session. -/
theorem stale_of_disconnected (hi : Inv s) (hs : s.state = .disconnected) (h : s.task? t = some task) {g : Nat}
    (hg : task.attempt? = some g) : s.generation ≠ g := by
  rintro rfl
  have := (hi.attempts_of_task h (by simp [Task.isAttempt, hg])).1
  simp [hs, ConnectionState.isAttempting] at this

theorem quiet_writeDone (hi : Inv s) (hs : s.state = .disconnected) {origin : Origin} {link : Link}
    {sequence : UInt32} {message : Bytes} (h : s.task? t = some (.write origin link sequence message))
    (result : Except TransportError Unit) : Quiet s (s.writeDone t origin link sequence message result) := by
  have hw := congrArg Holdings.written (holdings_writeDone s t origin link sequence message result)
  have hc : (s.writeDone t origin link sequence message result).core = (s.erase t).core := by
    unfold writeDone
    cases result with
    | ok _ => exact concludeSend_core ..
    | error e =>
      simp only
      split
      · -- Failures count, but there is no link to lose.
        rw [concludeSend_core]
        have hl := hi.link_of_disconnected hs
        unfold countFailure
        simp only
        split
        · rw [lose_other (by simp [hl])]; rfl
        · rfl
      · exact concludeSend_core ..
  have hm : ∀ x ∈ (s.writeDone t origin link sequence message result).tasks, x ∈ s.tasks := by
    intro x hx
    rw [show (s.writeDone t origin link sequence message result).tasks = _ from congrArg Core.tasks hc] at hx
    exact (mem_erase.1 hx).1
  refine ⟨(congrArg Core.state hc).trans hs, ?_, ?_⟩
  · rintro l message' ⟨u, origin', k, sequence', hu, hk⟩
    exact ⟨u, origin', k, sequence', hm _ hu, hk⟩
  · cases result with
    | ok _ => exact .inr ⟨link.number, message, ⟨t, origin, link, sequence, task?_mem h, rfl⟩, hw⟩
    | error e => exact .inl hw

theorem quiet_disconnect (hi : Inv s) (hs : s.state = .disconnected) (t call : Nat) :
    s.disconnect t call = { s.erase t with
      generation := s.generation + 1
      outcomes := s.outcomes ++ [(call, .disconnected)] } := by
  have hl := hi.link_of_disconnected hs
  simp [disconnect, hl, hs, supersede, answer, Session.erase]

theorem quiet_joined (s : Session) (t call : Nat) : Quiet s (s.joined t call) := by
  have ht : (s.joined t call).tasks = (s.erase t).tasks := by
    simp [joined, answer, Session.erase, release]
  refine .of_tasks ?_ (congrArg Holdings.written (holdings_release s)) ?_
  · simp [joined, answer, Session.erase, release]
  · intro x hx
    rw [ht] at hx
    exact .inl (mem_erase.1 hx).1

theorem quiet_step (hi : Inv s) (hs : s.state = .disconnected) (m : Moment) {e : Event}
    (hn : ∀ t call peer, e = .run t → ¬ s.Accepts t call peer) : Quiet s (s.step m e) := by
  have hl := hi.link_of_disconnected hs
  -- There is no receive loop that takes messages.
  have unheard : ∀ {t l}, s.task? t ≠ some (.listen l false) := by
    intro t l h
    have := hi.heard _ _ (task?_mem h)
    simp [hl] at this
  have hm := move_step s m e
  generalize s.step m e = s' at hm ⊢
  cases hm with
  | call task hp hw =>
    refine .of_tasks hs rfl ?_
    intro x hx
    rcases mem_spawn.1 hx with hx | rfl
    · exact .inl hx
    · exact .inr hw
  | connect t call peer h hj => exact absurd ⟨h, hj, by rw [hs]; rfl⟩ (hn t call peer rfl)
  | disconnect t call =>
    rw [quiet_disconnect hi hs]
    exact .of_tasks hs rfl fun x hx => .inl (mem_erase.1 hx).1
  | joined t call => exact quiet_joined s t call
  | beginSend =>
    simp only [beginSend, hs, ConnectionState.isConnected]
    exact quiet_erase hs (concludeSend_core ..) (holdings_concludeSend ..)
  | beginWrite =>
    simp only [beginWrite, hl]
    exact quiet_erase hs (concludeSend_core ..) (holdings_concludeSend ..)
  | close => exact quiet_erase hs (by rfl) rfl
  | unlisten => exact quiet_erase hs rfl rfl
  | dialDone t call g peer result h =>
    have hg := stale_of_disconnected hi hs h rfl
    exact quiet_erase hs (dialDone_core_of_stale hg ..) (holdings_dialDone ..)
  | intervalOver t g h =>
    have hg := stale_of_disconnected hi hs h rfl
    rw [intervalOver, if_neg hg]
    exact quiet_erase hs rfl rfl
  | writeDone t origin l sequence message result h => exact quiet_writeDone hi hs h result
  | receive t l message h => exact absurd h unheard
  | linkEnded t l reason h => exact absurd h unheard
  | letGo =>
    simp only [letGo, hl]
    exact .of_tasks hs rfl fun x hx => .inl hx
  | rest | tick | work | pop | setVolume | authenticate | logout | free =>
    exact .of_tasks hs rfl fun x hx => .inl hx

/-! ## After a disconnect -/

/-- What a session is, some time after a disconnect that left it as it then was. -/
structure Finished (left now : Session) : Prop where
  state : now.state = .disconnected
  link : now.link = none
  /-- There is no worker, nothing is shown and nothing is remembered. -/
  resting : now.pipeline.video.Resting
  /-- Every decode session that was opened is closed. -/
  closed : now.pipeline.video.opened = now.pipeline.video.closed
  /-- Nothing more has been handed to a link. -/
  handed : ∀ link message, now.Handed link message → left.Handed link message
  /-- Links took at most what they had been handed before. -/
  written : ∃ taken, now.written = left.written ++ taken ∧ ∀ x ∈ taken, left.Handed x.1 x.2
  /-- A further disconnect call is answered, and what it supersedes is nothing. -/
  again : ∀ m t call, now.task? t = some (.disconnect call) → now.isLeaving = false →
    now.step m (.run t) = { now.erase t with
      generation := now.generation + 1
      outcomes := now.outcomes ++ [(call, .disconnected)] }

/-- The call is answered, after a release unless the session was disconnected anyway. -/
theorem Returns.step (h : s.Returns t call) (m : Moment) :
    (s.task? t = some (.disconnect call) ∧ s.state = .disconnected ∧
        s.step m (.run t) = s.supersede.answer t call .disconnected) ∨
      ∃ s₁ : Session, s₁.outcomes = s.outcomes ∧
        s.step m (.run t) = s₁.release.answer t call .disconnected := by
  cases h with
  | atOnce h turn link =>
    have hstep : s.step m (.run t) = s.disconnect t call := by
      simp only [Session.step, h, resume, turn, Bool.false_eq_true, if_false]
    have hgo : s.letGo = s.supersede := by simp only [letGo, link]
    rw [hstep]
    rcases disconnect_cases s t call with ⟨l, hl, -⟩ | ⟨-, hs, he⟩ | ⟨-, -, he⟩
    · simp [link] at hl
    · exact .inl ⟨h, hs, by rw [he, hgo]⟩
    · exact .inr ⟨s.supersede, rfl, by rw [he, hgo]⟩
  | joined link h ended =>
    refine .inr ⟨s, rfl, ?_⟩
    simp [Session.step, h, resume, ended, Session.joined]

theorem Returns.state (h : s.Returns t call) (m : Moment) : (s.step m (.run t)).state = .disconnected := by
  rcases h.step m with ⟨-, hs, he⟩ | ⟨s₁, -, he⟩ <;> rw [he]
  · exact hs
  · simp [answer, Session.erase, release]

theorem Returns.outcomes (h : s.Returns t call) (m : Moment) :
    (s.step m (.run t)).outcomes = s.outcomes ++ [(call, .disconnected)] := by
  rcases h.step m with ⟨-, -, he⟩ | ⟨s₁, ho, he⟩ <;> rw [he]
  · rfl
  · simp only [answer, Session.erase, release, transition]
    split <;> simp [ho]

/-- Keys are given up, unless the call finds the session disconnected. -/
theorem Returns.keys (h : s.Returns t call)
    (hk : s.task? t = some (.disconnect call) → s.state = .disconnected → s.ring.keys = none) (m : Moment) :
    (s.step m (.run t)).ring.keys = none := by
  rcases h.step m with ⟨ht, hs, he⟩ | ⟨s₁, -, he⟩ <;> rw [he]
  · exact hk ht hs
  · exact congrArg (·.ring.keys) (holdings_release s₁)

/-- A disconnected session whose path is at rest is finished. -/
theorem finished_refl (hi : Inv s) (hs : s.state = .disconnected) (hr : s.pipeline.video.Resting)
    (hb : s.pipeline.video.Balanced) : Finished s s where
  state := hs
  link := hi.link_of_disconnected hs
  resting := hr
  closed := by simpa [VideoPath.Balanced, VideoPath.workerOrIdle, hr.worker] using hb
  handed _ _ h := h
  written := ⟨[], by simp, by simp⟩
  again m t call h hj := by
    simp only [step, h, resume, hj, Bool.false_eq_true, if_false]
    exact quiet_disconnect hi hs t call

theorem finished_step (hi : Inv s') (hb : s'.pipeline.video.Balanced) (hf : Finished s s') (m : Moment) {e : Event}
    (hn : ∀ t call peer, e = .run t → ¬ s'.Accepts t call peer) : Finished s (s'.step m e) := by
  have hq := quiet_step hi hf.state m hn
  have hr := resting_step hi (fun _ => hf.resting) m e hq.state
  have hb' : (s'.step m e).pipeline.video.Balanced := by
    rw [step_video]
    exact VideoPath.balanced_play hb _
  have h := finished_refl (inv_step hi m e) hq.state hr hb'
  refine ⟨hq.state, h.link, hr, h.closed, fun l msg hh => hf.handed l msg (hq.handed l msg hh), ?_, h.again⟩
  obtain ⟨taken, hw, ht⟩ := hf.written
  rcases hq.written with hw' | ⟨l, msg, hh, hw'⟩ <;> rw [hw', hw]
  · exact ⟨taken, rfl, ht⟩
  · refine ⟨taken ++ [(l, msg)], by simp, ?_⟩
    intro x hx
    rcases List.mem_append.1 hx with hx | hx
    · exact ht x hx
    · rw [List.mem_singleton.1 hx]
      exact hf.handed l msg hh

theorem finished_run (hi : Inv s') (hb : s'.pipeline.video.Balanced) (hf : Finished s s')
    {after : List (Moment × Event)} (hu : s'.Unconnected after) : Finished s (s'.run after) := by
  induction after generalizing s' with
  | nil => exact hf
  | cons x after ih =>
    have hb' : (s'.step x.1 x.2).pipeline.video.Balanced := by
      rw [step_video]
      exact VideoPath.balanced_play hb _
    exact ih (inv_step hi x.1 x.2) hb' (finished_step hi hb hf x.1 hu.1) hu.2

/-- Nothing more is written, whatever comes, exactly if no message was being written. -/
theorem Finished.written_forever_iff (hi : Inv s) (hb : s.pipeline.video.Balanced) (hf : Finished s s)
    (m : Moment) :
    (∀ later, s.Unconnected later → (s.run later).written = s.written) ↔
      ∀ link message, ¬ s.Handed link message := by
  constructor
  · intro h link message hh
    obtain ⟨t, ht⟩ := written_of_handed hi hh m
    have hu : s.Unconnected [(m, .writeDone t (.ok ()))] := by
      refine ⟨?_, trivial⟩
      intro t' call peer hrun
      cases hrun
    have := ht.symm.trans (h _ hu)
    simp at this
  · intro h later hu
    obtain ⟨taken, hw, ht⟩ := (finished_run hi hb hf hu).written
    cases taken with
    | nil => simpa using hw
    | cons x taken => exact absurd (ht x (by simp)) (h _ _)

/-- Once a disconnect call has returned, and until a connect is accepted, the session stays disconnected and
without a link, and has no decode session open, no frame to show and no timestamp to remember; nor has it keys,
unless the call found it disconnected with keys or someone signs in again. Further disconnect calls change nothing.
No message is handed to a link any more, but nothing at all is written only if no message was being written when
the call returned: one that was may still be taken. -/
theorem disconnect_final (config : SessionConfig) (ring : KeyRing) (format : PcmFormat)
    (before : List (Moment × Event)) (m : Moment) {t call : Nat}
    (h : Returns ((ofConfig config ring format).run before) t call) {after : List (Moment × Event)}
    (hu : (((ofConfig config ring format).run before).step m (.run t)).Unconnected after) :
    let s := (ofConfig config ring format).run before
    let s' := s.step m (.run t)
    s'.outcomes = s.outcomes ++ [(call, .disconnected)] ∧
      Finished s' (s'.run after) ∧
      ((s.task? t = some (.disconnect call) → s.state = .disconnected → s.ring.keys = none) →
        (∀ x ∈ after, ∀ credentials fresh, x.2 ≠ .authenticate credentials fresh) →
        (s'.run after).ring.keys = none) ∧
      ((∀ later, s'.Unconnected later → (s'.run later).written = s'.written) ↔
        ∀ link message, ¬ s'.Handed link message) := by
  intro s s'
  have hi : Inv s := inv_run (bare_ofConfig config ring format).inv before
  have hi' : Inv s' := inv_step hi m _
  have hb : s'.pipeline.video.Balanced := by
    have : s.pipeline.video.Balanced := balanced_run (s := ofConfig config ring format) rfl before
    rw [step_video]
    exact VideoPath.balanced_play this _
  have hr : s'.pipeline.video.Resting := by
    refine resting_step hi ?_ m _ (h.state m)
    intro hs
    exact resting_run (bare_ofConfig config ring format).inv (fun _ => resting_ofConfig ..) before hs
  have hf : Finished s' s' := finished_refl hi' (h.state m) hr hb
  refine ⟨h.outcomes m, finished_run hi' hb hf hu, fun hk he => keys_run (h.keys hk m) he, ?_⟩
  exact hf.written_forever_iff hi' hb m

/-- A session that shows a picture is disconnected, up to the last step. -/
def leave : List (Moment × Event) :=
  atOnce (([.callConnect 0 (.manual "desk" "desk.local" 9000), .run 0, .dialDone 0 (.ok ())] ++ picture 1 1000) ++
    [.callDisconnect 1, .run 2, .run 1])

/-- A message and a frame come too late, and so does another disconnect. -/
theorem disconnect_final_leave :
    let s := (ofConfig { encrypt := false, sendAuthToken := false }
      (.preshared ⟨"token"⟩ ⟨List.replicate 32 0, rfl⟩) .s16le).run leave
    let s' := s.step still (.run 2)
    let after := atOnce (picture 1 2000 ++ [.callDisconnect 2, .run 3])
    s.state = .streaming ∧ s.ring.isAuthenticated ∧ Finished s' (s'.run after) ∧
      (s'.run after).ring.keys = none := by
  intro s s' after
  have hu : s'.Unconnected after := by
    refine ⟨?_, ?_, ?_, ?_, ?_, trivial⟩ <;> rintro t call peer ⟨⟩ ha
    -- The one activity that goes on is the disconnect.
    have ht : (s'.run (atOnce (picture 1 2000 ++ [.callDisconnect 2]))).task? 3 = some (.disconnect 2) := by
      decide +kernel
    cases ht.symm.trans ha.task
  have hr : s.Returns 2 1 := .joined 0 (by decide +kernel) (by decide +kernel)
  have hfinal := disconnect_final _ _ _ leave still hr hu
  have hs : s.state = .streaming := by decide +kernel
  have hk := hfinal.2.2.1 (fun _ h => absurd (hs.symm.trans h) (by decide)) (by simp [after, atOnce, picture])
  exact ⟨hs, by decide +kernel, hfinal.2.1, hk⟩

/-- A disconnect is about to return while a link has not yet taken a message. -/
def interrupt : List (Moment × Event) :=
  atOnce [.callConnect 0 (.manual "desk" "desk.local" 9000), .run 0, .dialDone 0 (.ok ()),
    .callSend 1 .control [1], .run 2, .run 2, .callDisconnect 2, .run 3, .run 1]

/-- The link takes the message when the call has returned, and the packet counts as sent. -/
theorem sent_after_disconnect :
    let s := (ofConfig { encrypt := false, sendAuthToken := false }
      (.preshared ⟨"token"⟩ ⟨List.replicate 32 0, rfl⟩) .s16le).run interrupt
    let s' := s.step still (.run 3)
    let later := atOnce [.writeDone 2 (.ok ())]
    s.Returns 3 2 ∧ s'.Unconnected later ∧ s'.state = .disconnected ∧ s'.stats.packetsSent = 0 ∧
      s'.written = [] ∧ (s'.run later).state = .disconnected ∧ (s'.run later).stats.packetsSent = 1 ∧
      (s'.run later).written.map (·.1) = [0] := by
  refine ⟨.joined 0 (by decide +kernel) (by decide +kernel), ?_⟩
  decide +kernel

end DeskStream.Session

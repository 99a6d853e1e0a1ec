import DeskStream.Proofs.Video.Moves
import DeskStream.Proofs.Video.Queue
/-!
# What comes of video frames

However a path is used, `log` keeps account of what comes of frames. They leave the worker in the order in
which they were accepted (`done_sublist`), and the presentation queue in the order in which they were
presented (`popped_sublist`). A presentation starts afresh exactly on a path that is clean
(`startsFresh_iff`), and a reset makes it so.
-/

namespace DeskStream.VideoPath

open Wire

variable {v : VideoPath} {job : VideoJob} {rest : List VideoJob}

/-! ## The account -/

/-- What comes of all that is done. -/
def log (v : VideoPath) : List Op → Log
  | [] => {}
  | op :: ops => (v.note op).append ((v.handle op).log ops)

/-- What one thing done does to the frames that wait and those that are shown. -/
inductive Effect (v v' : VideoPath) (op : Op) : Log → Prop where
  /-- Nothing yet: at most a frame is taken to the decoder. -/
  | none (hp : v'.pending = v.pending) (hf : v'.frames = v.frames) (hl : v'.lastPresented = v.lastPresented) :
    Effect v v' op {}
  | accept (job : VideoJob) (hp : v'.pending = v.pending ++ [job]) (hf : v'.frames = v.frames)
    (hl : v'.lastPresented = v.lastPresented) : Effect v v' op { accepted := [job] }
  /-- The oldest frame was not decoded. -/
  | fail (job : VideoJob) (hp : v.pending = job :: v'.pending) (hf : v'.frames = v.frames)
    (hl : v'.lastPresented = v.lastPresented) : Effect v v' op { done := [(job, none)] }
  | late (job : VideoJob) (f : DecodedFrame) (hp : v.pending = job :: v'.pending) (hf : v'.frames = v.frames)
    (hl : v'.lastPresented = v.lastPresented) (h : v.isLate f) : Effect v v' op { done := [(job, some f)] }
  | present (job : VideoJob) (f : DecodedFrame) (hp : v.pending = job :: v'.pending)
    (hf : v'.frames = (v.frames.push f).1) (hl : v'.lastPresented = some f.timestamp) (h : ¬ v.isLate f) :
    Effect v v' op { done := [(job, some f)], presented := [f] }
  | pop (f : DecodedFrame) (hp : v'.pending = v.pending) (hf : v.frames.items = f :: v'.frames.items)
    (hl : v'.lastPresented = v.lastPresented) : Effect v v' op { popped := [f] }
  | reset (h : op = .reset) (hp : v'.pending = []) (hf : v'.frames.items = [])
    (hl : v'.lastPresented = .none) : Effect v v' op {}

theorem Move.effect {v v' : VideoPath} {op : Op} {l : Log} {g : Ledger} (h : Move v op v' l g) : Effect v v' op l := by
  cases h with
  | malformed | refuse | rest | idle | nothing => exact .none rfl rfl rfl
  | accept => exact .accept _ (by simp [pending, workerOrIdle]) rfl rfl
  | reuse _ hw | reopen hw => exact .none (by simp [pending, workerOrIdle, hw]) rfl rfl
  | @unopened job _ _ _ _ hw | @fail job _ _ _ _ hw | @recreate job _ _ _ _ hw =>
    exact .fail job (by simp [pending, workerOrIdle, hw]) rfl rfl
  | @late job _ _ _ f hw hl => exact .late job f (by simp [pending, workerOrIdle, hw]) rfl rfl hl
  | @present job _ _ _ f hw hl => exact .present job f (by simp [pending, workerOrIdle, hw]) rfl rfl hl
  | pop hf => exact .pop _ rfl hf rfl
  | reset => exact .reset rfl rfl rfl rfl

theorem effect (v : VideoPath) (op : Op) : Effect v (v.handle op) op (v.note op) := (v.move op).effect

/-! ## Order -/

/-- What leaves a queue and what it holds come, in order, from what it held and what entered it. -/
theorem leaving_sublist {α : Type} {out out' entered entered' held held' held'' : List α}
    (h : (out ++ held').Sublist (held ++ entered)) (h' : (out' ++ held'').Sublist (held' ++ entered')) :
    ((out ++ out') ++ held'').Sublist (held ++ (entered ++ entered')) := by
  have := (h'.append_left out).trans (by simpa using h.append_right entered')
  simpa using this

variable {v' : VideoPath} {op : Op} {l : Log}

theorem Effect.done (h : Effect v v' op l) :
    (l.done.map (·.1) ++ v'.pending).Sublist (v.pending ++ l.accepted) := by
  cases h with
  | none hp | accept _ hp | fail _ hp | late _ _ hp | present _ _ hp | pop _ hp | reset _ hp => simp [hp]

theorem Effect.popped (h : Effect v v' op l) :
    (l.popped ++ v'.frames.items).Sublist (v.frames.items ++ l.presented) := by
  cases h with
  | none _ hf | accept _ _ hf | fail _ _ hf | late _ _ _ hf | pop _ _ hf | reset _ _ hf => simp [hf]
  | present _ f _ hf => simpa [hf] using FrameQueue.push_sublist v.frames f

theorem Effect.presented (h : Effect v v' op l) : l.presented.Sublist l.decoded := by
  cases h <;> simp [Log.decoded]

theorem Effect.lastPresented (h : Effect v v' op l) (hd : l.decoded = []) :
    v'.lastPresented = v.lastPresented ∨ (op = .reset ∧ v'.lastPresented = .none) := by
  cases h with
  | none _ _ hl | accept _ _ _ hl | fail _ _ _ hl | late _ _ _ _ hl | pop _ _ _ hl => exact .inl hl
  | present => simp [Log.decoded] at hd
  | reset h _ _ hl => exact .inr ⟨h, hl⟩

/-- Frames leave the worker in the order in which they were accepted. -/
theorem done_sublist (v : VideoPath) (ops : List Op) :
    ((v.log ops).done.map (·.1) ++ (v.play ops).pending).Sublist (v.pending ++ (v.log ops).accepted) := by
  induction ops generalizing v with
  | nil => simp [log]
  | cons op ops ih => simpa [log, Log.append] using leaving_sublist (effect v op).done (ih (v.handle op))

/-- Frames are popped in the order in which they were presented. -/
theorem popped_sublist (v : VideoPath) (ops : List Op) :
    ((v.log ops).popped ++ (v.play ops).frames.items).Sublist (v.frames.items ++ (v.log ops).presented) := by
  induction ops generalizing v with
  | nil => simp [log]
  | cons op ops ih => simpa [log, Log.append] using leaving_sublist (effect v op).popped (ih (v.handle op))

/-- Only decoded frames are presented. -/
theorem presented_sublist (v : VideoPath) (ops : List Op) : (v.log ops).presented.Sublist (v.log ops).decoded := by
  induction ops generalizing v with
  | nil => simp [log]
  | cons op ops ih => simpa [log, Log.append, Log.decoded] using (effect v op).presented.append (ih (v.handle op))

/-- While nothing is decoded nothing new is remembered, and only a reset forgets. -/
theorem lastPresented_of_undecoded (v : VideoPath) {ops : List Op} (h : (v.log ops).decoded = []) :
    (v.play ops).lastPresented = v.lastPresented ∨ (.reset ∈ ops ∧ (v.play ops).lastPresented = none) := by
  induction ops generalizing v with
  | nil => exact .inl rfl
  | cons op ops ih =>
    have hd : (v.note op).decoded = [] ∧ ((v.handle op).log ops).decoded = [] := by
      simpa [log, Log.append, Log.decoded] using h
    rcases ih _ hd.2 with h2 | ⟨hr, h2⟩
    · rcases (effect v op).lastPresented hd.1 with h1 | ⟨rfl, h1⟩
      · exact .inl (h2.trans h1)
      · exact .inr ⟨List.mem_cons_self, h2.trans h1⟩
    · exact .inr ⟨List.mem_cons_of_mem _ hr, h2⟩

/-! ## Decode sessions -/

/-- Every session that was opened has been closed, in that order, but for the one that is open. -/
def Balanced (v : VideoPath) : Prop := v.opened = v.closed ++ v.workerOrIdle.session.toList

theorem Balanced.of_calls (h : v.Balanced) {calls : List DecoderCall} (hc : v'.calls = v.calls ++ calls)
    (hs : v.workerOrIdle.session.toList ++ calls.filterMap DecoderCall.opened? =
      calls.filterMap DecoderCall.closed? ++ v'.workerOrIdle.session.toList) : v'.Balanced := by
  unfold Balanced at h ⊢
  rw [opened_of_calls hc, closed_of_calls hc, h, List.append_assoc, hs, List.append_assoc]

theorem Move.balanced {g : Ledger} (hm : Move v op v' l g) (h : v.Balanced) : v'.Balanced := by
  cases hm with
  | malformed | rest | idle | nothing | pop | accept | refuse => exact h
  | reuse _ hw | late _ hw | present _ hw | fail _ hw =>
    refine h.of_calls (List.append_nil _).symm ?_
    simp [workerOrIdle, hw]
  | @reopen _ _ session _ hw | @unopened _ _ session _ _ hw =>
    refine h.of_calls (List.append_assoc ..) ?_
    rw [workerOrIdle, hw]
    cases session <;> rfl
  | @recreate _ _ session _ _ hw =>
    refine h.of_calls rfl ?_
    rw [workerOrIdle, hw]
    cases session <;> rfl
  | reset =>
    refine h.of_calls rfl ?_
    cases v.workerOrIdle.session <;> rfl

theorem balanced_handle (h : v.Balanced) (op : Op) : Balanced (v.handle op) := (v.move op).balanced h

theorem balanced_play (h : v.Balanced) (ops : List Op) : Balanced (v.play ops) := by
  induction ops generalizing v with
  | nil => exact h
  | cons op ops ih => exact ih (balanced_handle h op)

/-! ## A fresh start -/

/-- Nothing waits for the decoder or is inside it, nothing is shown, and nothing is remembered. -/
structure Clean (v : VideoPath) : Prop where
  pending : v.pending = []
  frames : v.frames.items = []
  lastPresented : v.lastPresented = none

/-- A frame has been handed to the presentation queue. -/
structure Presents (v v' : VideoPath) (f : DecodedFrame) : Prop where
  newest : v'.frames.items.getLast? = some f
  last : v'.lastPresented = some f.timestamp
  counted : v'.stats.presented = v.stats.presented + 1

/-- Whatever is done from here on, what is popped was decoded from frames accepted since, and the first of
these to be decoded is presented, whatever its timestamp. -/
structure StartsFresh (v : VideoPath) : Prop where
  only : ∀ ops, ∀ f ∈ (v.log ops).popped, ∃ job ∈ (v.log ops).accepted, (job, some f) ∈ (v.log ops).done
  first : ∀ ops job f, (v.log ops).decoded = [] → (v.play ops).current? = some job →
    job ∈ (v.log ops).accepted → Presents (v.play ops) ((v.play ops).work (.finish (.ok f))) f

theorem log_append (v : VideoPath) (a b : List Op) : v.log (a ++ b) = (v.log a).append ((v.play a).log b) := by
  induction a generalizing v with
  | nil => simp [log, Log.append]
  | cons op a ih => simp [log, Log.append, ih]

/-- As after a reset: there is no worker, so no session is open, and nothing is shown or remembered. -/
structure Resting (v : VideoPath) : Prop where
  worker : v.worker = none
  frames : v.frames.items = []
  lastPresented : v.lastPresented = none

theorem Resting.clean (h : v.Resting) : v.Clean :=
  ⟨by simp [VideoPath.pending, workerOrIdle, h.worker], h.frames, h.lastPresented⟩

theorem reset_resting (v : VideoPath) : v.reset.Resting := ⟨rfl, rfl, rfl⟩

/-- Only a frame that is submitted ends the rest. -/
theorem Resting.handle (h : v.Resting) (hop : ∀ payload timestamp, op ≠ .submit payload timestamp) :
    (v.handle op).Resting := by
  cases op with
  | submit payload timestamp => exact absurd rfl (hop payload timestamp)
  | work action =>
    have : v.work action = v := by cases action <;> simp [work, next, finish, h.worker]
    simpa only [VideoPath.handle, this] using h
  | pop => exact ⟨h.worker, by simp [VideoPath.handle, VideoPath.pop, FrameQueue.pop, h.frames], h.lastPresented⟩
  | reset => exact reset_resting v

theorem Resting.play (h : v.Resting) {ops : List Op}
    (hops : ∀ payload timestamp, .submit payload timestamp ∉ ops) : (v.play ops).Resting := by
  induction ops generalizing v with
  | nil => exact h
  | cons op ops ih =>
    have hop : ∀ payload timestamp, op ≠ .submit payload timestamp := by
      intro payload timestamp he
      exact hops payload timestamp (by simp [he])
    have hrest : ∀ payload timestamp, .submit payload timestamp ∉ ops := by
      intro payload timestamp hm
      exact hops payload timestamp (List.mem_cons_of_mem _ hm)
    exact ih (h.handle hop) hrest

theorem worker_of_current (h : v.current? = some job) : ∃ w, v.worker = some w ∧ w.current = some job := by
  cases hw : v.worker with
  | none => simp [current?, workerOrIdle, hw] at h
  | some w => exact ⟨w, rfl, by simpa [current?, workerOrIdle, hw] using h⟩

theorem finish_presents (h : v.current? = some job) {f : DecodedFrame} (hl : ¬ v.isLate f) :
    Presents v (v.work (.finish (.ok f))) f := by
  obtain ⟨w, hw, hc⟩ := worker_of_current h
  simp only [isLate] at hl
  refine ⟨?_, ?_, ?_⟩ <;> simp [work, finish, hw, hc, present, hl, FrameQueue.push_getLast]

theorem finish_late (h : v.current? = some job) {f : DecodedFrame} (hl : v.isLate f) :
    (v.work (.finish (.ok f))).stats.presented = v.stats.presented := by
  obtain ⟨w, hw, hc⟩ := worker_of_current h
  simp only [isLate] at hl
  simp [work, finish, hw, hc, present, hl]

/-- What the decoder gives is presented exactly if it is newer than the last frame presented. -/
theorem presents_iff (h : v.current? = some job) (f : DecodedFrame) :
    Presents v (v.work (.finish (.ok f))) f ↔ ¬ v.isLate f := by
  refine ⟨?_, finish_presents h⟩
  intro hp hl
  have := hp.counted
  rw [finish_late h hl] at this
  omega

theorem Clean.not_isLate (hc : v.Clean) {ops : List Op} (hd : (v.log ops).decoded = []) (f : DecodedFrame) :
    ¬ (v.play ops).isLate f := by
  rcases lastPresented_of_undecoded v hd with hl | ⟨-, hl⟩
  · simp [isLate, hl, hc.lastPresented]
  · simp [isLate, hl]

theorem Clean.startsFresh (hc : v.Clean) : v.StartsFresh where
  only ops f hf := by
    have hp := popped_sublist v ops
    have hd := done_sublist v ops
    rw [hc.frames, List.nil_append] at hp
    rw [hc.pending, List.nil_append] at hd
    have : f ∈ (v.log ops).decoded := (presented_sublist v ops).mem (hp.mem (List.mem_append_left _ hf))
    obtain ⟨⟨job, o⟩, hm, ho⟩ := List.mem_filterMap.1 this
    simp only at ho
    subst ho
    exact ⟨job, hd.mem (List.mem_append_left _ (List.mem_map.2 ⟨_, hm, rfl⟩)), hm⟩
  first ops job f hd h _ := finish_presents h (hc.not_isLate hd f)

/-- A frame that waits can be taken to the decoder, if it is not there already. -/
theorem exists_current (h : v.pending = job :: rest) :
    ∃ ops, (v.play ops).current? = some job ∧ (v.play ops).pending = job :: rest ∧ v.log ops = {} ∧
      (v.play ops).frames = v.frames ∧ (v.play ops).lastPresented = v.lastPresented := by
  rcases hw : v.worker with _ | ⟨jobs, _ | current, session, failures⟩
  · simp [pending, workerOrIdle, hw] at h
  · have hj : jobs = job :: rest := by simpa [pending, workerOrIdle, hw] using h
    have hn : v.note (.work (.next (.ok ()))) = {} := rfl
    refine ⟨[.work (.next (.ok ()))], ?_⟩
    by_cases hs : session = some job.unit.format <;>
      simp [handle, work, next, hw, hj, ensureSession, closeSession, hs, current?, pending, workerOrIdle, log, hn,
        Log.append]
  · have hc : current = job := by
      have : current :: jobs = job :: rest := by simpa [pending, workerOrIdle, hw] using h
      exact (List.cons.inj this).1
    exact ⟨[], by simp [current?, workerOrIdle, hw, hc], h, rfl, rfl, rfl⟩

/-- The worker can be done with all it has, without having decoded any of it. -/
theorem exists_idle (v : VideoPath) : ∃ ops, (v.play ops).pending = [] ∧ (v.log ops).accepted = [] ∧
    (v.log ops).decoded = [] ∧ (v.play ops).lastPresented = v.lastPresented := by
  induction hp : v.pending generalizing v with
  | nil => exact ⟨[], hp, rfl, rfl, rfl⟩
  | cons job rest ih =>
    obtain ⟨ops, hc, hp', hlog, -, hl⟩ := exists_current hp
    let e : Op := .work (.finish (.error (.codecFailure .emptyUnit)))
    have he : ((v.play ops).note e) = { done := [(job, none)] } := by simp [note, e, hc]
    have hfail : ((v.play ops).handle e).pending = rest ∧
        ((v.play ops).handle e).lastPresented = (v.play ops).lastPresented := by
      have heff := effect (v.play ops) e
      rw [he] at heff
      cases heff with
      | fail _ hq _ hl' =>
        rw [hp'] at hq
        exact ⟨(List.cons.inj hq).2.symm, hl'⟩
    -- One frame less waits, and nothing was decoded.
    obtain ⟨more, h1, h2, h3, h4⟩ := ih _ hfail.1
    refine ⟨ops ++ e :: more, ?_⟩
    rw [play_append, log_append, play_cons, hlog, h4, hfail.2, hl]
    simp only [log, he, Log.append, Log.decoded] at h2 h3 ⊢
    simp [h1, h2, h3]

/-- A frame that comes to an idle worker can be taken to the decoder. -/
theorem exists_accepted (h : v.pending = []) : ∃ ops job, (v.play ops).current? = some job ∧
    (v.log ops).accepted = [job] ∧ (v.log ops).decoded = [] ∧ (v.play ops).lastPresented = v.lastPresented := by
  have hu : VideoUnit.decode [1, 0, 1, 0, 1] = .ok ⟨⟨.h264, 1, 1⟩, []⟩ := rfl
  have hj : v.workerOrIdle.current = none ∧ v.workerOrIdle.jobs = [] := by simpa [pending] using h
  have hroom : v.workerOrIdle.jobs.length < v.queueCapacity := by
    rw [hj.2]; exact Nat.lt_of_lt_of_le Nat.zero_lt_one (Nat.le_max_right _ _)
  have hn : v.note (.submit [1, 0, 1, 0, 1] 0) = { accepted := [⟨⟨⟨.h264, 1, 1⟩, []⟩, 0⟩] } := by
    simp only [note, submit_of_room hu 0 hroom, hu]
  have heff := effect v (.submit [1, 0, 1, 0, 1] 0)
  rw [hn] at heff
  cases heff with
  | accept _ hp _ hl =>
    rw [h, List.nil_append] at hp
    obtain ⟨ops, hc, -, hlog, -, hl'⟩ := exists_current hp
    refine ⟨.submit [1, 0, 1, 0, 1] 0 :: ops, _, hc, ?_, ?_, hl'.trans hl⟩ <;>
      simp [log, hlog, hn, Log.append, Log.decoded]

/-- The path is clean exactly when a presentation starts afresh on it. -/
theorem startsFresh_iff : v.StartsFresh ↔ v.Clean := by
  refine ⟨?_, Clean.startsFresh⟩
  intro h
  have frames : v.frames.items = [] := by
    cases hi : v.frames.items with
    | nil => rfl
    | cons f rest =>
      obtain ⟨job, hj, -⟩ := h.only [.pop] f (by simp [log, note, Log.append, VideoPath.pop, FrameQueue.pop, hi])
      simp [log, note, Log.append] at hj
  have lastPresented : v.lastPresented = none := by
    cases hl : v.lastPresented with
    | none => rfl
    | some last =>
      -- A frame of timestamp 0, once the worker is done with all that waited before.
      obtain ⟨ops, hp, ha, hd, hk⟩ := exists_idle v
      obtain ⟨more, job, hc, ha', hd', hk'⟩ := exists_accepted hp
      have hlate : ((v.play ops).play more).isLate ⟨0, job.unit.format, []⟩ := by simp [isLate, hk', hk, hl]
      have := h.first (ops ++ more) job ⟨0, job.unit.format, []⟩
        (by simp [log_append, Log.append, Log.decoded] at hd hd' ⊢; exact ⟨hd, hd'⟩)
        (by rwa [play_append]) (by simp [log_append, Log.append, ha'])
      rw [play_append] at this
      exact absurd hlate ((presents_iff hc _).1 this)
  refine ⟨?_, frames, lastPresented⟩
  cases hp : v.pending with
  | nil => rfl
  | cons job rest =>
    -- The oldest frame that waits, decoded and popped.
    obtain ⟨ops, hc, -, hlog, hf, hl⟩ := exists_current hp
    let finish : Op := .work (.finish (.ok job.asFrame))
    have hnew : ¬ (v.play ops).isLate job.asFrame := by simp [isLate, hl, lastPresented]
    have hitems : ((v.play ops).handle finish).frames.items = [job.asFrame] := by
      have heff := effect (v.play ops) finish
      rw [show (v.play ops).note finish = { done := [(job, some job.asFrame)], presented := [job.asFrame] } by
        simp [note, finish, hc, hnew]] at heff
      cases heff with
      | present _ _ _ hf' => rw [hf', FrameQueue.push_of_empty (by rw [hf, frames])]
    obtain ⟨job', hj, -⟩ := h.only (ops ++ [finish, .pop]) job.asFrame
      (by simp [log_append, log, note, Log.append, VideoPath.pop, FrameQueue.pop, hitems])
    simp [log_append, log, hlog, note, Log.append, finish] at hj

end DeskStream.VideoPath

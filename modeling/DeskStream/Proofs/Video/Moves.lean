import DeskStream.Video.Path
/-!
# What may happen to a video path

A path is given frames, worked, popped and reset, in any order. `Move` says what each of these comes to,
with the path it leads to (`move`), so that what they keep is a case analysis that does not look at the
path's functions again.
-/

namespace DeskStream.VideoPath

open Wire

variable {v : VideoPath}

/-- What may be done to a path. -/
inductive Op where
  | submit (payload : Bytes) (timestamp : UInt64)
  | work (action : Action)
  | pop
  | reset

def handle (v : VideoPath) : Op → VideoPath
  | .submit payload timestamp => (v.submit payload timestamp).1
  | .work action => v.work action
  | .pop => v.pop.1
  | .reset => v.reset

def play (v : VideoPath) (ops : List Op) : VideoPath := ops.foldl handle v

@[simp] theorem play_nil (v : VideoPath) : v.play [] = v := rfl
@[simp] theorem play_cons (v : VideoPath) (op : Op) (ops : List Op) :
    v.play (op :: ops) = (v.handle op).play ops := rfl

theorem play_append (v : VideoPath) (a b : List Op) : v.play (a ++ b) = (v.play a).play b := List.foldl_append

/-- The worker, an idle one if there is none. -/
def workerOrIdle (v : VideoPath) : Worker := v.worker.getD {}

/-- The frame inside the decoder. -/
def current? (v : VideoPath) : Option VideoJob := v.workerOrIdle.current

/-- Frames that wait for the decoder, oldest first. -/
def waiting (v : VideoPath) : List VideoJob := v.workerOrIdle.jobs

/-- The format of the open decode session. -/
def session? (v : VideoPath) : Option VideoFormat := v.workerOrIdle.session

/-- Frames the worker is not done with, oldest first. -/
def pending (v : VideoPath) : List VideoJob := v.workerOrIdle.current.toList ++ v.workerOrIdle.jobs

/-- A frame is not newer than the last one presented. -/
def isLate (v : VideoPath) (f : DecodedFrame) : Bool := v.lastPresented.any fun last => f.timestamp ≤ last

/-! ## What comes of frames -/

/-- What came of frames, oldest first. -/
structure Log where
  /-- Frames that the decode queue took. -/
  accepted : List VideoJob := []
  /-- Frames that the worker is done with, and what they were decoded to. -/
  done : List (VideoJob × Option DecodedFrame) := []
  presented : List DecodedFrame := []
  popped : List DecodedFrame := []

namespace Log

def append (a b : Log) : Log :=
  ⟨a.accepted ++ b.accepted, a.done ++ b.done, a.presented ++ b.presented, a.popped ++ b.popped⟩

/-- Frames as they were decoded. -/
def decoded (l : Log) : List DecodedFrame := l.done.filterMap (·.2)

end Log

/-- The frame that is used up because no session can be opened for it. -/
def unopened (v : VideoPath) : Except DecodeError Unit → List VideoJob
  | .ok _ => []
  | .error _ =>
    match v.workerOrIdle.current, v.workerOrIdle.jobs with
    | none, job :: _ => if v.workerOrIdle.session = some job.unit.format then [] else [job]
    | _, _ => []

/-- What comes of one thing done. -/
def note (v : VideoPath) : Op → Log
  | .submit payload timestamp =>
    match VideoUnit.decode payload, (v.submit payload timestamp).2 with
    | .ok unit, .ok _ => { accepted := [⟨unit, timestamp⟩] }
    | _, _ => {}
  | .work (.next accepted) => { done := (v.unopened accepted).map (·, none) }
  | .work (.finish (.ok f)) =>
    { done := v.current?.toList.map (·, some f)
      presented := if v.current?.isSome ∧ ¬ v.isLate f then [f] else [] }
  | .work (.finish (.error _)) => { done := v.current?.toList.map (·, none) }
  | .pop => { popped := v.pop.2.toList }
  | .reset => {}

/-- Frames that come to nothing. -/
structure Ledger where
  /-- A full decode queue refused them. -/
  refused : List VideoJob := []
  /-- They were decoded, but not newer than the last one presented. -/
  late : List DecodedFrame := []
  /-- A full presentation queue gave them up for newer ones. -/
  evicted : List DecodedFrame := []
  /-- The worker was not done with them at a reset. -/
  discarded : List VideoJob := []
  /-- They were presented, and nobody had taken them at a reset. -/
  unseen : List DecodedFrame := []

def Ledger.append (a b : Ledger) : Ledger :=
  ⟨a.refused ++ b.refused, a.late ++ b.late, a.evicted ++ b.evicted, a.discarded ++ b.discarded, a.unseen ++ b.unseen⟩

/-- Which frames come to nothing by one thing done. -/
def losses (v : VideoPath) : Op → Ledger
  | .submit payload timestamp =>
    match VideoUnit.decode payload, (v.submit payload timestamp).2 with
    | .ok unit, .error _ => { refused := [⟨unit, timestamp⟩] }
    | _, _ => {}
  | .work (.finish (.ok f)) =>
    if v.current?.isSome then if v.isLate f then { late := [f] } else { evicted := (v.frames.push f).2.toList }
    else {}
  | .reset => { discarded := v.pending, unseen := v.frames.items }
  | .work _ | .pop => {}

/-- While there is room a frame is accepted, and waits as the last. -/
theorem submit_of_room {payload : Bytes} {unit : VideoUnit} (hu : VideoUnit.decode payload = .ok unit)
    (timestamp : UInt64) (hc : v.workerOrIdle.jobs.length < v.queueCapacity) :
    v.submit payload timestamp = ({ v with
      worker := some { v.workerOrIdle with jobs := v.workerOrIdle.jobs ++ [⟨unit, timestamp⟩] }
      stats := { v.stats with submitted := v.stats.submitted + 1 } }, .ok ()) := by
  simp only [submit, hu]
  exact if_pos hc

/-- A full queue refuses it. -/
theorem submit_of_full {payload : Bytes} {unit : VideoUnit} (hu : VideoUnit.decode payload = .ok unit)
    (timestamp : UInt64) (hc : v.queueCapacity ≤ v.workerOrIdle.jobs.length) :
    v.submit payload timestamp = ({ v with
      worker := some v.workerOrIdle
      stats := { v.stats with submitted := v.stats.submitted + 1, refused := v.stats.refused + 1 } },
        .error (.dropped .queueFull)) := by
  simp only [submit, hu]
  exact if_neg (Nat.not_lt.2 hc)

/-! ## One thing done -/

/-- What one thing done comes to: where it leads, and what comes of frames. -/
inductive Move (v : VideoPath) : Op → VideoPath → Log → Ledger → Prop where
  /-- A payload that is no access unit. -/
  | malformed {payload : Bytes} (timestamp : UInt64) {why : WireError} (hu : VideoUnit.decode payload = .error why) :
    Move v (.submit payload timestamp) v {} {}
  | accept {payload : Bytes} (timestamp : UInt64) {unit : VideoUnit} (hu : VideoUnit.decode payload = .ok unit)
    (hc : v.workerOrIdle.jobs.length < v.queueCapacity) :
    Move v (.submit payload timestamp) { v with
      worker := some { v.workerOrIdle with jobs := v.workerOrIdle.jobs ++ [⟨unit, timestamp⟩] }
      stats := { v.stats with submitted := v.stats.submitted + 1 } } { accepted := [⟨unit, timestamp⟩] } {}
  | refuse {payload : Bytes} (timestamp : UInt64) {unit : VideoUnit} (hu : VideoUnit.decode payload = .ok unit)
    (hc : v.queueCapacity ≤ v.workerOrIdle.jobs.length) :
    Move v (.submit payload timestamp) { v with
      worker := some v.workerOrIdle
      stats := { v.stats with submitted := v.stats.submitted + 1, refused := v.stats.refused + 1 } }
      {} { refused := [⟨unit, timestamp⟩] }
  /-- No frame waits, or one is inside the decoder. -/
  | rest (accepted : Except DecodeError Unit) (h : v.workerOrIdle.jobs = [] ∨ v.current? ≠ none) :
    Move v (.work (.next accepted)) v {} {}
  /-- The open session is for the format. -/
  | reuse (accepted : Except DecodeError Unit) {job : VideoJob} {jobs : List VideoJob} {failures : Nat}
    (hw : v.worker = some ⟨job :: jobs, none, some job.unit.format, failures⟩) :
    Move v (.work (.next accepted))
      { v with worker := some ⟨jobs, some job, some job.unit.format, failures⟩ } {} {}
  | reopen {job : VideoJob} {jobs : List VideoJob} {session : Option VideoFormat} {failures : Nat}
    (hw : v.worker = some ⟨job :: jobs, none, session, failures⟩) (hs : session ≠ some job.unit.format) :
    Move v (.work (.next (.ok ()))) { v with
      worker := some ⟨jobs, some job, some job.unit.format, failures⟩
      calls := v.calls ++ session.toList.map .closed ++ [.opened job.unit.format]
      stats := { v.stats with sessionsOpened := v.stats.sessionsOpened + 1 } } {} {}
  /-- No session can be opened, and the frame is used up. -/
  | unopened {job : VideoJob} {jobs : List VideoJob} {session : Option VideoFormat} {failures : Nat}
    (why : DecodeError) (hw : v.worker = some ⟨job :: jobs, none, session, failures⟩)
    (hs : session ≠ some job.unit.format) :
    Move v (.work (.next (.error why))) { v with
      worker := some ⟨jobs, none, none, failures⟩
      calls := v.calls ++ session.toList.map .closed ++ [.refused job.unit.format]
      stats := { v.stats with failures := v.stats.failures + 1 } } { done := [(job, none)] } {}
  /-- Nothing is inside the decoder. -/
  | idle (outcome : Except DecodeError DecodedFrame) (hc : v.current? = none) :
    Move v (.work (.finish outcome)) v {} {}
  | late {job : VideoJob} {jobs : List VideoJob} {session : Option VideoFormat} {failures : Nat} (f : DecodedFrame)
    (hw : v.worker = some ⟨jobs, some job, session, failures⟩) (hl : v.isLate f) :
    Move v (.work (.finish (.ok f))) { v with
      worker := some ⟨jobs, none, session, 0⟩
      stats := { v.stats with decoded := v.stats.decoded + 1, late := v.stats.late + 1 } }
      { done := [(job, some f)] } { late := [f] }
  | present {job : VideoJob} {jobs : List VideoJob} {session : Option VideoFormat} {failures : Nat} (f : DecodedFrame)
    (hw : v.worker = some ⟨jobs, some job, session, failures⟩) (hl : ¬ v.isLate f) :
    Move v (.work (.finish (.ok f))) { v with
      worker := some ⟨jobs, none, session, 0⟩
      lastPresented := some f.timestamp
      frames := (v.frames.push f).1
      stats := { v.stats with decoded := v.stats.decoded + 1, presented := v.stats.presented + 1 } }
      { done := [(job, some f)], presented := [f] } { evicted := (v.frames.push f).2.toList }
  | fail {job : VideoJob} {jobs : List VideoJob} {session : Option VideoFormat} {failures : Nat} (why : DecodeError)
    (hw : v.worker = some ⟨jobs, some job, session, failures⟩) (ht : failures + 1 < v.threshold) :
    Move v (.work (.finish (.error why))) { v with
      worker := some ⟨jobs, none, session, failures + 1⟩
      stats := { v.stats with failures := v.stats.failures + 1 } } { done := [(job, none)] } {}
  /-- A failure too many closes the session. -/
  | recreate {job : VideoJob} {jobs : List VideoJob} {session : Option VideoFormat} {failures : Nat}
    (why : DecodeError) (hw : v.worker = some ⟨jobs, some job, session, failures⟩)
    (ht : v.threshold ≤ failures + 1) :
    Move v (.work (.finish (.error why))) { v with
      worker := some ⟨jobs, none, none, 0⟩
      calls := v.calls ++ session.toList.map .closed
      stats := { v.stats with
        failures := v.stats.failures + 1, sessionsRecreated := v.stats.sessionsRecreated + 1 } }
      { done := [(job, none)] } {}
  /-- Nothing is shown. -/
  | nothing (hf : v.frames.items = []) : Move v .pop v {} {}
  | pop {f : DecodedFrame} {frames : List DecodedFrame} (hf : v.frames.items = f :: frames) :
    Move v .pop { v with frames := { v.frames with items := frames } } { popped := [f] } {}
  | reset : Move v .reset { v with
      worker := none
      calls := v.calls ++ v.workerOrIdle.session.toList.map .closed
      frames := { v.frames with items := [] }
      lastPresented := none } {} { discarded := v.pending, unseen := v.frames.items }

theorem move_submit (v : VideoPath) (payload : Bytes) (timestamp : UInt64) :
    Move v (.submit payload timestamp) (v.submit payload timestamp).1 (v.note (.submit payload timestamp))
      (v.losses (.submit payload timestamp)) := by
  cases hu : VideoUnit.decode payload with
  | error why =>
    simp only [note, losses, submit, hu]
    exact .malformed timestamp hu
  | ok unit =>
    by_cases hc : v.workerOrIdle.jobs.length < v.queueCapacity
    · simp only [note, losses, hu, submit_of_room hu timestamp hc]
      exact .accept timestamp hu hc
    · have hc' := Nat.le_of_not_lt hc
      simp only [note, losses, hu, submit_of_full hu timestamp hc']
      exact .refuse timestamp hu hc'

theorem move_next (v : VideoPath) (accepted : Except DecodeError Unit) :
    Move v (.work (.next accepted)) (v.work (.next accepted)) (v.note (.work (.next accepted))) {} := by
  have hrest (hn : v.unopened accepted = []) (hv : v.work (.next accepted) = v)
      (h : v.workerOrIdle.jobs = [] ∨ v.current? ≠ none) :
      Move v (.work (.next accepted)) (v.work (.next accepted)) (v.note (.work (.next accepted))) {} := by
    simp only [note, hn, hv]
    exact .rest accepted h
  rcases hw : v.worker with _ | ⟨_ | ⟨job, jobs⟩, _ | current, session, failures⟩
  case some.cons.none =>
    -- The worker is idle and a frame waits.
    by_cases hs : session = some job.unit.format
    · subst hs
      have hn : v.unopened accepted = [] := by cases accepted <;> simp [unopened, workerOrIdle, hw]
      simp only [note, hn, work, next, hw, ensureSession, if_true, Option.map_some]
      exact .reuse accepted hw
    · cases accepted with
      | ok _ =>
        simp only [work, next, hw, ensureSession, closeSession, hs, if_false, Option.map_some]
        exact .reopen hw hs
      | error why =>
        have hn : v.unopened (.error why) = [job] := by simp [unopened, workerOrIdle, hw, hs]
        simp only [note, hn, work, next, hw, ensureSession, closeSession, hs, if_false, Option.map_none]
        exact .unopened why hw hs
  -- Otherwise there is nothing to do.
  all_goals
    refine hrest ?_ ?_ ?_
    · cases accepted <;> simp [unopened, workerOrIdle, hw]
    · simp [work, next, hw]
    · simp [workerOrIdle, current?, hw]

theorem move_finish (v : VideoPath) (outcome : Except DecodeError DecodedFrame) :
    Move v (.work (.finish outcome)) (v.work (.finish outcome)) (v.note (.work (.finish outcome)))
      (v.losses (.work (.finish outcome))) := by
  rcases hw : v.worker with _ | ⟨jobs, _ | job, session, failures⟩
  case some.some =>
    have hc : v.current? = some job := by simp [current?, workerOrIdle, hw]
    cases outcome with
    | ok f =>
      by_cases hl : v.isLate f
      · have hl' : (v.lastPresented.any fun last => f.timestamp ≤ last) = true := hl
        simp only [note, losses, hc, hl, work, finish, hw, VideoPath.present, hl']
        exact .late f hw hl
      · have hl' : ¬ (v.lastPresented.any fun last => f.timestamp ≤ last) = true := hl
        simp only [note, losses, hc, hl, work, finish, hw, VideoPath.present, hl']
        exact .present f hw hl
    | error why =>
      simp only [note, losses, hc, work, finish, hw, VideoPath.fail, closeSession]
      split
      · rename_i ht
        exact .recreate why hw ht
      · rename_i ht
        exact .fail why hw (Nat.lt_of_not_le ht)
  all_goals
    have hc : v.current? = none := by simp [current?, workerOrIdle, hw]
    have hv : v.work (.finish outcome) = v := by simp [work, finish, hw]
    rw [hv]
    cases outcome <;> simp only [note, losses, hc] <;> exact .idle _ hc

theorem move (v : VideoPath) (op : Op) : Move v op (v.handle op) (v.note op) (v.losses op) := by
  cases op with
  | submit payload timestamp => exact move_submit v payload timestamp
  | work action =>
    cases action with
    | next accepted => exact move_next v accepted
    | finish outcome => exact move_finish v outcome
  | pop =>
    cases hf : v.frames.items with
    | nil =>
      have hv : v.handle .pop = v := by
        obtain ⟨limits, ⟨capacity, items, dropped⟩, _⟩ := v
        subst hf; rfl
      rw [hv, show v.note .pop = {} by simp [note, VideoPath.pop, FrameQueue.pop, hf]]
      exact .nothing hf
    | cons f frames =>
      have hv : v.handle .pop = { v with frames := { v.frames with items := frames } } := by
        simp only [handle, VideoPath.pop, FrameQueue.pop, hf, List.tail_cons]
      rw [hv, show v.note .pop = { popped := [f] } by simp [note, VideoPath.pop, FrameQueue.pop, hf]]
      exact .pop hf
  | reset =>
    have hv : v.handle .reset = { v with
        worker := none
        calls := v.calls ++ v.workerOrIdle.session.toList.map .closed
        frames := { v.frames with items := [] }
        lastPresented := none } := by
      cases hw : v.worker <;> simp [handle, VideoPath.reset, workerOrIdle, hw, FrameQueue.clear]
    rw [hv]
    exact .reset

end DeskStream.VideoPath

import DeskStream.Proofs.Video.Account
/-!
# After a reset

What a path counts and records is written down and never read. So a path with a record before it does what
it does without (`after`), and a pipeline that was reset is a new one with the record of the old before it,
at the volume that was set (`reset_eq_after`). Nothing else of the past is seen again (`reset_restarts`).
-/

namespace DeskStream

open Wire

/-! ## A record that came before -/

def VideoStats.add (a b : VideoStats) : VideoStats :=
  ⟨a.submitted + b.submitted, a.refused + b.refused, a.decoded + b.decoded, a.presented + b.presented,
    a.late + b.late, a.failures + b.failures, a.sessionsOpened + b.sessionsOpened,
    a.sessionsRecreated + b.sessionsRecreated⟩

def AudioStats.add (a b : AudioStats) : AudioStats :=
  ⟨a.buffers + b.buffers, a.silenceBuffers + b.silenceBuffers, a.failures + b.failures⟩

namespace VideoPath

/-- A path with the record of another before its own. -/
def after (past v : VideoPath) : VideoPath :=
  { v with
    frames := { v.frames with dropped := past.frames.dropped + v.frames.dropped }
    stats := past.stats.add v.stats
    calls := past.calls ++ v.calls }

variable (past v : VideoPath)

theorem after_submit (payload : Bytes) (timestamp : UInt64) :
    (past.after v).submit payload timestamp =
      (past.after (v.submit payload timestamp).1, (v.submit payload timestamp).2) := by
  cases hu : VideoUnit.decode payload with
  | error why => simp only [submit, hu]
  | ok unit =>
    by_cases hc : v.workerOrIdle.jobs.length < v.queueCapacity
    · rw [submit_of_room hu timestamp hc, submit_of_room (v := past.after v) hu timestamp hc]
      rfl
    · have hc := Nat.le_of_not_lt hc
      rw [submit_of_full hu timestamp hc, submit_of_full (v := past.after v) hu timestamp hc]
      rfl

theorem after_closeSession (w : Worker) :
    (past.after v).closeSession w = (past.after (v.closeSession w).1, (v.closeSession w).2) := by
  simp [closeSession, after]

theorem after_ensureSession (w : Worker) (format : VideoFormat) (accept : VideoFormat → Except DecodeError Unit) :
    (past.after v).ensureSession w format accept =
      (past.after (v.ensureSession w format accept).1, (v.ensureSession w format accept).2) := by
  unfold ensureSession
  split
  · rfl
  · rw [after_closeSession]
    cases accept format <;> simp [after, VideoStats.add, Nat.add_assoc]

theorem after_next (accept : VideoFormat → Except DecodeError Unit) :
    (past.after v).next accept = past.after (v.next accept) := by
  have hworker : (past.after v).worker = v.worker := rfl
  unfold next
  rw [hworker]
  rcases v.worker with _ | ⟨_ | ⟨job, jobs⟩, _ | current, session, failures⟩
  case some.cons.none =>
    -- A frame waits and goes to the decoder.
    simp only [after_ensureSession]
    rfl
  all_goals rfl

theorem after_push (f : DecodedFrame) :
    ((past.after v).frames.push f).1 =
      { (v.frames.push f).1 with dropped := past.frames.dropped + (v.frames.push f).1.dropped } := by
  obtain ⟨limits, ⟨capacity, items, dropped⟩, _⟩ := v
  by_cases hc : items.length < capacity
  · simp only [after, FrameQueue.push, hc, if_true]
  · cases items with
    | nil => simp only [after, FrameQueue.push, hc, if_false]
    | cons oldest rest =>
      simp only [after, FrameQueue.push, hc, if_false]
      rfl

theorem after_present (f : DecodedFrame) : (past.after v).present f = past.after (v.present f) := by
  have hlast : (past.after v).lastPresented = v.lastPresented := rfl
  unfold VideoPath.present
  rw [hlast, after_push]
  split <;> rfl

theorem after_fail (w : Worker) : (past.after v).fail w = (past.after (v.fail w).1, (v.fail w).2) := by
  by_cases ht : max v.limits.failureThreshold 1 ≤ w.failures + 1
  · simp only [VideoPath.fail, threshold, closeSession, after, ht, if_true, List.append_assoc]
    rfl
  · simp only [VideoPath.fail, threshold, after, ht, if_false]
    rfl

theorem after_finish (outcome : Except DecodeError DecodedFrame) :
    (past.after v).finish outcome = past.after (v.finish outcome) := by
  have hworker : (past.after v).worker = v.worker := rfl
  rcases hw : v.worker with _ | ⟨jobs, _ | job, session, failures⟩
  case some.some =>
    simp only [finish, hworker, hw]
    cases outcome with
    | ok f =>
      exact after_present past { v with
        worker := some ⟨jobs, none, session, 0⟩
        stats := { v.stats with decoded := v.stats.decoded + 1 } } f
    | error why =>
      simp only [after_fail]
      rfl
  all_goals simp only [finish, hworker, hw]

theorem after_reset : (past.after v).reset = past.after v.reset := by
  simp [VideoPath.reset, after, FrameQueue.clear]

/-- A path that was reset is a new one with the record of the old before it. -/
theorem reset_eq_after {most : VideoLimits} {v : VideoPath} (h : Bounded most v) :
    v.reset = v.reset.after (ofLimits most) := by
  obtain ⟨limits, ⟨capacity, items, dropped⟩, worker, last, stats, calls⟩ := v
  obtain rfl : limits = most := h.limits
  obtain rfl : capacity = max limits.presentationQueue 1 := h.capacity
  simp [VideoPath.reset, after, ofLimits, FrameQueue.ofCapacity, FrameQueue.clear, VideoStats.add]

theorem after_work (action : Action) : (past.after v).work action = past.after (v.work action) := by
  cases action with
  | next accepted => exact after_next past v fun _ => accepted
  | finish outcome => exact after_finish past v outcome

end VideoPath

namespace AudioPath

/-- A path with the record of another before its own. -/
def after (past p : AudioPath) : AudioPath :=
  { p with
    stats := past.stats.add p.stats
    scheduled := past.scheduled ++ p.scheduled
    flushes := past.flushes + p.flushes }

variable (past p : AudioPath)

theorem after_fill (a : Option AudioUnit) (timestamp : UInt64) :
    (past.after p).fill a timestamp = past.after (p.fill a timestamp) := by
  have hlast : (past.after p).last = p.last := rfl
  unfold fill
  rw [hlast]
  cases filler p.last a timestamp with
  | none => rfl
  | some b =>
    simp only [after, List.append_assoc]
    rfl

theorem after_play (a : AudioUnit) (timestamp : UInt64) (samples : List Float32) :
    (past.after p).play a timestamp samples = past.after (p.play a timestamp samples) := by
  simp only [play, after, List.append_assoc]
  rfl

theorem after_submit (payload : Bytes) (timestamp : UInt64) :
    (past.after p).submit payload timestamp =
      (past.after (p.submit payload timestamp).1, (p.submit payload timestamp).2) := by
  have hformat : (past.after p).format = p.format := rfl
  unfold submit
  rw [hformat]
  cases AudioUnit.decode payload with
  | error why => simp only [after_fill]
  | ok a =>
    simp only
    cases p.format.decode a with
    | error why =>
      have hcount : (past.after p).countFailure = past.after p.countFailure := rfl
      simp only [hcount, after_fill]
    | ok samples => simp only [after_play]

/-! ## What is kept of the configuration -/

theorem limit_limit (volume : Float32) : limit (limit volume) = limit volume := by
  unfold limit
  by_cases h : volume < 0
  · simp only [h, if_true]
    decide
  · by_cases h' : 1 < volume
    · simp only [h, h', if_true, if_false]
      decide
    · simp only [h, h', if_false]

/-- The format is that of the beginning, and the volume is within its limits. -/
structure Tuned (format : PcmFormat) (p : AudioPath) : Prop where
  format : p.format = format
  volume : limit p.volume = p.volume

theorem reset_eq_after {format : PcmFormat} {p : AudioPath} (h : p.Tuned format) :
    p.reset = p.reset.after (ofVolume format p.reset.volume) := by
  obtain ⟨format', volume, last, stats, scheduled, flushes⟩ := p
  obtain rfl : format' = format := h.format
  have hv : limit volume = volume := h.volume
  simp [AudioPath.reset, after, ofVolume, AudioStats.add, hv]

theorem tuned_ofVolume (format : PcmFormat) (volume : Float32) : (ofVolume format volume).Tuned format := by
  refine ⟨rfl, ?_⟩
  simp only [ofVolume, limit_limit]

theorem tuned_submit {format : PcmFormat} {p : AudioPath} (h : p.Tuned format) (payload : Bytes)
    (timestamp : UInt64) : (p.submit payload timestamp).1.Tuned format := by
  have filled {p : AudioPath} (h : p.Tuned format) (a : Option AudioUnit) : (p.fill a timestamp).Tuned format := by
    unfold fill
    split
    · exact h
    · exact ⟨h.format, h.volume⟩
  unfold submit
  split
  · exact filled h none
  · split
    · rename_i a _ _ _ _
      have hcount : p.countFailure.Tuned format := ⟨h.format, h.volume⟩
      exact filled hcount (some a)
    · exact ⟨h.format, h.volume⟩

theorem tuned_setVolume {format : PcmFormat} {p : AudioPath} (h : p.Tuned format) (volume : Float32) :
    (p.setVolume volume).Tuned format := by
  refine ⟨h.format, ?_⟩
  unfold setVolume
  split
  · exact show limit 1 = 1 by decide
  · exact limit_limit volume

end AudioPath

namespace Pipeline

def after (past p : Pipeline) : Pipeline := ⟨past.video.after p.video, past.audio.after p.audio⟩

/-! ## What is seen of a pipeline -/

/-- What a call gives back. -/
inductive Answer where
  | submitted (result : Except DecodeError Unit)
  | popped (frame : Option DecodedFrame)

def answer (p : Pipeline) : Event → List Answer
  | .use (.submit packet) => [.submitted (p.submit packet).2]
  | .use .pop => [.popped p.pop.2]
  | _ => []

/-- What the calls of a run give back, in order. -/
def answers (p : Pipeline) : List Event → List Answer
  | [] => []
  | e :: events => p.answer e ++ (p.step e).answers events

variable (past p : Pipeline)

theorem after_submit (packet : Packet) :
    (past.after p).submit packet = (past.after (p.submit packet).1, (p.submit packet).2) := by
  unfold submit
  cases packet.kind with
  | video =>
    simp only [after, VideoPath.after_submit]
  | audio =>
    simp only [after, AudioPath.after_submit]
  | keepAlive | control | auth | input => rfl

theorem after_step (e : Event) : (past.after p).step e = past.after (p.step e) := by
  cases e with
  | reset =>
    simp only [step, reset, after, VideoPath.after_reset]
    rfl
  | use op =>
    cases op with
    | submit packet => simp only [step, handle, after_submit]
    | work action => simp only [step, handle, after, VideoPath.after_work]
    | pop | setVolume => rfl

theorem after_answer (e : Event) : (past.after p).answer e = p.answer e := by
  cases e with
  | reset => rfl
  | use op =>
    cases op with
    | submit packet => simp only [answer, after_submit]
    | work | pop | setVolume => rfl

theorem after_run (events : List Event) :
    (past.after p).run events = past.after (p.run events) ∧ (past.after p).answers events = p.answers events := by
  induction events generalizing p with
  | nil => exact ⟨rfl, rfl⟩
  | cons e events ih =>
    obtain ⟨hr, ha⟩ := ih (p.step e)
    rw [← after_step] at hr ha
    refine ⟨hr, ?_⟩
    rw [answers, answers, after_answer, ha]

theorem tuned_step {format : PcmFormat} {p : Pipeline} (h : p.audio.Tuned format) (e : Event) :
    (p.step e).audio.Tuned format := by
  cases e with
  | reset => exact ⟨h.format, h.volume⟩
  | use op =>
    cases op with
    | submit packet =>
      simp only [step, handle, submit]
      cases packet.kind with
      | audio => exact AudioPath.tuned_submit h ..
      | video | keepAlive | control | auth | input => exact h
    | setVolume volume => exact AudioPath.tuned_setVolume h volume
    | work | pop => exact h

theorem tuned_run {format : PcmFormat} {p : Pipeline} (h : p.audio.Tuned format) (events : List Event) :
    (p.run events).audio.Tuned format := by
  induction events generalizing p with
  | nil => exact h
  | cons e events ih => exact ih (tuned_step h e)

/-! ## Every reset -/

/-- A pipeline that was reset is a new one, at the volume that was set, with the record of the old before it. -/
theorem reset_eq_after (config : PipelineConfig) (format : PcmFormat) (before : List Event) :
    let p := ((ofConfig config format).run before).reset
    p = p.after (ofConfig { config with volume := p.audio.volume } format) := by
  have hb : VideoPath.Bounded config.videoLimits ((ofConfig config format).run before).video := by
    rw [run_video]
    exact VideoPath.bounded_play (VideoPath.bounded_ofLimits _) _
  have ht : ((ofConfig config format).run before).audio.Tuned format :=
    tuned_run (AudioPath.tuned_ofVolume format config.volume) before
  exact congrArg₂ Pipeline.mk (VideoPath.reset_eq_after hb) (AudioPath.reset_eq_after ht)

/-- From a reset on, a pipeline goes on like a new one, and its record is lengthened by the record of that. -/
structure Continues (p q r : Pipeline) : Prop where
  lastPresented : q.video.lastPresented = r.video.lastPresented
  queued : q.video.frames.items = r.video.frames.items
  volume : q.audio.volume = r.audio.volume
  opened : q.video.opened = p.video.opened ++ r.video.opened
  closed : q.video.closed = p.video.closed ++ r.video.closed
  scheduled : q.audio.scheduled = p.audio.scheduled ++ r.audio.scheduled
  flushes : q.audio.flushes = p.audio.flushes + r.audio.flushes
  counts : q.counts = List.zipWith (fun a b => (a.1, a.2 + b.2)) p.counts r.counts

theorem continues_after (past p : Pipeline) : Continues past (past.after p) p :=
  ⟨rfl, rfl, rfl, List.filterMap_append, List.filterMap_append, rfl, rfl, rfl⟩

/-- Whatever was done with a pipeline before a reset, also while a frame was inside the decoder: from then on its
calls give back what those of a new one do that begins at the volume set, for the same outcomes of the decoder, and
its record goes on as that of the new one. -/
theorem reset_restarts (config : PipelineConfig) (format : PcmFormat) (before after : List Event) :
    let p := ((ofConfig config format).run before).reset
    let fresh := ofConfig { config with volume := p.audio.volume } format
    p.answers after = fresh.answers after ∧ Continues p (p.run after) (fresh.run after) := by
  intro p fresh
  have hp : p = p.after fresh := reset_eq_after config format before
  obtain ⟨hrun, hanswers⟩ := after_run p fresh after
  rw [← hp] at hrun hanswers
  refine ⟨hanswers, ?_⟩
  rw [hrun]
  exact continues_after p (fresh.run after)

end Pipeline
end DeskStream

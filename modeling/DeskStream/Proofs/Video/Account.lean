import DeskStream.Proofs.Video.Order
/-!
# Every frame is accounted for

What is submitted to a path is refused, waits, is inside the decoder, has been decoded or failed, or was
discarded by a reset, and what was decoded was late or presented, and then popped, given up, shown still or
discarded. One thing done moves frames between these places and changes the counters accordingly
(`Custody`, `Counted`), so in every run each frame is in one place and counted once (`frames_accounted`).
-/

namespace DeskStream

open Wire

namespace VideoPath

variable {v v' v'' : VideoPath} {op : Op} {jobs jobs' : List VideoJob} {l l' : Log} {g g' : Ledger}

/-- Which frames come to nothing by all that is done. -/
def ledger (v : VideoPath) : List Op → Ledger
  | [] => {}
  | op :: ops => (v.losses op).append ((v.handle op).ledger ops)

/-! ## Where frames are -/

/-- Frames go from one place to another, each to one. -/
structure Custody (v : VideoPath) (jobs : List VideoJob) (l : Log) (g : Ledger) (v' : VideoPath) : Prop where
  submitted : (l.accepted ++ g.refused).Perm jobs
  pending : (l.done.map (·.1) ++ v'.pending ++ g.discarded).Perm (v.pending ++ l.accepted)
  decoded : (l.presented ++ g.late).Perm l.decoded
  shown : (l.popped ++ g.evicted ++ v'.frames.items ++ g.unseen).Perm (v.frames.items ++ l.presented)

theorem Custody.refl (v : VideoPath) : Custody v [] {} {} v := by
  refine ⟨.nil, ?_, .nil, ?_⟩ <;> simp

/-- What is done in two parts. Each place is compared by how often a frame is there. -/
theorem Custody.trans (h : Custody v jobs l g v') (h' : Custody v' jobs' l' g' v'') :
    Custody v (jobs ++ jobs') (l.append l') (g.append g') v'' := by
  refine ⟨?_, ?_, ?_, ?_⟩ <;> refine List.perm_iff_count.2 fun x => ?_
  · have := h.submitted.count_eq x
    have := h'.submitted.count_eq x
    simp only [Log.append, Ledger.append, List.count_append] at *
    omega
  · have := h.pending.count_eq x
    have := h'.pending.count_eq x
    simp only [Log.append, Ledger.append, List.map_append, List.count_append] at *
    omega
  · have := h.decoded.count_eq x
    have := h'.decoded.count_eq x
    rw [decoded_append]
    simp only [Log.append, Ledger.append, List.count_append] at *
    omega
  · have := h.shown.count_eq x
    have := h'.shown.count_eq x
    simp only [Log.append, Ledger.append, List.count_append] at *
    omega

theorem Op.job?_of_decode {payload : Bytes} {unit : VideoUnit} (hu : VideoUnit.decode payload = .ok unit)
    (timestamp : UInt64) : (Op.submit payload timestamp).job? = some ⟨unit, timestamp⟩ := by
  simp [Op.job?, hu, Except.toOption]

theorem Op.job?_of_malformed {payload : Bytes} {why : WireError} (hu : VideoUnit.decode payload = .error why)
    (timestamp : UInt64) : (Op.submit payload timestamp).job? = none := by
  simp [Op.job?, hu, Except.toOption]

theorem Move.custody (h : Move v op v' l g) : Custody v op.job?.toList l g v' := by
  cases h with
  | malformed timestamp hu =>
    rw [Op.job?_of_malformed hu timestamp]
    exact .refl v
  | rest | idle | nothing => exact .refl v
  | accept timestamp hu =>
    rw [Op.job?_of_decode hu timestamp]
    exact ⟨.refl _, by simp [VideoPath.pending, workerOrIdle], .nil, by simp⟩
  | refuse timestamp hu =>
    rw [Op.job?_of_decode hu timestamp]
    exact ⟨.refl _, by simp [VideoPath.pending, workerOrIdle], .nil, by simp⟩
  | reuse _ hw | reopen hw => exact ⟨.nil, by simp [VideoPath.pending, workerOrIdle, hw], .nil, by simp⟩
  | unopened _ hw | fail _ hw | recreate _ hw =>
    exact ⟨.nil, by simp [VideoPath.pending, workerOrIdle, hw], .nil, by simp⟩
  | late f hw => exact ⟨.nil, by simp [VideoPath.pending, workerOrIdle, hw], .refl _, by simp⟩
  | present f hw =>
    exact ⟨.nil, by simp [VideoPath.pending, workerOrIdle, hw], .refl _, by simp [FrameQueue.push_append]⟩
  | pop hf => exact ⟨.nil, by simp [VideoPath.pending, workerOrIdle], .nil, by simp [hf]⟩
  | reset => exact ⟨.nil, by simp [VideoPath.pending, workerOrIdle], .nil, by simp⟩

theorem custody (v : VideoPath) (ops : List Op) :
    Custody v (ops.filterMap Op.job?) (v.log ops) (v.ledger ops) (v.play ops) := by
  induction ops generalizing v with
  | nil => exact .refl v
  | cons op ops ih =>
    have h := (v.move op).custody.trans (ih (v.handle op))
    cases hj : op.job? <;> simpa [log, ledger, hj] using h

/-! ## What is counted -/

/-- The counters go up by what they count. -/
structure Counted (v : VideoPath) (jobs : List VideoJob) (l : Log) (g : Ledger) (v' : VideoPath) : Prop where
  submitted : v'.stats.submitted = v.stats.submitted + jobs.length
  refused : v'.stats.refused = v.stats.refused + g.refused.length
  decoded : v'.stats.decoded = v.stats.decoded + l.decoded.length
  failures : v'.stats.failures + l.decoded.length = v.stats.failures + l.done.length
  late : v'.stats.late = v.stats.late + g.late.length
  presented : v'.stats.presented = v.stats.presented + l.presented.length
  dropped : v'.frames.dropped = v.frames.dropped + g.evicted.length

theorem Counted.refl (v : VideoPath) : Counted v [] {} {} v := ⟨rfl, rfl, rfl, rfl, rfl, rfl, rfl⟩

theorem Counted.trans (h : Counted v jobs l g v') (h' : Counted v' jobs' l' g' v'') :
    Counted v (jobs ++ jobs') (l.append l') (g.append g') v'' := by
  obtain ⟨h1, h2, h3, h4, h5, h6, h7⟩ := h
  obtain ⟨h1', h2', h3', h4', h5', h6', h7'⟩ := h'
  have hd : (l.append l').decoded.length = l.decoded.length + l'.decoded.length := by
    rw [decoded_append, List.length_append]
  refine ⟨?_, ?_, ?_, ?_, ?_, ?_, ?_⟩
  · rw [h1', h1, List.length_append, Nat.add_assoc]
  · rw [h2', h2, Ledger.append, List.length_append, Nat.add_assoc]
  · rw [h3', h3, hd, Nat.add_assoc]
  · rw [hd, Log.append, List.length_append]
    omega
  · rw [h5', h5, Ledger.append, List.length_append, Nat.add_assoc]
  · rw [h6', h6, Log.append, List.length_append, Nat.add_assoc]
  · rw [h7', h7, Ledger.append, List.length_append, Nat.add_assoc]

theorem Move.counted (h : Move v op v' l g) : Counted v op.job?.toList l g v' := by
  cases h with
  | malformed timestamp hu =>
    rw [Op.job?_of_malformed hu timestamp]
    exact .refl v
  | rest | idle | nothing | reuse | reopen | pop | reset => exact ⟨rfl, rfl, rfl, rfl, rfl, rfl, rfl⟩
  | accept timestamp hu | refuse timestamp hu =>
    rw [Op.job?_of_decode hu timestamp]
    exact ⟨rfl, rfl, rfl, rfl, rfl, rfl, rfl⟩
  | unopened | fail | recreate | late => exact ⟨rfl, rfl, rfl, rfl, rfl, rfl, rfl⟩
  | present => exact ⟨rfl, rfl, rfl, rfl, rfl, rfl, FrameQueue.push_dropped ..⟩

theorem counted (v : VideoPath) (ops : List Op) :
    Counted v (ops.filterMap Op.job?) (v.log ops) (v.ledger ops) (v.play ops) := by
  induction ops generalizing v with
  | nil => exact .refl v
  | cons op ops ih =>
    have h := (v.move op).counted.trans (ih (v.handle op))
    cases hj : op.job? <;> simpa [log, ledger, hj] using h

/-! ## Capacities -/

/-- Neither queue holds more than it may. -/
structure Bounded (most : VideoLimits) (v : VideoPath) : Prop where
  limits : v.limits = most
  waiting : v.waiting.length ≤ max most.decodeQueue 1
  capacity : v.frames.capacity = max most.presentationQueue 1
  frames : v.frames.items.length ≤ max most.presentationQueue 1

theorem bounded_ofLimits (most : VideoLimits) : Bounded most (ofLimits most) :=
  ⟨rfl, Nat.zero_le _, rfl, Nat.zero_le _⟩

theorem Move.bounded {most : VideoLimits} (hm : Move v op v' l g) (h : Bounded most v) : Bounded most v' := by
  obtain ⟨hl, hw', hc', hf'⟩ := h
  cases hm with
  | malformed | rest | idle | nothing | refuse => exact ⟨hl, hw', hc', hf'⟩
  | accept timestamp hu hc =>
    refine ⟨hl, ?_, hc', hf'⟩
    rw [queueCapacity, hl] at hc
    simpa [VideoPath.waiting, workerOrIdle, Nat.succ_le_iff] using hc
  | reuse _ hw | reopen hw | unopened _ hw =>
    refine ⟨hl, ?_, hc', hf'⟩
    simp only [VideoPath.waiting, workerOrIdle, hw, Option.getD_some, List.length_cons] at hw' ⊢
    omega
  | late _ hw | fail _ hw | recreate _ hw =>
    refine ⟨hl, ?_, hc', hf'⟩
    simpa [VideoPath.waiting, workerOrIdle, hw] using hw'
  | present f hw =>
    refine ⟨hl, ?_, (FrameQueue.push_capacity ..).trans hc', ?_⟩
    · simpa [VideoPath.waiting, workerOrIdle, hw] using hw'
    · rw [← hc'] at hf' ⊢
      exact FrameQueue.push_length_le (by omega) hf' f
  | pop hf =>
    refine ⟨hl, hw', hc', ?_⟩
    rw [hf] at hf'
    exact Nat.le_of_succ_le hf'
  | reset => exact ⟨hl, Nat.zero_le _, hc', Nat.zero_le _⟩

theorem bounded_play {most : VideoLimits} (h : Bounded most v) (ops : List Op) : Bounded most (v.play ops) := by
  induction ops generalizing v with
  | nil => exact h
  | cons op ops ih => exact ih ((v.move op).bounded h)

/-- A frame is refused exactly if as many wait as may. -/
theorem Bounded.submit_refused_iff {most : VideoLimits} (h : Bounded most v) {payload : Bytes} {unit : VideoUnit}
    (hu : VideoUnit.decode payload = .ok unit) (timestamp : UInt64) :
    (v.submit payload timestamp).2 = .error (.dropped .queueFull) ↔ v.waiting.length = max most.decodeQueue 1 := by
  have hw := h.waiting
  have hq : v.queueCapacity = max most.decodeQueue 1 := by rw [queueCapacity, h.limits]
  by_cases hc : v.workerOrIdle.jobs.length < v.queueCapacity
  · rw [submit_of_room hu timestamp hc, VideoPath.waiting]
    simp only [reduceCtorEq, false_iff]
    omega
  · rw [submit_of_full hu timestamp (Nat.le_of_not_lt hc)]
    simp only [true_iff]
    rw [VideoPath.waiting] at hw ⊢
    omega

/-! ## Every run -/

/-- Every frame that was submitted is in one place, or has come to one thing, and the counters say to what. -/
structure Accounted (v : VideoPath) (jobs : List VideoJob) (l : Log) (g : Ledger) : Prop where
  units : (g.refused ++ v.waiting ++ v.current?.toList ++ l.done.map (·.1) ++ g.discarded).Perm jobs
  frames : (l.presented ++ g.late).Perm l.decoded
  shown : (l.popped ++ g.evicted ++ v.frames.items ++ g.unseen).Perm l.presented
  submitted : v.stats.submitted = jobs.length
  refused : v.stats.refused = g.refused.length
  decoded : v.stats.decoded = l.decoded.length
  failures : v.stats.decoded + v.stats.failures = l.done.length
  late : v.stats.late = g.late.length
  presented : v.stats.presented = l.presented.length
  overflow : v.frames.dropped = g.evicted.length

theorem accounted (most : VideoLimits) (ops : List Op) :
    let v := ofLimits most
    Accounted (v.play ops) (ops.filterMap Op.job?) (v.log ops) (v.ledger ops) := by
  intro v
  have hp := custody v ops
  obtain ⟨h1, h2, h3, h4, h5, h6, h7⟩ := counted v ops
  refine ⟨?_, hp.decoded, hp.shown, ?_, ?_, ?_, ?_, ?_, ?_, ?_⟩
  · -- At the start nothing waits.
    have h0 : v.pending = [] := rfl
    refine List.perm_iff_count.2 fun x => ?_
    have hs := hp.submitted.count_eq x
    have hw := hp.pending.count_eq x
    rw [h0, List.nil_append] at hw
    simp only [pending, List.count_append] at hs hw
    simp only [waiting, current?, List.count_append]
    omega
  · exact h1.trans (Nat.zero_add _)
  · exact h2.trans (Nat.zero_add _)
  · exact h3.trans (Nat.zero_add _)
  · have h0 : v.stats.decoded = 0 ∧ v.stats.failures = 0 := ⟨rfl, rfl⟩
    omega
  · exact h5.trans (Nat.zero_add _)
  · exact h6.trans (Nat.zero_add _)
  · exact h7.trans (Nat.zero_add _)

theorem Accounted.submitted_eq (h : Accounted v jobs l g) :
    v.stats.submitted = v.stats.refused + v.stats.decoded + v.stats.failures + v.waiting.length +
      v.current?.toList.length + g.discarded.length := by
  have hu := h.units.length_eq
  have hf := h.failures
  simp only [List.length_append, List.length_map] at hu
  rw [h.submitted, h.refused]
  omega

theorem Accounted.decoded_eq (h : Accounted v jobs l g) : v.stats.decoded = v.stats.presented + v.stats.late := by
  rw [h.decoded, h.presented, h.late, ← List.length_append]
  exact h.frames.length_eq.symm

theorem Accounted.presented_eq (h : Accounted v jobs l g) :
    v.stats.presented = l.popped.length + v.frames.dropped + v.frames.items.length + g.unseen.length := by
  have hs := h.shown.length_eq
  simp only [List.length_append] at hs
  rw [h.presented, h.overflow, hs]

end VideoPath

namespace Pipeline

/-- What becomes of video frames, with resets. -/
def history (p : Pipeline) (events : List Event) : VideoPath.Log := p.video.log (videoTrace events)

/-- Which of them come to nothing. -/
def lost (p : Pipeline) (events : List Event) : VideoPath.Ledger := p.video.ledger (videoTrace events)

/-- However a pipeline is used, no frame is lost or counted twice: those submitted have been refused, decoded, or
failed, wait, are inside the decoder, or were discarded by resets; those decoded were presented or late; those
presented have been popped or given up, are shown, or were discarded by resets. Neither queue holds more than it may,
and a frame is refused exactly if as many wait as may. -/
theorem frames_accounted (config : PipelineConfig) (format : PcmFormat) (events : List Event) :
    let p := ofConfig config format
    let v := (p.run events).video
    let log := p.history events
    let lost := p.lost events
    VideoPath.Accounted v (units events) log lost ∧
      v.stats.submitted = v.stats.refused + v.stats.decoded + v.stats.failures + v.waiting.length +
        v.current?.toList.length + lost.discarded.length ∧
      v.stats.decoded = v.stats.presented + v.stats.late ∧
      v.stats.presented = log.popped.length + v.frames.dropped + v.frames.items.length + lost.unseen.length ∧
      v.waiting.length ≤ max config.decodeQueueCapacity 1 ∧
      (∀ packet unit, packet.kind = .video → VideoUnit.decode packet.payload = .ok unit →
        (((p.run events).submit packet).2 = .error (.dropped .queueFull) ↔
          v.waiting.length = max config.decodeQueueCapacity 1)) ∧
      v.frames.items.length ≤ max config.presentationQueueCapacity 1 := by
  intro p v log lost
  have hv : v = p.video.play (videoTrace events) := run_video p events
  have ha : VideoPath.Accounted v (units events) log lost := by
    rw [hv, ← jobs_videoTrace]
    exact VideoPath.accounted config.videoLimits (videoTrace events)
  have hb : VideoPath.Bounded config.videoLimits v := by
    rw [hv]
    exact VideoPath.bounded_play (VideoPath.bounded_ofLimits _) _
  refine ⟨ha, ha.submitted_eq, ha.decoded_eq, ha.presented_eq, hb.waiting, ?_, hb.frames⟩
  intro packet unit hk hu
  rw [Pipeline.submit, hk]
  exact hb.submit_refused_iff hu packet.timestamp

/-- One frame is inside the decoder, and one waits for it. -/
def crowded : List Event :=
  [.use (.submit ⟨.video, 10, 1, [1, 0, 1, 0, 1]⟩), .use (.work (.next (.ok ()))),
    .use (.submit ⟨.video, 20, 2, [1, 0, 1, 0, 1]⟩)]

/-- Where one may wait a third frame is refused, and a reset discards the other two. -/
theorem frames_accounted_crowded :
    let p := ofConfig { decodeQueueCapacity := 1 } .s16le
    ((p.run crowded).submit ⟨.video, 30, 3, [1, 0, 1, 0, 1]⟩).2 = .error (.dropped .queueFull) ∧
      (p.lost (crowded ++ [.reset])).discarded.map (·.timestamp) = [10, 20] := by
  intro p
  have hw : (p.run crowded).video.waiting.length = max 1 1 := by decide +kernel
  have hrefused := (frames_accounted { decodeQueueCapacity := 1 } .s16le crowded).2.2.2.2.2.1
    ⟨.video, 30, 3, [1, 0, 1, 0, 1]⟩ ⟨⟨.h264, 1, 1⟩, []⟩ rfl rfl
  exact ⟨hrefused.2 hw, by decide +kernel⟩

end Pipeline
end DeskStream

import DeskStream.Proofs.Session.Media
/-!
# Order of presentation

Between two resets the timestamp remembered is the greatest that was decoded (`newest_play`), so a frame
is presented exactly if it is newer than all decoded before it, and what is presented is in the order of
time. A decoder that gives back what it was given makes frames of packets, in the order in which these were
submitted, whichever of them the two queues and the decoder lose (`presentation_order`).
-/

namespace DeskStream

open Wire

namespace VideoPath

variable {v v' : VideoPath} {op : Op} {l : Log} {f : DecodedFrame} {frames : List DecodedFrame}

/-! ## Order of decoding -/

/-- The access unit that is submitted, with its timestamp. -/
def Op.job? : Op → Option VideoJob
  | .submit payload timestamp => (VideoUnit.decode payload).toOption.map (⟨·, timestamp⟩)
  | _ => none

theorem accepted_note (v : VideoPath) (op : Op) : (v.note op).accepted.Sublist op.job?.toList := by
  cases op with
  | submit payload timestamp =>
    simp only [note, Op.job?]
    cases VideoUnit.decode payload with
    | error e => simp
    | ok unit =>
      -- A full queue refuses the unit.
      split <;> simp_all [Except.toOption]
  | work action =>
    cases action with
    | next accepted => simp [note]
    | finish outcome => cases outcome <;> simp [note]
  | pop | reset => simp [note]

/-- Units are accepted in the order in which they are submitted. -/
theorem accepted_sublist (v : VideoPath) (ops : List Op) :
    (v.log ops).accepted.Sublist (ops.filterMap Op.job?) := by
  induction ops generalizing v with
  | nil => simp [log]
  | cons op ops ih =>
    have h := (accepted_note v op).append (ih (v.handle op))
    cases hj : op.job? <;> simpa [log, Log.append, hj] using h

theorem Effect.pending (h : Effect v v' op l) (hop : op ≠ .reset) :
    l.done.map (·.1) ++ v'.pending = v.pending ++ l.accepted := by
  cases h with
  | none hp | accept _ hp | fail _ hp | late _ _ hp | present _ _ hp | pop _ hp => simp [hp]
  | reset h => exact absurd h hop

/-- The worker is done with units in the order in which they were accepted, and loses none. -/
theorem done_append_pending (v : VideoPath) {ops : List Op} (hr : .reset ∉ ops) :
    (v.log ops).done.map (·.1) ++ (v.play ops).pending = v.pending ++ (v.log ops).accepted := by
  induction ops generalizing v with
  | nil => simp [log]
  | cons op ops ih =>
    simp only [List.mem_cons, not_or] at hr
    have h := (effect v op).pending (Ne.symm hr.1)
    simp only [log, Log.append, List.map_append, List.append_assoc, play_cons, ih (v.handle op) hr.2]
    rw [← List.append_assoc, h, List.append_assoc]

/-! ## The decoder gives back what it was given -/

/-- Whenever the decoder is done without a failure, its frame is the unit it was given. -/
def Faithful (v : VideoPath) : List Op → Prop
  | [] => True
  | op :: ops => (∀ job f, v.current? = some job → op = .work (.finish (.ok f)) → f = job.asFrame) ∧
      (v.handle op).Faithful ops

theorem asFrame_of_mem_note (h : ∀ job f, v.current? = some job → op = .work (.finish (.ok f)) → f = job.asFrame)
    {job : VideoJob} (hm : (job, some f) ∈ (v.note op).done) : f = job.asFrame := by
  cases op with
  | submit payload timestamp =>
    simp only [note] at hm
    split at hm <;> simp at hm
  | work action =>
    cases action with
    | next accepted => simp [note] at hm
    | finish outcome =>
      cases outcome with
      | error e => simp [note] at hm
      | ok g =>
        simp only [note, List.mem_map, Option.mem_toList, Prod.mk.injEq, Option.some.injEq] at hm
        obtain ⟨_, hc, rfl, rfl⟩ := hm
        exact h _ _ hc rfl
  | pop | reset => simp [note] at hm

theorem asFrame_of_mem_done (v : VideoPath) {ops : List Op} (hf : v.Faithful ops) :
    ∀ job f, (job, some f) ∈ (v.log ops).done → f = job.asFrame := by
  induction ops generalizing v with
  | nil => simp [log]
  | cons op ops ih =>
    intro job f hm
    rcases List.mem_append.1 hm with hm | hm
    · exact asFrame_of_mem_note hf.1 hm
    · exact ih _ hf.2 job f hm

/-- Frames are the units they were decoded from. -/
theorem decoded_sublist {l : Log} (h : ∀ job f, (job, some f) ∈ l.done → f = job.asFrame) :
    l.decoded.Sublist ((l.done.map (·.1)).map VideoJob.asFrame) := by
  rw [Log.decoded]
  generalize l.done = done at h ⊢
  induction done with
  | nil => exact .slnil
  | cons x done ih =>
    obtain ⟨job, o⟩ := x
    have hd := ih fun job f hm => h job f (List.mem_cons_of_mem _ hm)
    cases o with
    | none => exact hd.cons _
    | some f =>
      rw [h job f List.mem_cons_self]
      exact hd.cons_cons _

/-! ## The timestamp remembered -/

/-- A timestamp is the greatest of some frames, and without frames there is none. -/
def Newest (last : Option UInt64) (frames : List DecodedFrame) : Prop :=
  match last with
  | none => frames = []
  | some last => (∃ f ∈ frames, f.timestamp = last) ∧ ∀ f ∈ frames, f.timestamp ≤ last

/-- With the greatest timestamp remembered, a frame is late unless it is newer than all. -/
theorem Newest.isLate_iff (h : Newest v.lastPresented frames) (f : DecodedFrame) :
    ¬ v.isLate f ↔ ∀ d ∈ frames, d.timestamp < f.timestamp := by
  cases hl : v.lastPresented with
  | none =>
    rw [hl] at h
    simp [isLate, hl, show frames = [] from h]
  | some last =>
    rw [hl] at h
    obtain ⟨⟨g, hg, rfl⟩, hle⟩ := h
    simp only [isLate, hl, Option.any_some, decide_eq_true_eq, UInt64.not_le]
    constructor
    · intro hlt d hd
      exact UInt64.lt_of_le_of_lt (hle d hd) hlt
    · intro hlt
      exact hlt g hg

theorem Newest.late (h : Newest v.lastPresented frames) (hf : v.isLate f) :
    Newest v.lastPresented (frames ++ [f]) := by
  cases hl : v.lastPresented with
  | none => simp [isLate, hl] at hf
  | some last =>
    rw [hl] at h
    obtain ⟨⟨g, hg, hlast⟩, hle⟩ := h
    simp only [isLate, hl, Option.any_some, decide_eq_true_eq] at hf
    refine ⟨⟨g, List.mem_append_left _ hg, hlast⟩, ?_⟩
    intro d hd
    rcases List.mem_append.1 hd with hd | hd
    · exact hle d hd
    · rw [List.mem_singleton.1 hd]
      exact hf

theorem Newest.present (hf : ∀ d ∈ frames, d.timestamp < f.timestamp) :
    Newest (some f.timestamp) (frames ++ [f]) := by
  refine ⟨⟨f, by simp, rfl⟩, ?_⟩
  intro d hd
  rcases List.mem_append.1 hd with hd | hd
  · exact UInt64.le_of_lt (hf d hd)
  · rw [List.mem_singleton.1 hd]
    exact UInt64.le_refl _

/-- What was presented so far is in the order of time, and none of it newer than what is remembered. -/
structure InOrder (v : VideoPath) (l : Log) : Prop where
  newest : Newest v.lastPresented l.decoded
  presented : l.presented.Sublist l.decoded
  increasing : l.presented.Pairwise (·.timestamp < ·.timestamp)

theorem decoded_append (a b : Log) : (a.append b).decoded = a.decoded ++ b.decoded := List.filterMap_append

@[simp] theorem decoded_mk (accepted : List VideoJob) (done : List (VideoJob × Option DecodedFrame))
    (presented popped : List DecodedFrame) : Log.decoded ⟨accepted, done, presented, popped⟩ = done.filterMap (·.2) :=
  rfl

theorem InOrder.effect {seen : Log} (h : InOrder v seen) (he : Effect v v' op l) (hop : op ≠ .reset) :
    InOrder v' (seen.append l) := by
  have hd := decoded_append seen l
  cases he with
  | none _ _ hl | accept _ _ _ hl | fail _ _ _ hl | pop _ _ _ hl =>
    simp only [decoded_mk, List.filterMap_cons, List.filterMap_nil, List.append_nil] at hd
    exact ⟨by rw [hd, hl]; exact h.newest, by rw [hd]; simpa [Log.append] using h.presented,
      by simpa [Log.append] using h.increasing⟩
  | late job f _ _ hl hlate =>
    simp only [decoded_mk, List.filterMap_cons, List.filterMap_nil] at hd
    refine ⟨?_, ?_, by simpa [Log.append] using h.increasing⟩
    · rw [hd, hl]; exact h.newest.late hlate
    · rw [hd]; simpa [Log.append] using h.presented.trans (List.sublist_append_left _ _)
  | present job f _ _ hl hlate =>
    have hnew := (h.newest.isLate_iff f).1 hlate
    simp only [decoded_mk, List.filterMap_cons, List.filterMap_nil] at hd
    refine ⟨?_, ?_, ?_⟩
    · rw [hd, hl]; exact Newest.present hnew
    · rw [hd]; exact h.presented.append (List.Sublist.refl _)
    · refine List.pairwise_append.2 ⟨h.increasing, List.pairwise_singleton _ _, ?_⟩
      intro d hd g hg
      rw [List.mem_singleton.1 hg]
      exact hnew d (h.presented.mem hd)
  | reset h => exact absurd h hop

theorem InOrder.play {seen : Log} (h : InOrder v seen) {ops : List Op} (hr : .reset ∉ ops) :
    InOrder (v.play ops) (seen.append (v.log ops)) := by
  induction ops generalizing v seen with
  | nil => simpa [log, Log.append] using h
  | cons op ops ih =>
    simp only [List.mem_cons, not_or] at hr
    have := ih (h.effect (VideoPath.effect v op) (Ne.symm hr.1)) hr.2
    simpa [log, Log.append] using this

/-- From a reset on what is presented is in the order of time. -/
theorem Resting.inOrder (h : v.Resting) {ops : List Op} (hr : .reset ∉ ops) : InOrder (v.play ops) (v.log ops) := by
  have h0 : InOrder v {} := by
    refine ⟨?_, .slnil, .nil⟩
    rw [h.lastPresented]; rfl
  simpa [Log.append] using h0.play hr

end VideoPath

/-- The access unit of a video packet, with its timestamp. -/
def VideoJob.ofPacket? (p : Packet) : Option VideoJob :=
  if p.kind = .video then (VideoUnit.decode p.payload).toOption.map (⟨·, p.timestamp⟩) else none

namespace Pipeline

/-! ## Between two resets -/

/-- What may happen to a pipeline from one reset to the next. -/
inductive Op where
  | submit (packet : Packet)
  | work (action : VideoPath.Action)
  | pop
  | setVolume (volume : Float32)

def handle (p : Pipeline) : Op → Pipeline
  | .submit packet => (p.submit packet).1
  | .work action => { p with video := p.video.work action }
  | .pop => p.pop.1
  | .setVolume volume => p.setVolume volume

def play (p : Pipeline) (ops : List Op) : Pipeline := ops.foldl handle p

/-- What it does to the video path. -/
def Op.video : Op → List VideoPath.Op
  | .submit packet => Session.packetOps packet
  | .work action => [.work action]
  | .pop => [.pop]
  | .setVolume _ => []

def videoOps (ops : List Op) : List VideoPath.Op := ops.flatMap Op.video

/-- What becomes of video frames. -/
def videoLog (p : Pipeline) (ops : List Op) : VideoPath.Log := p.video.log (videoOps ops)

def Op.packet? : Op → Option Packet
  | .submit packet => some packet
  | _ => none

/-- The packets that are submitted. -/
def packets (ops : List Op) : List Packet := ops.filterMap Op.packet?

theorem handle_video (p : Pipeline) (op : Op) : (p.handle op).video = p.video.play op.video := by
  cases op with
  | submit packet => exact Session.submit_video p packet
  | work | pop | setVolume => rfl

theorem play_video (p : Pipeline) (ops : List Op) : (p.play ops).video = p.video.play (videoOps ops) := by
  induction ops generalizing p with
  | nil => rfl
  | cons op ops ih =>
    rw [videoOps, List.flatMap_cons, VideoPath.play_append, ← handle_video]
    exact ih (p.handle op)

theorem reset_not_mem_videoOps (ops : List Op) : .reset ∉ videoOps ops := by
  intro h
  obtain ⟨op, -, h⟩ := List.mem_flatMap.1 h
  cases op with
  | submit packet =>
    simp only [Op.video, Session.packetOps] at h
    split at h <;> simp at h
  | work | pop | setVolume => simp [Op.video] at h

theorem job_video (op : Op) :
    op.video.filterMap VideoPath.Op.job? = (op.packet?.bind VideoJob.ofPacket?).toList := by
  cases op with
  | submit packet =>
    by_cases hk : packet.kind = .video
    · cases hu : VideoUnit.decode packet.payload <;>
        simp [Op.video, Session.packetOps, VideoPath.Op.job?, Op.packet?, VideoJob.ofPacket?, hk, hu, Except.toOption]
    · simp [Op.video, Session.packetOps, Op.packet?, VideoJob.ofPacket?, hk]
  | work | pop | setVolume => rfl

theorem jobs_videoOps (ops : List Op) :
    (videoOps ops).filterMap VideoPath.Op.job? = (packets ops).filterMap VideoJob.ofPacket? := by
  rw [packets, List.filterMap_filterMap]
  induction ops with
  | nil => rfl
  | cons op ops ih =>
    rw [videoOps, List.flatMap_cons, List.filterMap_append, job_video, List.filterMap_cons, ← ih]
    cases op.packet?.bind VideoJob.ofPacket? <;> rfl

/-- From a reset to the next, with a decoder that gives back the access unit it was given: units are decoded in
the order in which their packets were submitted; a decoded frame is presented exactly if it is newer than all
decoded so far, and else the queue stays as it is; popped frames are in the order of time, each one carrying the
timestamp, format and data of a packet of its own; and the timestamp remembered is the greatest decoded. -/
theorem presentation_order {p : Pipeline} (hr : p.video.Resting) {ops : List Op}
    (hf : p.video.Faithful (videoOps ops)) :
    let q := p.play ops
    let log := p.videoLog ops
    let units := (packets ops).filterMap VideoJob.ofPacket?
    (log.done.map (·.1) ++ q.video.pending).Sublist units ∧
      (∀ job f, q.video.current? = some job →
        let q' := q.handle (.work (.finish (.ok f)))
        (VideoPath.Presents q.video q'.video f ↔ ∀ d ∈ log.decoded, d.timestamp < f.timestamp) ∧
          (¬ (∀ d ∈ log.decoded, d.timestamp < f.timestamp) → q'.video.frames = q.video.frames)) ∧
      (log.popped.map (·.timestamp)).Pairwise (· < ·) ∧
      log.popped.Sublist (units.map VideoJob.asFrame) ∧
      VideoPath.Newest q.video.lastPresented log.decoded := by
  intro q log units
  have hreset := reset_not_mem_videoOps ops
  have hq : q.video = p.video.play (videoOps ops) := play_video p ops
  have ho : VideoPath.InOrder q.video log := by
    rw [hq]; exact hr.inOrder hreset
  have hdone : (log.done.map (·.1) ++ q.video.pending).Sublist units := by
    have := VideoPath.accepted_sublist p.video (videoOps ops)
    rw [jobs_videoOps] at this
    rw [hq, show log = p.video.log (videoOps ops) from rfl, VideoPath.done_append_pending _ hreset, hr.clean.pending]
    exact this
  -- What is popped was presented, and what is presented was decoded.
  have hpopped : log.popped.Sublist log.presented := by
    have := VideoPath.popped_sublist p.video (videoOps ops)
    rw [hr.frames, List.nil_append] at this
    exact (List.sublist_append_left _ _).trans this
  have hunits : log.decoded.Sublist (units.map VideoJob.asFrame) := by
    refine (VideoPath.decoded_sublist (VideoPath.asFrame_of_mem_done p.video hf)).trans ?_
    exact ((List.sublist_append_left _ _).trans hdone).map _
  refine ⟨hdone, ?_, ?_, hpopped.trans (ho.presented.trans hunits), ho.newest⟩
  · intro job f hc q'
    have hp : VideoPath.Presents q.video q'.video f ↔ ¬ q.video.isLate f := VideoPath.presents_iff hc f
    rw [← ho.newest.isLate_iff f]
    refine ⟨hp, ?_⟩
    intro hl
    obtain ⟨w, hw, hc⟩ := VideoPath.worker_of_current hc
    have hl : q.video.isLate f := by simpa using hl
    simp only [VideoPath.isLate] at hl
    simp [q', handle, VideoPath.work, VideoPath.finish, hw, hc, VideoPath.present, hl]
  · rw [List.pairwise_map]
    exact ho.increasing.sublist hpopped

/-- Three pictures, the second one late and in another format. -/
def pictures : List Op :=
  [.submit ⟨.video, 30, 1, [1, 0, 1, 0, 1, 7]⟩, .submit ⟨.video, 20, 2, [3, 0, 2, 0, 2, 8]⟩,
    .submit ⟨.video, 40, 3, [1, 0, 1, 0, 1, 9]⟩, .work (.next (.ok ())), .work (.finish (.ok ⟨30, ⟨.h264, 1, 1⟩, [7]⟩)),
    .work (.next (.ok ())), .work (.finish (.ok ⟨20, ⟨.vp9, 2, 2⟩, [8]⟩)), .work (.next (.ok ())), .pop,
    .work (.finish (.ok ⟨40, ⟨.h264, 1, 1⟩, [9]⟩)), .pop]

theorem presentation_order_pictures :
    let p := ofConfig {} .s16le
    (p.videoLog pictures).popped = [⟨30, ⟨.h264, 1, 1⟩, [7]⟩, ⟨40, ⟨.h264, 1, 1⟩, [9]⟩] ∧
      ((p.videoLog pictures).popped.map (·.timestamp)).Pairwise (· < ·) ∧
      (p.videoLog pictures).popped.Sublist (((packets pictures).filterMap VideoJob.ofPacket?).map VideoJob.asFrame) := by
  intro p
  have hr : p.video.Resting := ⟨rfl, rfl, rfl⟩
  have hf : p.video.Faithful (videoOps pictures) := by
    refine ⟨?_, ?_, ?_, ?_, ?_, ?_, ?_, ?_, ?_, ?_, ?_, trivial⟩ <;> rintro job f hc ⟨⟩ <;> cases hc <;> rfl
  have horder := presentation_order hr hf
  exact ⟨by decide +kernel, horder.2.2.1, horder.2.2.2.1⟩

/-! ## With resets -/

/-- What may happen to a pipeline. -/
inductive Event where
  | use (op : Op)
  | reset

def step (p : Pipeline) : Event → Pipeline
  | .use op => p.handle op
  | .reset => p.reset

def run (p : Pipeline) (events : List Event) : Pipeline := events.foldl step p

namespace Event

/-- What it does to the video path. -/
def video : Event → List VideoPath.Op
  | .use op => op.video
  | .reset => [.reset]

def packet? : Event → Option Packet
  | .use op => op.packet?
  | .reset => none

theorem job_video (e : Event) : e.video.filterMap VideoPath.Op.job? = (e.packet?.bind VideoJob.ofPacket?).toList := by
  cases e with
  | use op => exact Pipeline.job_video op
  | reset => rfl

end Event

def videoTrace (events : List Event) : List VideoPath.Op := events.flatMap Event.video

/-- The access units that are submitted, with their timestamps. -/
def units (events : List Event) : List VideoJob := (events.filterMap Event.packet?).filterMap VideoJob.ofPacket?

theorem step_video (p : Pipeline) (e : Event) : (p.step e).video = p.video.play e.video := by
  cases e with
  | use op => exact handle_video p op
  | reset => rfl

theorem run_video (p : Pipeline) (events : List Event) : (p.run events).video = p.video.play (videoTrace events) := by
  induction events generalizing p with
  | nil => rfl
  | cons e events ih =>
    rw [videoTrace, List.flatMap_cons, VideoPath.play_append, ← step_video]
    exact ih (p.step e)

theorem jobs_videoTrace (events : List Event) : (videoTrace events).filterMap VideoPath.Op.job? = units events := by
  rw [units, List.filterMap_filterMap]
  induction events with
  | nil => rfl
  | cons e events ih =>
    rw [videoTrace, List.flatMap_cons, List.filterMap_append, e.job_video, List.filterMap_cons, ← ih]
    cases e.packet?.bind VideoJob.ofPacket? <;> rfl

end Pipeline
end DeskStream

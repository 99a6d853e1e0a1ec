import DeskStream.Proofs.Video.Order
/-!
# Decode sessions

What is done about decode sessions is written down in marks, those of a run in a trace. `DecodeStage.Step`
says which mark may come where: a session is opened when there is none, is given frames of its own format,
and is closed for a frame of another format, after failures, or by a reset. The trace of every run follows
these rules (`traced`), and `decode_sessions` reads off what that means.
-/

namespace DeskStream

open Wire

/-! ## Marks and stages -/

/-- Why a decode session is closed. -/
inductive Closing where
  /-- A frame of another format has its turn. -/
  | change (next : VideoFormat)
  /-- The decoder has failed too often. -/
  | failures
  | reset
  deriving DecidableEq

/-- What is done about decode sessions. -/
inductive DecodeMark where
  | opened (format : VideoFormat)
  /-- No session could be opened. -/
  | refused (format : VideoFormat)
  /-- A frame is given to the session that is open. -/
  | given (job : VideoJob)
  | closed (format : VideoFormat) (why : Closing)
  deriving DecidableEq

namespace DecodeMark

def opened? : DecodeMark → Option VideoFormat
  | opened f => some f
  | _ => none

def closed? : DecodeMark → Option VideoFormat
  | closed f _ => some f
  | _ => none

/-- The mark of what the decoder was asked, where a session is closed for this reason. -/
def ofCall (why : Closing) : DecoderCall → DecodeMark
  | .opened f => opened f
  | .refused f => refused f
  | .closed f => closed f why

/-- What the decoder was asked. -/
def call? : DecodeMark → Option DecoderCall
  | opened f => some (.opened f)
  | refused f => some (.refused f)
  | given _ => none
  | closed f _ => some (.closed f)

/-- A close because the decoder has failed too often. -/
def isForced : DecodeMark → Bool
  | closed _ .failures => true
  | _ => false

/-- What the decoder was asked, in order. -/
def calls (trace : List DecodeMark) : List DecoderCall := trace.filterMap call?

/-- Sessions that were opened. -/
def opens (trace : List DecodeMark) : List VideoFormat := trace.filterMap opened?

/-- Sessions that were closed. -/
def closes (trace : List DecodeMark) : List VideoFormat := trace.filterMap closed?

theorem opens_cons (mark : DecodeMark) (trace : List DecodeMark) :
    opens (mark :: trace) = mark.opened?.toList ++ opens trace := by
  cases mark <;> rfl

theorem closes_cons (mark : DecodeMark) (trace : List DecodeMark) :
    closes (mark :: trace) = mark.closed?.toList ++ closes trace := by
  cases mark <;> rfl

theorem opened?_calls (trace : List DecodeMark) : (calls trace).filterMap DecoderCall.opened? = opens trace := by
  rw [calls, opens, List.filterMap_filterMap]
  congr 1
  funext mark
  cases mark <;> rfl

theorem closed?_calls (trace : List DecodeMark) : (calls trace).filterMap DecoderCall.closed? = closes trace := by
  rw [calls, closes, List.filterMap_filterMap]
  congr 1
  funext mark
  cases mark <;> rfl

theorem calls_append (a b : List DecodeMark) : calls (a ++ b) = calls a ++ calls b := List.filterMap_append

theorem opens_append (a b : List DecodeMark) : opens (a ++ b) = opens a ++ opens b := List.filterMap_append

end DecodeMark

/-- Where sessions stand: none is open, or one is, or one was closed for a frame of this format. -/
inductive DecodeStage where
  | vacant
  | occupied (format : VideoFormat)
  | changing (next : VideoFormat)
  deriving DecidableEq

namespace DecodeStage

/-- The session that is open. -/
def session? : DecodeStage → Option VideoFormat
  | occupied f => some f
  | vacant | changing _ => none

/-- A session for this format may be opened: none is open, and none was closed for another format. -/
def admits : DecodeStage → VideoFormat → Prop
  | vacant, _ => True
  | changing next, f => f = next
  | occupied _, _ => False

/-- Which mark may come where, and where it leads. -/
inductive Step : DecodeStage → DecodeMark → DecodeStage → Prop where
  | opened {s : DecodeStage} {f : VideoFormat} (h : s.admits f) : Step s (.opened f) (occupied f)
  | refused {s : DecodeStage} {f : VideoFormat} (h : s.admits f) : Step s (.refused f) vacant
  | given (job : VideoJob) : Step (occupied job.unit.format) (.given job) (occupied job.unit.format)
  | changed {f next : VideoFormat} (h : next ≠ f) : Step (occupied f) (.closed f (.change next)) (changing next)
  | forced (f : VideoFormat) : Step (occupied f) (.closed f .failures) vacant
  | reset (f : VideoFormat) : Step (occupied f) (.closed f .reset) vacant

/-- Where a trace leads that follows these rules. -/
inductive Run : DecodeStage → List DecodeMark → DecodeStage → Prop where
  | nil (s : DecodeStage) : Run s [] s
  | cons {s t s' : DecodeStage} {mark : DecodeMark} {trace : List DecodeMark} (h : Step s mark t)
    (hr : Run t trace s') : Run s (mark :: trace) s'

variable {s t s' : DecodeStage} {trace more : List DecodeMark} {mark : DecodeMark} {f : VideoFormat}

theorem Run.one (h : Step s mark s') : Run s [mark] s' := .cons h (.nil s')

theorem Run.append (h : Run s trace t) (h' : Run t more s') : Run s (trace ++ more) s' := by
  induction h with
  | nil => exact h'
  | cons h _ ih => exact .cons h (ih h')

/-- A trace may be taken apart anywhere. -/
theorem Run.split (h : Run s (trace ++ more) s') : ∃ t, Run s trace t ∧ Run t more s' := by
  induction trace generalizing s with
  | nil => exact ⟨s, .nil s, h⟩
  | cons mark trace ih =>
    cases h with
    | cons h hr =>
      obtain ⟨t, ht, hm⟩ := ih hr
      exact ⟨t, .cons h ht, hm⟩

theorem session?_of_admits (h : s.admits f) : s.session? = none := by
  cases s with
  | vacant | changing => rfl
  | occupied => cases h

/-- What was open or is opened has been closed or is open. -/
theorem Step.balance (h : Step s mark s') :
    s.session?.toList ++ mark.opened?.toList = mark.closed?.toList ++ s'.session?.toList := by
  cases h with
  | opened h | refused h => rw [session?_of_admits h]; rfl
  | given | changed | forced | reset => rfl

/-- Every session that was opened has been closed, in that order, but for the one that is open. -/
theorem Run.balance (h : Run s trace s') :
    s.session?.toList ++ DecodeMark.opens trace = DecodeMark.closes trace ++ s'.session?.toList := by
  induction h with
  | nil s => simp [DecodeMark.opens, DecodeMark.closes]
  | @cons s t s' mark trace h _ ih =>
    calc s.session?.toList ++ DecodeMark.opens (mark :: trace)
        = (s.session?.toList ++ mark.opened?.toList) ++ DecodeMark.opens trace := by
          rw [DecodeMark.opens_cons, List.append_assoc]
      _ = mark.closed?.toList ++ (t.session?.toList ++ DecodeMark.opens trace) := by
          rw [h.balance, List.append_assoc]
      _ = DecodeMark.closes (mark :: trace) ++ s'.session?.toList := by
          rw [ih, DecodeMark.closes_cons, List.append_assoc]

/-- What there was before a session is opened for a format: nothing, the close of one for another format, an open
that failed, or a close by failures or a reset. -/
inductive Occasion (f : VideoFormat) : List DecodeMark → Prop where
  | first : Occasion f []
  | changed (before : List DecodeMark) {g : VideoFormat} (h : f ≠ g) : Occasion f (before ++ [.closed g (.change f)])
  | refused (before : List DecodeMark) (g : VideoFormat) : Occasion f (before ++ [.refused g])
  | forced (before : List DecodeMark) (g : VideoFormat) : Occasion f (before ++ [.closed g .failures])
  | reset (before : List DecodeMark) (g : VideoFormat) : Occasion f (before ++ [.closed g .reset])

theorem Step.occasion (h : Step s mark s') (hs : s'.admits f) (before : List DecodeMark) :
    Occasion f (before ++ [mark]) := by
  cases h with
  | opened | given => cases hs
  | refused => exact .refused before _
  | changed h =>
    obtain rfl := hs
    exact .changed before h
  | forced => exact .forced before _
  | reset => exact .reset before _

theorem Run.occasion (h : Run vacant trace s) (hs : s.admits f) : Occasion f trace := by
  rcases List.eq_nil_or_concat trace with rfl | ⟨before, mark, rfl⟩
  · exact .first
  · rw [List.concat_eq_append] at h ⊢
    obtain ⟨t, -, h⟩ := h.split
    cases h with
    | cons h hr =>
      cases hr
      exact h.occasion hs before

/-- At any time at most one session is open, and every other that was opened is closed. -/
theorem Run.one_open {a b : List DecodeMark} (h : Run vacant (a ++ b) s) :
    ∃ session : Option VideoFormat, DecodeMark.opens a = DecodeMark.closes a ++ session.toList := by
  obtain ⟨t, ha, -⟩ := h.split
  exact ⟨t.session?, ha.balance⟩

/-- A session is opened when none is open, and not without an occasion. -/
theorem Run.opened {a b : List DecodeMark} (h : Run vacant (a ++ .opened f :: b) s) :
    DecodeMark.opens a = DecodeMark.closes a ∧ Occasion f a := by
  obtain ⟨t, ha, hb⟩ := h.split
  cases hb with
  | cons hs _ =>
    cases hs with
    | opened hf =>
      have hb := ha.balance
      rw [session?_of_admits hf] at hb
      exact ⟨hb.trans (List.append_nil _), ha.occasion hf⟩

/-- A frame is given to a session for its format. -/
theorem Run.given {a b : List DecodeMark} {job : VideoJob} (h : Run vacant (a ++ .given job :: b) s) :
    DecodeMark.opens a = DecodeMark.closes a ++ [job.unit.format] := by
  obtain ⟨t, ha, hb⟩ := h.split
  cases hb with
  | cons hs _ =>
    cases hs with
    | given => exact ha.balance

end DecodeStage

/-! ## The trace of a run -/

namespace VideoPath

variable {v v' v'' : VideoPath} {op : Op} {l : Log} {g : Ledger} {marks more : List DecodeMark}

/-- What one thing done does about decode sessions: what it asks of the decoder, in that order, and then the frame that
it gives to it. -/
def marksTo (v v' : VideoPath) (op : Op) : List DecodeMark :=
  let calls := v'.calls.drop v.calls.length
  match op with
  | .work (.next _) =>
    match v.current?, v.waiting with
    | none, job :: _ =>
      calls.map (DecodeMark.ofCall (.change job.unit.format)) ++ v'.current?.toList.map DecodeMark.given
    | _, _ => []
  | .work (.finish _) => calls.map (DecodeMark.ofCall .failures)
  | .reset => calls.map (DecodeMark.ofCall .reset)
  | .submit .. | .pop => []

/-- What is done about decode sessions, in order. -/
def trace (v : VideoPath) : List Op → List DecodeMark
  | [] => []
  | op :: ops => v.marksTo (v.handle op) op ++ (v.handle op).trace ops

/-- A frame is inside the decoder only with a session for its format. -/
def Fitting (v : VideoPath) : Prop := ∀ job, v.current? = some job → v.session? = some job.unit.format

theorem Move.fitting (hm : Move v op v' l g) (h : v.Fitting) : v'.Fitting := by
  cases hm with
  | malformed | rest | idle | nothing | pop | accept | refuse => exact h
  | reuse | reopen =>
    rintro job ⟨⟩
    rfl
  | unopened | late | present | fail | recreate | reset => rintro job ⟨⟩

theorem fitting_play (h : v.Fitting) (ops : List Op) : (v.play ops).Fitting := by
  induction ops generalizing v with
  | nil => exact h
  | cons op ops ih => exact ih ((v.move op).fitting h)

/-- Where sessions stand between two things done. -/
def stage (v : VideoPath) : DecodeStage :=
  match v.session? with
  | none => .vacant
  | some f => .occupied f

theorem stage_of_some {f : VideoFormat} (h : v.session? = some f) : v.stage = .occupied f := by rw [stage, h]

theorem stage_of_none (h : v.session? = none) : v.stage = .vacant := by rw [stage, h]

/-- Marks follow the rules, and are what the path has on record. -/
structure Traced (v : VideoPath) (marks : List DecodeMark) (v' : VideoPath) : Prop where
  run : DecodeStage.Run v.stage marks v'.stage
  calls : v'.calls = v.calls ++ DecodeMark.calls marks
  counted : v'.stats.sessionsOpened = v.stats.sessionsOpened + (DecodeMark.opens marks).length
  recreated : v'.stats.sessionsRecreated = v.stats.sessionsRecreated + marks.countP DecodeMark.isForced
  given : ∀ job, v'.current? = some job → v.current? = some job ∨ .given job ∈ marks

theorem Traced.opened (h : Traced v marks v') : v'.opened = v.opened ++ DecodeMark.opens marks := by
  rw [opened_of_calls h.calls, DecodeMark.opened?_calls]

theorem Traced.closed (h : Traced v marks v') : v'.closed = v.closed ++ DecodeMark.closes marks := by
  rw [closed_of_calls h.calls, DecodeMark.closed?_calls]

theorem Traced.refl (v : VideoPath) : Traced v [] v :=
  ⟨.nil _, (List.append_nil _).symm, rfl, rfl, fun _ h => .inl h⟩

theorem Traced.trans (h : Traced v marks v') (h' : Traced v' more v'') : Traced v (marks ++ more) v'' := by
  refine ⟨h.run.append h'.run, ?_, ?_, ?_, ?_⟩
  · rw [h'.calls, h.calls, DecodeMark.calls_append, List.append_assoc]
  · rw [h'.counted, h.counted, DecodeMark.opens_append, List.length_append, Nat.add_assoc]
  · rw [h'.recreated, h.recreated, List.countP_append, Nat.add_assoc]
  · intro job hj
    rcases h'.given job hj with hj | hj
    · exact (h.given job hj).imp_right (List.mem_append_left _)
    · exact .inr (List.mem_append_right _ hj)

/-- Nothing is done about sessions. -/
theorem Traced.of_eq (hs : v'.session? = v.session?) (hc : v'.calls = v.calls)
    (hn : v'.stats.sessionsOpened = v.stats.sessionsOpened)
    (hr : v'.stats.sessionsRecreated = v.stats.sessionsRecreated) (hj : v'.current? = v.current? ∨ v'.current? = none) :
    Traced v [] v' := by
  have hst : v'.stage = v.stage := by rw [stage, stage, hs]
  refine ⟨hst ▸ .nil _, ?_, hn, hr, ?_⟩
  · exact hc.trans (List.append_nil _).symm
  · intro job h
    rcases hj with hj | hj
    · exact .inl (hj ▸ h)
    · cases hj.symm.trans h

/-- The open session, if there is one, is closed for a frame of another format. -/
theorem traced_change {next : VideoFormat} (h : v.session? ≠ some next) :
    ∃ s : DecodeStage, s.admits next ∧
      DecodeStage.Run v.stage (v.session?.toList.map (DecodeMark.closed · (.change next))) s := by
  cases hv : v.session? with
  | none => exact ⟨.vacant, trivial, stage_of_none hv ▸ .nil _⟩
  | some f => exact ⟨.changing next, rfl, stage_of_some hv ▸ .one (.changed fun he => h (he ▸ hv))⟩

theorem Move.traced (hm : Move v op v' l g) (hf : v.Fitting) : Traced v (v.marksTo v' op) v' := by
  cases hm with
  | malformed | nothing => exact .refl v
  | accept | refuse | pop => exact .of_eq rfl rfl rfl rfl (.inl rfl)
  | rest accepted h =>
    have hm : v.marksTo v (.work (.next accepted)) = [] := by
      simp only [marksTo]
      split
      · rename_i hc hj
        simp [hc, show v.workerOrIdle.jobs = _ from hj] at h
      · rfl
    rw [hm]
    exact .refl v
  | idle =>
    simp only [marksTo, List.drop_length, List.map_nil]
    exact .refl v
  | late _ hw | present _ hw | fail _ hw =>
    simp only [marksTo, List.drop_length, List.map_nil]
    exact .of_eq (by simp [VideoPath.session?, workerOrIdle, hw]) rfl rfl rfl (.inr rfl)
  | @reuse accepted job jobs failures hw =>
    have hm : v.marksTo { v with worker := some ⟨jobs, some job, some job.unit.format, failures⟩ }
        (.work (.next accepted)) = [.given job] := by
      simp [marksTo, current?, waiting, workerOrIdle, hw]
    have hs : v.session? = some job.unit.format := by simp [VideoPath.session?, workerOrIdle, hw]
    rw [hm]
    refine ⟨?_, (List.append_nil _).symm, rfl, rfl, ?_⟩
    · rw [stage_of_some hs]
      exact .one (.given job)
    · rintro _ ⟨⟩
      exact .inr List.mem_cons_self
  | @reopen job jobs session failures hw hs =>
    have hv : v.session? = session := by simp [VideoPath.session?, workerOrIdle, hw]
    obtain ⟨s, ha, hr⟩ := traced_change (hv ▸ hs)
    rw [hv] at hr
    have hm : v.marksTo { v with
          worker := some ⟨jobs, some job, some job.unit.format, failures⟩
          calls := v.calls ++ session.toList.map .closed ++ [.opened job.unit.format]
          stats := { v.stats with sessionsOpened := v.stats.sessionsOpened + 1 } } (.work (.next (.ok ()))) =
        session.toList.map (DecodeMark.closed · (.change job.unit.format)) ++
          [.opened job.unit.format, .given job] := by
      cases session <;> simp [marksTo, current?, waiting, workerOrIdle, hw, DecodeMark.ofCall]
    rw [hm]
    refine ⟨hr.append (.cons (.opened ha) (.one (.given job))), ?_, ?_, ?_, ?_⟩
    · cases session <;> simp [DecodeMark.calls, DecodeMark.call?]
    · cases session <;> rfl
    · cases session <;> rfl
    · rintro _ ⟨⟩
      exact .inr (List.mem_append_right _ (by simp))
  | @unopened job jobs session failures why hw hs =>
    have hv : v.session? = session := by simp [VideoPath.session?, workerOrIdle, hw]
    obtain ⟨s, ha, hr⟩ := traced_change (hv ▸ hs)
    rw [hv] at hr
    have hm : v.marksTo { v with
          worker := some ⟨jobs, none, none, failures⟩
          calls := v.calls ++ session.toList.map .closed ++ [.refused job.unit.format]
          stats := { v.stats with failures := v.stats.failures + 1 } } (.work (.next (.error why))) =
        session.toList.map (DecodeMark.closed · (.change job.unit.format)) ++ [.refused job.unit.format] := by
      cases session <;> simp [marksTo, current?, waiting, workerOrIdle, hw, DecodeMark.ofCall]
    rw [hm]
    refine ⟨hr.append (.one (.refused ha)), ?_, ?_, ?_, ?_⟩
    · cases session <;> simp [DecodeMark.calls, DecodeMark.call?]
    · cases session <;> rfl
    · cases session <;> rfl
    · rintro _ ⟨⟩
  | @recreate job jobs session failures why hw =>
    have hv : v.session? = session := by simp [VideoPath.session?, workerOrIdle, hw]
    obtain rfl : session = some job.unit.format := by
      rw [← hv]
      exact hf job (by simp [current?, workerOrIdle, hw])
    simp only [marksTo, List.drop_left, Option.toList_some, List.map_cons, List.map_nil]
    refine ⟨?_, rfl, rfl, rfl, ?_⟩
    · rw [stage_of_some hv]
      exact .one (.forced _)
    · rintro _ ⟨⟩
  | reset =>
    simp only [marksTo, List.drop_left]
    rw [show v.workerOrIdle.session = v.session? from rfl]
    cases hv : v.session? with
    | none => exact .of_eq hv.symm (List.append_nil _) rfl rfl (.inr rfl)
    | some f =>
      refine ⟨?_, rfl, rfl, rfl, ?_⟩
      · rw [stage_of_some hv]
        exact .one (.reset f)
      · rintro _ ⟨⟩

theorem traced (hf : v.Fitting) (ops : List Op) : Traced v (v.trace ops) (v.play ops) := by
  induction ops generalizing v with
  | nil => exact .refl v
  | cons op ops ih => exact ((v.move op).traced hf).trans (ih ((v.move op).fitting hf))

/-- Once the path is reset, every session that was opened is closed. -/
theorem opened_reset (h : v.Balanced) : v.reset.opened = v.reset.closed := by
  simpa [Balanced, workerOrIdle, handle, reset] using balanced_handle h .reset

end VideoPath

/-! ## Every run -/

namespace Pipeline

open DecodeMark

/-- What is done about decode sessions. -/
def sessionTrace (p : Pipeline) (events : List Event) : List DecodeMark := p.video.trace (videoTrace events)

/-- However a pipeline is used, what is done about decode sessions follows the rules, and is what the decoder was
asked to open and close, in that order. So at most one session is open at any time; one is opened only when none is,
at the start, for a frame of another format than the last session's, after an open that failed, or after a close by
failures or a reset; a frame is given only to a session that was opened for its format, which is the open one while
the frame is inside the decoder; and after a reset every session that was opened is closed. -/
theorem decode_sessions (config : PipelineConfig) (format : PcmFormat) (events : List Event) :
    let p := ofConfig config format
    let q := p.run events
    let trace := p.sessionTrace events
    DecodeStage.Run .vacant trace q.video.stage ∧
      (q.video.calls = calls trace ∧ q.video.opened = opens trace ∧ q.video.closed = closes trace ∧
        q.video.stats.sessionsOpened = (opens trace).length ∧
        q.video.stats.sessionsRecreated = trace.countP isForced) ∧
      (∀ a b, trace = a ++ b → ∃ session : Option VideoFormat, opens a = closes a ++ session.toList) ∧
      (∀ a f b, trace = a ++ .opened f :: b → opens a = closes a ∧ DecodeStage.Occasion f a) ∧
      (∀ a job b, trace = a ++ .given job :: b → opens a = closes a ++ [job.unit.format]) ∧
      (∀ job, q.video.current? = some job → .given job ∈ trace ∧ q.video.session? = some job.unit.format) ∧
      q.reset.video.opened = q.reset.video.closed := by
  intro p q trace
  have hq : q.video = p.video.play (videoTrace events) := run_video p events
  have hf : p.video.Fitting := by rintro job ⟨⟩
  have ht : VideoPath.Traced p.video trace q.video := by
    rw [hq]
    exact VideoPath.traced hf _
  have hrun : DecodeStage.Run .vacant trace q.video.stage := ht.run
  refine ⟨hrun, ⟨ht.calls, ht.opened, ht.closed, ht.counted.trans (Nat.zero_add _), ht.recreated.trans (Nat.zero_add _)⟩,
    ?_, ?_, ?_, ?_, ?_⟩
  · intro a b hab
    exact DecodeStage.Run.one_open (hab ▸ hrun)
  · intro a f b hab
    exact DecodeStage.Run.opened (hab ▸ hrun)
  · intro a job b hab
    exact DecodeStage.Run.given (hab ▸ hrun)
  · intro job hj
    refine ⟨(ht.given job hj).resolve_left (by rintro ⟨⟩), ?_⟩
    rw [hq] at hj ⊢
    exact VideoPath.fitting_play hf _ job hj
  · have h0 : p.video.Balanced := rfl
    have hb : q.video.Balanced := hq ▸ VideoPath.balanced_play h0 _
    exact VideoPath.opened_reset hb

/-- A frame of another format that fails too often, and a reset while the next one is inside the decoder. -/
def reopenings : List Event :=
  [.use (.submit ⟨.video, 10, 1, [1, 0, 1, 0, 1]⟩), .use (.submit ⟨.video, 20, 2, [1, 0, 2, 0, 2]⟩),
    .use (.work (.next (.ok ()))), .use (.work (.finish (.ok ⟨10, ⟨.h264, 1, 1⟩, []⟩))), .use (.work (.next (.ok ()))),
    .use (.work (.finish (.error (.codecFailure .emptyUnit)))), .use (.submit ⟨.video, 30, 3, [1, 0, 2, 0, 2]⟩),
    .use (.work (.next (.ok ()))), .reset]

/-- The third session is opened after the second was closed by a failure. -/
theorem decode_sessions_reopenings :
    let small : VideoFormat := ⟨.h264, 1, 1⟩
    let large : VideoFormat := ⟨.h264, 2, 2⟩
    let before : List DecodeMark := [.opened small, .given ⟨⟨small, []⟩, 10⟩, .closed small (.change large),
      .opened large, .given ⟨⟨large, []⟩, 20⟩, .closed large .failures]
    (ofConfig { failureThreshold := 1 } .s16le).sessionTrace reopenings =
        before ++ .opened large :: [.given ⟨⟨large, []⟩, 30⟩, .closed large .reset] ∧
      opens before = closes before ∧ DecodeStage.Occasion large before := by
  intro small large before
  have ht : (ofConfig { failureThreshold := 1 } .s16le).sessionTrace reopenings =
      before ++ .opened large :: [.given ⟨⟨large, []⟩, 30⟩, .closed large .reset] := by decide +kernel
  exact ⟨ht, (decode_sessions { failureThreshold := 1 } .s16le reopenings).2.2.2.1 before large _ ht⟩

end Pipeline
end DeskStream

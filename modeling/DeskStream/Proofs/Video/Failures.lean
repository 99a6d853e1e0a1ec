import DeskStream.Proofs.Video.Sessions
/-!
# Decode sessions closed for failures

The worker has one count of failures for all decode sessions. A success clears it, a close for failures
does, and a reset, but not a close for a frame of another format. So a session may begin with failures of
those before it (`inherited`), and is closed as soon as its own fill up what is left to the threshold
(`session_closed_for_failures`).
-/

namespace DeskStream

open Wire

/-- What the count of decode failures depends on. -/
inductive DecodeVerdict where
  /-- A session is opened. -/
  | opened
  | decoded
  | failed
  | restarted
  deriving Repr, DecidableEq

/-- Failures in a row. -/
structure Streak where
  /-- Those before the present session was opened. -/
  inherited : Nat := 0
  /-- Those of the present session. -/
  own : Nat := 0
  deriving Repr, DecidableEq

namespace Streak

def extend (s : Streak) : DecodeVerdict → Streak
  | .opened => ⟨s.inherited + s.own, 0⟩
  | .failed => { s with own := s.own + 1 }
  | .decoded | .restarted => {}

/-- The failures since the last success or reset, before and after the last session was opened. -/
def ofLog (log : List DecodeVerdict) : Streak := log.foldl extend {}

end Streak

namespace VideoPath

variable {v v' : VideoPath} {op : Op} {l : Log} {g : Ledger} {s : Streak} {threshold : Nat}

/-- What one thing done is for the count: a session is opened, or the decoder is done with a frame, or all begins
anew. -/
def verdictsTo (v v' : VideoPath) : Op → List DecodeVerdict
  | .work (.next _) => (v'.opened.drop v.opened.length).map fun _ => .opened
  | .work (.finish (.ok _)) => v.current?.toList.map fun _ => .decoded
  | .work (.finish (.error _)) => v.current?.toList.map fun _ => .failed
  | .reset => [.restarted]
  | .submit .. | .pop => []

theorem verdictsTo_next (v v' : VideoPath) (accepted : Except DecodeError Unit) (calls : List DecoderCall)
    (h : v'.calls = v.calls ++ calls) :
    v.verdictsTo v' (.work (.next accepted)) = (calls.filterMap DecoderCall.opened?).map fun _ => .opened := by
  rw [verdictsTo, opened_of_calls h, List.drop_left]

def verdictLog (v : VideoPath) : List Op → List DecodeVerdict
  | [] => []
  | op :: ops => v.verdictsTo (v.handle op) op ++ (v.handle op).verdictLog ops

/-- The session that is open is closed for failures. -/
structure Forced (v v' : VideoPath) (format : VideoFormat) : Prop where
  isOpen : v.session? = some format
  isClosed : v'.session? = none
  closed : v'.closed = v.closed ++ [format]
  recreated : v'.stats.sessionsRecreated = v.stats.sessionsRecreated + 1

/-- The count of the worker is that of the failures in a row, but for those that have led to a close. -/
structure Counting (threshold : Nat) (s : Streak) (v : VideoPath) : Prop where
  limit : v.threshold = threshold
  count : v.workerOrIdle.failures = (s.inherited + s.own) % threshold
  /-- As long as a session is open, something is left to the threshold. -/
  room : v.session?.isSome → s.inherited % threshold + s.own < threshold

theorem add_mod_of_lt {m n k : Nat} (h : m % k + n < k) : (m + n) % k = m % k + n := by
  rw [← Nat.mod_add_mod, Nat.mod_eq_of_lt h]

/-- A frame is inside the decoder only while a session is open. -/
theorem Counting.failures_of_current (h : Counting threshold s v) (hf : v.Fitting) {job : VideoJob}
    (hc : v.current? = some job) : v.workerOrIdle.failures = s.inherited % threshold + s.own := by
  rw [h.count, add_mod_of_lt (h.room (hf job hc ▸ rfl))]

theorem threshold_pos (v : VideoPath) : 0 < v.threshold := Nat.lt_of_lt_of_le Nat.zero_lt_one (Nat.le_max_right ..)

theorem Counting.of_eq (h : Counting threshold s v) (hl : v'.limits = v.limits)
    (hn : v'.workerOrIdle.failures = v.workerOrIdle.failures) (hs : v'.session? = v.session?) :
    Counting threshold s v' := by
  refine ⟨?_, hn.trans h.count, hs ▸ h.room⟩
  rw [← h.limit, VideoPath.threshold, VideoPath.threshold, hl]

/-- Nothing counts any more. -/
theorem Counting.cleared (h : Counting threshold s v) (hl : v'.limits = v.limits)
    (hn : v'.workerOrIdle.failures = 0) : Counting threshold {} v' := by
  have ht : v'.threshold = threshold := by rw [← h.limit, VideoPath.threshold, VideoPath.threshold, hl]
  refine ⟨ht, by simp [hn], fun _ => ?_⟩
  rw [← ht]
  simpa using v'.threshold_pos

/-- Every step of the path keeps the count that of the failures in a row. -/
theorem Move.counting (hm : Move v op v' l g) (hf : v.Fitting) (h : Counting threshold s v) :
    Counting threshold ((v.verdictsTo v' op).foldl Streak.extend s) v' := by
  have hnext := v.verdictsTo_next v'
  cases hm with
  | malformed | nothing => exact h
  | accept | refuse | pop => exact h.of_eq rfl rfl rfl
  | rest => simpa [verdictsTo] using h
  | idle outcome hc => cases outcome <;> simpa [verdictsTo, hc] using h
  | reuse accepted hw =>
    rw [hnext accepted [] (List.append_nil _).symm]
    exact h.of_eq rfl (by simp [workerOrIdle, hw]) (by simp [VideoPath.session?, workerOrIdle, hw])
  | @reopen job jobs session failures hw hs =>
    have hopened : (session.toList.map DecoderCall.closed ++ [DecoderCall.opened job.unit.format]).filterMap
        DecoderCall.opened? = [job.unit.format] := by cases session <;> rfl
    rw [hnext _ _ (List.append_assoc ..), hopened]
    have hn : failures = (s.inherited + s.own) % threshold := by
      rw [← h.count]
      simp [workerOrIdle, hw]
    have hlt : (s.inherited + s.own) % threshold < threshold := Nat.mod_lt _ (h.limit ▸ v.threshold_pos)
    exact ⟨h.limit, hn, fun _ => hlt⟩
  | @unopened job jobs session failures why hw hs =>
    have hnone : (session.toList.map DecoderCall.closed ++ [DecoderCall.refused job.unit.format]).filterMap
        DecoderCall.opened? = [] := by cases session <;> rfl
    rw [hnext _ _ (List.append_assoc ..), hnone]
    refine ⟨h.limit, ?_, by rintro ⟨⟩⟩
    rw [List.map_nil, List.foldl_nil, ← h.count]
    simp [workerOrIdle, hw]
  | @late job _ _ _ f hw | @present job _ _ _ f hw =>
    have hc : v.current? = some job := by simp [current?, workerOrIdle, hw]
    simp only [verdictsTo, hc, Option.toList_some, List.map_cons, List.map_nil, List.foldl_cons, List.foldl_nil]
    exact h.cleared rfl rfl
  | @fail job jobs session failures why hw ht =>
    have hc : v.current? = some job := by simp [current?, workerOrIdle, hw]
    have hn := h.failures_of_current hf hc
    simp only [workerOrIdle, hw, Option.getD_some] at hn
    rw [h.limit] at ht
    simp only [verdictsTo, hc, Option.toList_some, List.map_cons, List.map_nil, List.foldl_cons, List.foldl_nil]
    have hlt : s.inherited % threshold + (s.own + 1) < threshold := by omega
    refine ⟨h.limit, ?_, fun _ => hlt⟩
    change failures + 1 = (s.inherited + (s.own + 1)) % threshold
    rw [add_mod_of_lt hlt, hn, Nat.add_assoc]
  | @recreate job jobs session failures why hw ht =>
    have hc : v.current? = some job := by simp [current?, workerOrIdle, hw]
    have hn := h.failures_of_current hf hc
    have hroom := h.room (hf job hc ▸ rfl)
    simp only [workerOrIdle, hw, Option.getD_some] at hn
    rw [h.limit] at ht
    simp only [verdictsTo, hc, Option.toList_some, List.map_cons, List.map_nil, List.foldl_cons, List.foldl_nil]
    refine ⟨h.limit, ?_, by rintro ⟨⟩⟩
    change 0 = (s.inherited + (s.own + 1)) % threshold
    have hfull : s.inherited % threshold + (s.own + 1) = threshold := by omega
    rw [← Nat.mod_add_mod, hfull, Nat.mod_self]
  | reset => exact h.cleared rfl rfl

theorem counting_play (hf : v.Fitting) (h : Counting threshold s v) (ops : List Op) :
    Counting threshold ((v.verdictLog ops).foldl Streak.extend s) (v.play ops) := by
  induction ops generalizing v s with
  | nil => exact h
  | cons op ops ih =>
    rw [verdictLog, List.foldl_append]
    exact ih ((v.move op).fitting hf) ((v.move op).counting hf h)

/-- The decoder fails on the frame inside it. -/
def Fails (v : VideoPath) (op : Op) : Prop := v.current?.isSome ∧ ∃ why, op = .work (.finish (.error why))

/-- If the decoder fails on a frame, and the failures of the session with those it has inherited come to the
threshold, the session is closed for failures. Otherwise the count of such closes stays as it is. -/
theorem Move.forced (hm : Move v op v' l g) (hf : v.Fitting) (h : Counting threshold s v) :
    (v.Fails op ∧ s.inherited % threshold + (s.own + 1) = threshold ∧ ∃ format, Forced v v' format) ∨
      (¬ (v.Fails op ∧ s.inherited % threshold + (s.own + 1) = threshold) ∧
        v'.stats.sessionsRecreated = v.stats.sessionsRecreated) := by
  have kept (hno : ¬ v.Fails op) (hr : v'.stats.sessionsRecreated = v.stats.sessionsRecreated) :
      ¬ (v.Fails op ∧ s.inherited % threshold + (s.own + 1) = threshold) ∧
        v'.stats.sessionsRecreated = v.stats.sessionsRecreated :=
    ⟨fun h => hno h.1, hr⟩
  cases hm with
  | idle outcome hc => exact .inr (kept (by rintro ⟨h, -⟩; simp [hc] at h) rfl)
  | @fail job jobs session failures why hw ht =>
    have hc : v.current? = some job := by simp [current?, workerOrIdle, hw]
    have hn := h.failures_of_current hf hc
    simp only [workerOrIdle, hw, Option.getD_some] at hn
    rw [h.limit] at ht
    have hshort : s.inherited % threshold + (s.own + 1) ≠ threshold := by omega
    exact .inr ⟨fun h => hshort h.2, rfl⟩
  | @recreate job jobs session failures why hw ht =>
    have hc : v.current? = some job := by simp [current?, workerOrIdle, hw]
    have hn := h.failures_of_current hf hc
    have hs := hf job hc
    have hroom := h.room (hs ▸ rfl)
    simp only [workerOrIdle, hw, Option.getD_some] at hn
    rw [h.limit] at ht
    have hsession : session = some job.unit.format := by
      rw [← hs]
      simp [VideoPath.session?, workerOrIdle, hw]
    refine .inl ⟨⟨by simp [hc], why, rfl⟩, by omega, job.unit.format, hs, rfl, ?_, rfl⟩
    rw [closed_of_calls rfl, hsession]
    rfl
  | malformed | accept | refuse | rest | reuse | reopen | unopened | late | present | nothing | pop | reset =>
    exact .inr (kept (by rintro ⟨-, _, ⟨⟩⟩) rfl)

end VideoPath

/-! ## Every run -/

namespace Pipeline

/-- What is decided about decode failures. -/
def verdictLog (p : Pipeline) (events : List Event) : List DecodeVerdict := p.video.verdictLog (videoTrace events)

theorem counting_run (config : PipelineConfig) (format : PcmFormat) (events : List Event) :
    let p := ofConfig config format
    VideoPath.Counting (max config.failureThreshold 1) (Streak.ofLog (p.verdictLog events)) (p.run events).video ∧
      (p.run events).video.Fitting := by
  intro p
  have hf : p.video.Fitting := by rintro job ⟨⟩
  have h0 : VideoPath.Counting (max config.failureThreshold 1) {} p.video :=
    ⟨rfl, (Nat.zero_mod _).symm, by rintro ⟨⟩⟩
  rw [run_video]
  exact ⟨VideoPath.counting_play hf h0 _, VideoPath.fitting_play hf _⟩

/-- An event is at most one thing done to the video path. -/
theorem Event.video_cases (e : Event) :
    (e.video = [] ∧ ∀ why, e ≠ .use (.work (.finish (.error why)))) ∨
      ∃ op, e.video = [op] ∧ ∀ why, op = .work (.finish (.error why)) ↔ e = .use (.work (.finish (.error why))) := by
  rcases e with (packet | action | _ | _) | _
  case use.submit =>
    by_cases hk : packet.kind = .video
    · exact .inr ⟨.submit packet.payload packet.timestamp, if_pos hk, by simp⟩
    · exact .inl ⟨if_neg hk, by simp⟩
  case use.work => exact .inr ⟨.work action, rfl, by simp⟩
  case use.setVolume => exact .inl ⟨rfl, by simp⟩
  all_goals exact .inr ⟨_, rfl, by simp⟩

theorem step_forced {p : Pipeline} {s : Streak} {threshold : Nat} (h : VideoPath.Counting threshold s p.video)
    (hf : p.video.Fitting) (e : Event) :
    let fails := p.video.current?.isSome ∧ ∃ why, e = .use (.work (.finish (.error why)))
    (fails ∧ s.inherited % threshold + (s.own + 1) = threshold ∧ ∃ f, VideoPath.Forced p.video (p.step e).video f) ∨
      (¬ (fails ∧ s.inherited % threshold + (s.own + 1) = threshold) ∧
        (p.step e).video.stats.sessionsRecreated = p.video.stats.sessionsRecreated) := by
  intro fails
  rw [step_video]
  rcases e.video_cases with ⟨hv, hne⟩ | ⟨op, hv, hop⟩ <;> rw [hv]
  · refine .inr ⟨?_, rfl⟩
    rintro ⟨⟨-, why, he⟩, -⟩
    exact hne why he
  · have hfails : p.video.Fails op ↔ fails := and_congr_right fun _ => exists_congr hop
    rw [← hfails]
    exact (p.video.move op).forced hf h

/-- However a pipeline is used, a decode session is closed for failures exactly when the decoder fails on a frame of
it and its failures in a row, this one among them, fill up what the failures in a row before it leave to the
threshold. So it takes as many of its own as the threshold says if and only if those before it are a multiple of the
threshold, as they are when there are none. Nothing else that happens raises the count of such closes. -/
theorem session_closed_for_failures (config : PipelineConfig) (format : PcmFormat) (before : List Event) (e : Event) :
    let p := ofConfig config format
    let q := p.run before
    let threshold := max config.failureThreshold 1
    let streak := Streak.ofLog (p.verdictLog before)
    ((∃ f, VideoPath.Forced q.video (q.step e).video f) ↔
      (q.video.current?.isSome ∧ ∃ why, e = .use (.work (.finish (.error why)))) ∧
        streak.own + 1 = threshold - streak.inherited % threshold) ∧
    ((∃ f, VideoPath.Forced q.video (q.step e).video f) →
      (streak.own + 1 = threshold ↔ threshold ∣ streak.inherited)) ∧
    ((¬ ∃ f, VideoPath.Forced q.video (q.step e).video f) →
      (q.step e).video.stats.sessionsRecreated = q.video.stats.sessionsRecreated) := by
  intro p q threshold streak
  have hcount : VideoPath.Counting threshold streak q.video := (counting_run config format before).1
  have hfit : q.video.Fitting := (counting_run config format before).2
  have hlt : streak.inherited % threshold < threshold := Nat.mod_lt _ (Nat.le_max_right _ 1)
  rcases step_forced hcount hfit e with ⟨hfails, hfull, hforced⟩ | ⟨hno, hkept⟩
  · refine ⟨⟨fun _ => ⟨hfails, by omega⟩, fun _ => hforced⟩, fun _ => ?_, fun h => absurd hforced h⟩
    rw [Nat.dvd_iff_mod_eq_zero]
    omega
  · have hnot : ¬ ∃ f, VideoPath.Forced q.video (q.step e).video f := by
      rintro ⟨f, hf⟩
      have := hf.recreated
      omega
    refine ⟨⟨fun h => absurd h hnot, ?_⟩, fun h => absurd h hnot, fun _ => hkept⟩
    rintro ⟨hfails, hown⟩
    exact absurd ⟨hfails, by omega⟩ hno

/-- The decoder fails on the frame inside it. -/
def failure : Event := .use (.work (.finish (.error (.codecFailure .emptyUnit))))

/-- Two frames of one format that fail, and the first of another. -/
def twoFormats : List Event :=
  [.use (.submit ⟨.video, 10, 1, [1, 0, 16, 0, 16]⟩), .use (.work (.next (.ok ()))), failure,
    .use (.submit ⟨.video, 20, 2, [1, 0, 16, 0, 16]⟩), .use (.work (.next (.ok ()))), failure,
    .use (.submit ⟨.video, 30, 3, [1, 0, 32, 0, 32]⟩), .use (.work (.next (.ok ())))]

/-- At a threshold of three the session for the other format does not outlive its first failure. -/
theorem session_closed_for_failures_twoFormats :
    let p := ofConfig {} .s16le
    let q := p.run twoFormats
    let streak := Streak.ofLog (p.verdictLog twoFormats)
    q.video.session? = some ⟨.h264, 32, 32⟩ ∧ streak = ⟨2, 0⟩ ∧
      (∃ f, VideoPath.Forced q.video (q.step failure).video f) ∧ streak.own + 1 ≠ 3 := by
  intro p q streak
  have hstreak : streak = ⟨2, 0⟩ := by decide +kernel
  have hown : streak.own + 1 = 3 - streak.inherited % 3 := by rw [hstreak]; decide
  have hforced := (session_closed_for_failures {} .s16le twoFormats failure).1.2 ⟨⟨by decide +kernel, _, rfl⟩, hown⟩
  exact ⟨by decide +kernel, hstreak, hforced, by rw [hstreak]; decide⟩

end Pipeline
end DeskStream

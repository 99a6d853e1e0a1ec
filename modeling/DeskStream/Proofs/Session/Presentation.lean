import DeskStream.Proofs.Session.Media
/-!
# What a connect leaves of earlier presentations

An accepted connect keeps the pipeline as it is. From `disconnected` that is a path at rest, but after a
lost link or a failed reconnect it is whatever the last connection left: frames that can still be
popped, and a timestamp that those of the new host must exceed (`presentation_after_connect`).
-/

namespace DeskStream.Session

open Wire

variable {s : Session} {t call : Nat} {peer : Peer}

/-- Whatever happens from here on, what is popped was decoded from packets received since, and the first
frame decoded is presented, whatever its timestamp. -/
structure StartsFresh (s : Session) : Prop where
  only : ∀ after, ∀ f ∈ (s.videoLog after).popped,
    ∃ job ∈ (s.videoLog after).accepted, (job, some f) ∈ (s.videoLog after).done
  first : ∀ after job f m, (s.videoLog after).decoded = [] → (s.run after).pipeline.video.current? = some job →
    VideoPath.Presents (s.run after).pipeline.video ((s.run after).step m (.work (.finish (.ok f)))).pipeline.video f

theorem Accepts.holdings (h : Accepts s t call peer) (hi : Inv s) (m : Moment) :
    (s.step m (.run t)).holdings = s.holdings := by
  rw [h.step hi m, holdings_dial]
  rfl

theorem Accepts.generation (h : Accepts s t call peer) (hi : Inv s) (m : Moment) :
    (s.step m (.run t)).generation = s.generation + 1 := by
  rw [h.step hi m, generation_dial]
  rfl

/-- Packets are received over links installed since, never over one of an earlier generation. -/
theorem heard_since (hi : Inv s) (after : List (Moment × Event)) {u : Nat} {l : Link}
    (h : (s.run after).task? u = some (.listen l false)) : s.generation ≤ l.generation := by
  have hi' := inv_run hi after
  have hl := hi'.heard u l (task?_mem h)
  rw [(hi'.linked l hl).1]
  exact generation_le_run s after

theorem startsFresh_of_clean (hc : s.pipeline.video.Clean) : StartsFresh s where
  only after := hc.startsFresh.only _
  first after job f m hd h := by
    apply VideoPath.finish_presents (v := (s.run after).pipeline.video) h
    rw [run_video]
    exact hc.not_isLate hd f

/-- The first frame that is decoded without a reset is presented exactly if it is newer than the last frame
presented before. -/
theorem first_presented_iff (s : Session) {after : List (Moment × Event)} {job : VideoJob} (f : DecodedFrame)
    (m : Moment) (hd : (s.videoLog after).decoded = []) (hr : .reset ∉ s.videoTrace after)
    (h : (s.run after).pipeline.video.current? = some job) :
    VideoPath.Presents (s.run after).pipeline.video
      ((s.run after).step m (.work (.finish (.ok f)))).pipeline.video f ↔ ¬ s.pipeline.video.isLate f := by
  apply (VideoPath.presents_iff (v := (s.run after).pipeline.video) h f).trans
  rcases VideoPath.lastPresented_of_undecoded _ hd with hl | ⟨hr', -⟩
  · rw [run_video, VideoPath.isLate, VideoPath.isLate, hl]
  · exact absurd hr' hr

/-- An accepted connect keeps the pipeline. A presentation starts afresh after it exactly if the video path
is clean, as it is when the session was disconnected; then whatever follows, only frames received since are
popped, and the first one decoded is presented. In any case the first one is presented exactly if it is
newer than the last frame presented before, and what is received comes over links installed since. -/
theorem presentation_after_connect (config : SessionConfig) (ring : KeyRing) (format : PcmFormat)
    (before : List (Moment × Event)) (m : Moment) {t call : Nat} {peer : Peer}
    (h : Accepts ((ofConfig config ring format).run before) t call peer) :
    let s := (ofConfig config ring format).run before
    let s' := s.step m (.run t)
    s'.pipeline = s.pipeline ∧
      (s.state = .disconnected → s.pipeline.video.Clean) ∧
      (s'.pipeline.video.StartsFresh ↔ s.pipeline.video.Clean) ∧
      (s.pipeline.video.Clean → StartsFresh s') ∧
      (∀ after job f m', (s'.videoLog after).decoded = [] → .reset ∉ s'.videoTrace after →
        (s'.run after).pipeline.video.current? = some job →
        (VideoPath.Presents (s'.run after).pipeline.video
          ((s'.run after).step m' (.work (.finish (.ok f)))).pipeline.video f ↔ ¬ s.pipeline.video.isLate f)) ∧
      ∀ after u l, (s'.run after).task? u = some (.listen l false) → s.generation < l.generation := by
  intro s s'
  have hi : Inv s := inv_run (bare_ofConfig config ring format).inv before
  have hpipe : s'.pipeline = s.pipeline := congrArg Holdings.pipeline (h.holdings hi m)
  refine ⟨hpipe, ?_, ?_, ?_, ?_, ?_⟩
  · intro hs
    exact (resting_run (bare_ofConfig config ring format).inv (fun _ => resting_ofConfig ..) before hs).clean
  · rw [hpipe]
    exact VideoPath.startsFresh_iff
  · intro hc
    exact startsFresh_of_clean (hpipe ▸ hc)
  · intro after job f m' hd hr hc
    rw [← hpipe]
    exact first_presented_iff s' f m' hd hr hc
  · intro after u l hu
    have := heard_since (inv_step hi m (.run t)) after hu
    rw [h.generation hi m] at this
    exact this

/-- A link that showed one picture is lost, and another host is to be connected to. -/
def lostLink : List (Moment × Event) :=
  atOnce (([.callConnect 0 (.manual "desk" "desk.local" 9000), .run 0, .dialDone 0 (.ok ())] ++ picture 1 1000) ++
    [.linkEnded 1 "reset", .callConnect 1 (.manual "attic" "attic.local" 9000)])

/-- The picture of the new host is dropped as late, and the one of the old host is popped. -/
theorem presentation_after_lost_link :
    let s := (ofConfig { encrypt := false, sendAuthToken := false, autoReconnect := false }
      ⟨none, none⟩ .s16le).run lostLink
    let s' := s.step still (.run 3)
    let after := atOnce ([.dialDone 3 (.ok ())] ++ picture 4 10 ++ [.pop])
    s.state = .error "reset" ∧ ¬ s'.pipeline.video.StartsFresh ∧ (s'.run after).pipeline.video.stats.late = 1 ∧
      (s'.videoLog after).popped = [⟨1000, ⟨.h264, 1, 1⟩, [7]⟩] := by
  intro s s' after
  have haccept : Accepts s 3 1 (.manual "attic" "attic.local" 9000) := ⟨rfl, rfl, rfl⟩
  have hfresh := (presentation_after_connect _ _ _ lostLink still haccept).2.2.1
  refine ⟨rfl, ?_, by decide +kernel, by decide +kernel⟩
  intro h
  cases (hfresh.1 h).lastPresented

end DeskStream.Session

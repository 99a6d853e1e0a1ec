import DeskStream.Proofs.Audio.Schedule
import DeskStream.Proofs.Pipeline.Restart
import DeskStream.Proofs.Rehearsal.Playout
/-!
# Video and sound do not meet

What is seen of one path, looked at whenever something concerns it, is what would be seen if nothing
else had happened: neither the sound nor the volume shows in the pictures, and no decode queue, decoder
or frame taken shows in the sound (`paths_apart`). With a worker that is due at any time this is so event
by event. With a scripted decoder on a clock the worker's own steps follow from the frames, the script and
the time, and sound does not move them either.
-/

namespace DeskStream

open Wire

/-! ## Two runs that look alike -/

section Sights

variable {σ ι κ ω : Type} (step : σ → ι → σ) (part : ι → Option κ) (look : σ → ι → ω)

/-- What is seen in a run by one who looks whenever a part of what is done concerns them. -/
def sights : σ → List ι → List ω
  | _, [] => []
  | s, i :: is => (part i).toList.map (fun _ => look s i) ++ sights (step s i) is

variable {step part look} {R : σ → σ → Prop}

theorem sights_of_other {i : ι} (hi : part i = none) (s : σ) (is : List ι) :
    sights step part look s (i :: is) = sights step part look (step s i) is := by
  simp only [sights, hi, Option.toList_none, List.map_nil, List.nil_append]

/-- Suppose that states which are alike stay so by what does not concern the one who looks, and that what
does concern them shows the same in both and keeps them alike. Then runs from such states, of which the same
parts concern them, show the same and lead to states that are alike. -/
theorem sights_eq (hsymm : ∀ {s s'}, R s s' → R s' s)
    (hskip : ∀ {s s' i}, R s s' → part i = none → R (step s i) s')
    (hlook : ∀ {s s' i i' k}, R s s' → part i = some k → part i' = some k →
      look s i = look s' i' ∧ R (step s i) (step s' i'))
    {s s' : σ} {is is' : List ι} (h : R s s') (hp : is.filterMap part = is'.filterMap part) :
    sights step part look s is = sights step part look s' is' ∧ R (is.foldl step s) (is'.foldl step s') := by
  -- What does not concern them is passed over on either side, until both have come to the same part.
  induction is generalizing s s' is' with
  | nil =>
    induction is' generalizing s' with
    | nil => exact ⟨rfl, h⟩
    | cons i' is' ih =>
      cases hi' : part i' with
      | none =>
        rw [List.filterMap_cons_none hi'] at hp
        rw [sights_of_other hi']
        exact ih (hsymm (hskip (hsymm h) hi')) hp
      | some k => simp [hi'] at hp
  | cons i is ih =>
    cases hi : part i with
    | none =>
      rw [List.filterMap_cons_none hi] at hp
      rw [sights_of_other hi]
      exact ih (hskip h hi) hp
    | some k =>
      rw [List.filterMap_cons_some hi] at hp
      induction is' generalizing s' with
      | nil => simp at hp
      | cons i' is' ih' =>
        cases hi' : part i' with
        | none =>
          rw [List.filterMap_cons_none hi'] at hp
          rw [sights_of_other hi']
          exact ih' (hsymm (hskip (hsymm h) hi')) hp
        | some k' =>
          rw [List.filterMap_cons_some hi', List.cons.injEq] at hp
          obtain ⟨rfl, hp⟩ := hp
          obtain ⟨hl, hs⟩ := hlook h hi hi'
          obtain ⟨hsights, hlike⟩ := ih hs hp
          exact ⟨by simp only [sights, hi, hi', hl, hsights], hlike⟩

end Sights

namespace Pipeline

variable {p q : Pipeline} {packet : Packet}

/-! ## One packet -/

theorem submit_of_video (hk : packet.kind = .video) :
    p.submit packet =
      ({ p with video := (p.video.submit packet.payload packet.timestamp).1 },
        (p.video.submit packet.payload packet.timestamp).2) := by
  simp only [submit, hk]

theorem submit_video_congr (hk : packet.kind = .video) (h : p.video = q.video) :
    (p.submit packet).1.video = (q.submit packet).1.video ∧ (p.submit packet).2 = (q.submit packet).2 := by
  simp only [submit_of_video hk, h, and_self]

theorem submit_audio_congr (hk : packet.kind = .audio) (h : p.audio = q.audio) :
    (p.submit packet).1.audio = (q.submit packet).1.audio ∧ (p.submit packet).2 = (q.submit packet).2 := by
  simp only [submit_of_audio hk, h, and_self]

theorem video_of_other (hk : packet.kind ≠ .video) : (p.submit packet).1.video = p.video := by
  rw [Session.submit_video, Session.packetOps, if_neg hk, VideoPath.play_nil]

/-! ## The worker due at any time -/

/-- It concerns the video path. -/
def Event.isVideo : Event → Bool
  | .use (.submit packet) => packet.kind = .video
  | .use (.setVolume _) => false
  | .use _ | .reset => true

/-- It concerns the audio path. -/
def Event.isAudio : Event → Bool
  | .use (.submit packet) => packet.kind = .audio
  | .use (.setVolume _) | .reset => true
  | .use _ => false

/-- What is seen of a path by one who looks after each event that concerns it: what the call gives back, and the path
as it leaves it. -/
def sightsOf {α : Type} (path : Pipeline → α) (concerns : Event → Bool) (p : Pipeline) (events : List Event) :
    List (List Answer × α) :=
  sights step (Option.guard concerns) (fun p e => (p.answer e, path (p.step e))) p events

def videoSights : Pipeline → List Event → List (List Answer × VideoPath) := sightsOf (·.video) Event.isVideo

def audioSights : Pipeline → List Event → List (List Answer × AudioPath) := sightsOf (·.audio) Event.isAudio

theorem sightsOf_eq {α : Type} {path : Pipeline → α} {concerns : Event → Bool}
    (hother : ∀ {p : Pipeline} {e : Event}, concerns e = false → path (p.step e) = path p)
    (hsame : ∀ {p q : Pipeline} {e : Event}, concerns e → path p = path q →
      p.answer e = q.answer e ∧ path (p.step e) = path (q.step e))
    {events events' : List Event} (h : path p = path q) (hp : events.filter concerns = events'.filter concerns) :
    sightsOf path concerns p events = sightsOf path concerns q events' ∧ path (p.run events) = path (q.run events') := by
  refine sights_eq (R := fun p q : Pipeline => path p = path q) Eq.symm ?_ ?_ h (by simpa using hp)
  · intro p q e h he
    rw [hother (by simpa using he), h]
  · intro p q e e' k h he he'
    obtain ⟨rfl, hk⟩ := Option.guard_eq_some_iff.1 he
    obtain ⟨rfl, -⟩ := Option.guard_eq_some_iff.1 he'
    obtain ⟨ha, hs⟩ := hsame hk h
    exact ⟨Prod.ext ha hs, hs⟩

theorem step_video_of_other {e : Event} (he : e.isVideo = false) : (p.step e).video = p.video := by
  rcases e with (packet | _ | _ | _) | _
  case use.submit => exact video_of_other (of_decide_eq_false he)
  case use.setVolume => rfl
  all_goals contradiction

theorem step_audio_of_other {e : Event} (he : e.isAudio = false) : (p.step e).audio = p.audio := by
  rcases e with (packet | _ | _ | _) | _
  case use.submit => exact audio_of_other (of_decide_eq_false he)
  case use.work | use.pop => rfl
  all_goals contradiction

theorem step_video_congr {e : Event} (he : e.isVideo) (h : p.video = q.video) :
    p.answer e = q.answer e ∧ (p.step e).video = (q.step e).video := by
  rcases e with (packet | action | _ | _) | _
  case use.submit =>
    obtain ⟨hv, hr⟩ := submit_video_congr (of_decide_eq_true he) h
    exact ⟨by rw [answer, answer, hr], hv⟩
  case use.setVolume => contradiction
  all_goals simp only [answer, step, handle, pop, reset, h, and_self]

theorem step_audio_congr {e : Event} (he : e.isAudio) (h : p.audio = q.audio) :
    p.answer e = q.answer e ∧ (p.step e).audio = (q.step e).audio := by
  rcases e with (packet | _ | _ | volume) | _
  case use.submit =>
    obtain ⟨ha, hr⟩ := submit_audio_congr (of_decide_eq_true he) h
    exact ⟨by rw [answer, answer, hr], ha⟩
  case use.work | use.pop => contradiction
  all_goals simp only [answer, step, handle, setVolume, reset, h, and_self]

end Pipeline

/-! ## The worker on a clock -/

namespace Rehearsal.Playout

variable {p q : Playout}

/-- Some packets of those submitted, if there are any. -/
def Command.submitOnly (of : Packet → Bool) (packets : List Packet) : Option Command :=
  if packets.filter of = [] then none else some (.submit (packets.filter of))

/-- What concerns the video path, its decoder and its clock. -/
def Command.videoPart : Command → Option Command
  | .submit packets => submitOnly (·.kind = .video) packets
  | .setVolume _ => none
  | command => some command

/-- What concerns the audio path. -/
def Command.audioPart : Command → Option Command
  | .submit packets => submitOnly (·.kind = .audio) packets
  | .setVolume volume => some (.setVolume volume)
  | .reset => some .reset
  | _ => none

/-- The results of packets of a kind. -/
def Reply.of (kind : PacketKind) (r : Reply) : List (Packet × Option (Except DecodeError Unit)) :=
  r.results.filter (·.1.kind = kind)

/-- What is seen of the video path: results of its packets, frames, and the path as a command leaves it. -/
def videoSights (p : Playout) (commands : List Command) :
    List (List (Packet × Option (Except DecodeError Unit)) × List DecodedFrame × VideoPath) :=
  sights (fun p c => (p.perform c).1) Command.videoPart
    (fun p c => ((p.perform c).2.of .video, (p.perform c).2.frames, (p.perform c).1.pipeline.video)) p commands

/-- What is seen of the audio path. -/
def audioSights (p : Playout) (commands : List Command) :
    List (List (Packet × Option (Except DecodeError Unit)) × AudioPath) :=
  sights (fun p c => (p.perform c).1) Command.audioPart
    (fun p c => ((p.perform c).2.of .audio, (p.perform c).1.pipeline.audio)) p commands

/-- The packets of one kind among those submitted do to their path what they do alone. -/
theorem submits_congr {α : Type} {path : Pipeline → α} {kind : PacketKind}
    (hother : ∀ {p : Pipeline} {packet : Packet}, packet.kind ≠ kind → path (p.submit packet).1 = path p)
    (hsame : ∀ {p q : Pipeline} {packet : Packet}, packet.kind = kind → path p = path q →
      path (p.submit packet).1 = path (q.submit packet).1 ∧ (p.submit packet).2 = (q.submit packet).2)
    {p q : Pipeline} (h : path p = path q) (packets : List Packet) :
    let only := packets.filter (·.kind = kind)
    path (submits p packets).1 = path (submits q only).1 ∧
      (packets.zip (submits p packets).2).filter (·.1.kind = kind) = only.zip (submits q only).2 := by
  induction packets generalizing p q with
  | nil => exact ⟨h, rfl⟩
  | cons packet packets ih =>
    by_cases hk : packet.kind = kind
    · obtain ⟨hpath, hresult⟩ := hsame hk h
      obtain ⟨hp, hr⟩ := ih hpath
      simp only [hk, decide_true, List.filter_cons_of_pos, submits, List.zip_cons_cons, hresult, hr]
      exact ⟨hp, trivial⟩
    · simp only [hk, decide_false, Bool.false_eq_true, not_false_eq_true, List.filter_cons_of_neg, submits,
        List.zip_cons_cons]
      exact ih ((hother hk).trans h)

/-- All results of packets of one kind are of that kind. -/
theorem filter_zip_filter {α : Type} (of : Packet → Bool) (packets : List Packet) (results : List α) :
    ((packets.filter of).zip results).filter (fun x => of x.1) = (packets.filter of).zip results := by
  refine List.filter_eq_self.2 ?_
  rintro ⟨packet, r⟩ h
  exact (List.mem_filter.1 (List.of_mem_zip h).1).2

/-! ### What shows of a command -/

/-- The two agree on all that the video path depends on. -/
structure SameVideo (p q : Playout) : Prop where
  video : p.pipeline.video = q.pipeline.video
  decoder : p.decoder = q.decoder
  now : p.now = q.now

theorem SameVideo.symm (h : SameVideo p q) : SameVideo q p := ⟨h.video.symm, h.decoder.symm, h.now.symm⟩

theorem SameVideo.trans {r : Playout} (h : SameVideo p q) (h' : SameVideo q r) : SameVideo p r :=
  ⟨h.video.trans h'.video, h.decoder.trans h'.decoder, h.now.trans h'.now⟩

theorem SameVideo.settle (h : SameVideo p q) : SameVideo p.settle q.settle := by
  have hw : p.decoder.work p.now p.pipeline.video = q.decoder.work q.now q.pipeline.video := by
    rw [h.video, h.decoder, h.now]
  exact ⟨congrArg Prod.snd hw, congrArg Prod.fst hw, h.now⟩

theorem SameVideo.advance (h : SameVideo p q) (ms : Nat) : SameVideo (p.advance ms) (q.advance ms) := by
  induction ms generalizing p q with
  | zero => exact h
  | succ n ih => exact ih (SameVideo.settle ⟨h.video, h.decoder, congrArg (· + 1) h.now⟩)

theorem audio_advance (p : Playout) (ms : Nat) : (p.advance ms).pipeline.audio = p.pipeline.audio := by
  induction ms generalizing p with
  | zero => rfl
  | succ n ih => exact ih _

theorem take_video {p q : Pipeline} (h : p.video = q.video) (n : Nat) :
    (take n p).1.video = (take n q).1.video ∧ (take n p).2 = (take n q).2 := by
  induction n generalizing p q with
  | zero => exact ⟨h, rfl⟩
  | succ n ih =>
    obtain ⟨v, a⟩ := p
    obtain ⟨_, a'⟩ := q
    obtain rfl : v = _ := h
    rcases hp : v.pop with ⟨v', _ | f⟩ <;> simp only [take, Pipeline.pop, hp, List.cons.injEq, true_and, and_self]
    exact ih rfl

theorem take_audio (p : Pipeline) (n : Nat) : (take n p).1.audio = p.audio := by
  induction n generalizing p with
  | zero => rfl
  | succ n ih =>
    rcases hp : p.video.pop with ⟨v', _ | f⟩ <;> simp only [take, Pipeline.pop, hp]
    exact ih _

theorem Command.submitOnly_eq_some {of : Packet → Bool} {packets : List Packet} {c : Command}
    (h : submitOnly of packets = some c) : c = .submit (packets.filter of) := by
  unfold submitOnly at h
  split at h
  · contradiction
  · exact (Option.some.inj h).symm

theorem Command.submitOnly_eq_none {of : Packet → Bool} {packets : List Packet}
    (h : submitOnly of packets = none) : packets.filter of = [] := by
  unfold submitOnly at h
  split at h
  · assumption
  · contradiction

/-- What concerns only others leaves the video path as it is, while the worker waits. -/
theorem perform_video_of_other (h : p.Waits) {c : Command} (hc : c.videoPart = none) :
    SameVideo (p.perform c).1 p := by
  cases c with
  | submit packets =>
    obtain ⟨hv, -⟩ := submits_congr (p := p.pipeline) Pipeline.video_of_other Pipeline.submit_video_congr rfl packets
    rw [Command.submitOnly_eq_none hc] at hv
    have hs : SameVideo { p with pipeline := (submits p.pipeline packets).1 } p := ⟨hv, rfl, rfl⟩
    have hsettled := hs.settle
    rw [settle_of_waits h] at hsettled
    rw [perform_submit]
    exact hsettled
  | setVolume => exact ⟨rfl, rfl, rfl⟩
  | pop | reset | expect | hold | advance => contradiction

/-- What concerns the video path does the same as the part of it that does. -/
theorem perform_video_congr (h : SameVideo p q) {c k : Command} (hc : c.videoPart = some k) :
    (p.perform c).2.of .video = (q.perform k).2.of .video ∧ (p.perform c).2.frames = (q.perform k).2.frames ∧
      SameVideo (p.perform c).1 (q.perform k).1 := by
  cases c with
  | submit packets =>
    obtain rfl := Command.submitOnly_eq_some hc
    obtain ⟨hv, hr⟩ := submits_congr Pipeline.video_of_other Pipeline.submit_video_congr h.video packets
    have hs : SameVideo { p with pipeline := (submits p.pipeline packets).1 }
        { q with pipeline := (submits q.pipeline (packets.filter (·.kind = .video))).1 } :=
      ⟨hv, h.decoder, h.now⟩
    simp only [perform_submit, Reply.of, hr]
    exact ⟨(filter_zip_filter ..).symm, trivial, hs.settle⟩
  | setVolume => contradiction
  | pop limit =>
    obtain rfl := Option.some.inj hc
    obtain ⟨hv, hf⟩ := take_video h.video (min p.pipeline.video.frames.items.length
      (limit.getD p.pipeline.video.frames.items.length))
    have hs := SameVideo.settle (p := { p with pipeline := _ }) (q := { q with pipeline := _ }) ⟨hv, h.decoder, h.now⟩
    simp only [perform, Playout.pop, ← h.video]
    exact ⟨rfl, hf, hs⟩
  | reset =>
    obtain rfl := Option.some.inj hc
    have hs : SameVideo { p with pipeline := p.pipeline.reset } { q with pipeline := q.pipeline.reset } :=
      ⟨congrArg VideoPath.reset h.video, h.decoder, h.now⟩
    exact ⟨rfl, rfl, hs.settle⟩
  | expect outcomes =>
    obtain rfl := Option.some.inj hc
    exact ⟨rfl, rfl, h.video, by simp only [perform, h.decoder], h.now⟩
  | hold ms =>
    obtain rfl := Option.some.inj hc
    exact ⟨rfl, rfl, h.video, by simp only [perform, h.decoder], h.now⟩
  | advance ms =>
    obtain rfl := Option.some.inj hc
    exact ⟨rfl, rfl, h.advance ms⟩

theorem perform_audio_of_other (p : Playout) {c : Command} (hc : c.audioPart = none) :
    (p.perform c).1.pipeline.audio = p.pipeline.audio := by
  cases c with
  | submit packets =>
    obtain ⟨ha, -⟩ := submits_congr (p := p.pipeline) Pipeline.audio_of_other Pipeline.submit_audio_congr rfl packets
    rw [Command.submitOnly_eq_none hc] at ha
    rw [perform_submit]
    exact ha
  | pop limit => exact take_audio ..
  | expect | hold => rfl
  | advance ms => exact audio_advance p ms
  | setVolume | reset => contradiction

theorem perform_audio_congr (h : p.pipeline.audio = q.pipeline.audio) {c k : Command} (hc : c.audioPart = some k) :
    (p.perform c).2.of .audio = (q.perform k).2.of .audio ∧
      (p.perform c).1.pipeline.audio = (q.perform k).1.pipeline.audio := by
  cases c with
  | submit packets =>
    obtain rfl := Command.submitOnly_eq_some hc
    obtain ⟨ha, hr⟩ := submits_congr Pipeline.audio_of_other Pipeline.submit_audio_congr h packets
    simp only [perform_submit, Reply.of, hr]
    exact ⟨(filter_zip_filter ..).symm, ha⟩
  | setVolume volume =>
    obtain rfl := Option.some.inj hc
    exact ⟨rfl, congrArg (·.setVolume volume) h⟩
  | reset =>
    obtain rfl := Option.some.inj hc
    exact ⟨rfl, congrArg AudioPath.reset h⟩
  | pop | expect | hold | advance => contradiction

theorem videoSights_eq (hp : p.Waits) (hq : q.Waits) (h : SameVideo p q) {commands commands' : List Command}
    (hc : commands.filterMap Command.videoPart = commands'.filterMap Command.videoPart) :
    p.videoSights commands = q.videoSights commands' ∧
      (p.run commands).pipeline.video = (q.run commands').pipeline.video := by
  refine (sights_eq (R := fun p q : Playout => p.Waits ∧ q.Waits ∧ SameVideo p q)
    (fun h => ⟨h.2.1, h.1, h.2.2.symm⟩) ?_ ?_ ⟨hp, hq, h⟩ hc).imp id fun hr => hr.2.2.video
  · rintro p q c ⟨hp, hq, h⟩ hn
    exact ⟨waits_perform hp c, hq, (perform_video_of_other hp hn).trans h⟩
  · rintro p q c c' k ⟨hp, hq, h⟩ hk hk'
    obtain ⟨hr, hf, hs⟩ := perform_video_congr h hk
    obtain ⟨hr', hf', hs'⟩ := perform_video_congr ⟨rfl, rfl, rfl⟩ hk'
    have hsame := hs.trans hs'.symm
    exact ⟨by rw [hr, hr', hf, hf', hsame.video], waits_perform hp c, waits_perform hq c', hsame⟩

theorem audioSights_eq (h : p.pipeline.audio = q.pipeline.audio) {commands commands' : List Command}
    (hc : commands.filterMap Command.audioPart = commands'.filterMap Command.audioPart) :
    p.audioSights commands = q.audioSights commands' ∧
      (p.run commands).pipeline.audio = (q.run commands').pipeline.audio := by
  refine sights_eq (R := fun p q : Playout => p.pipeline.audio = q.pipeline.audio) Eq.symm ?_ ?_ h hc
  · intro p q c h hn
    exact (perform_audio_of_other p hn).trans h
  · intro p q c c' k h hk hk'
    obtain ⟨hr, hs⟩ := perform_audio_congr h hk
    obtain ⟨hr', hs'⟩ := perform_audio_congr rfl hk'
    have hsame := hs.trans hs'.symm
    exact ⟨by rw [hr, hr', hsame], hsame⟩

end Rehearsal.Playout

open Rehearsal (Playout)

/-- Pictures do not depend on sound, nor sound on pictures. First with a worker that may do its next thing at any
time: events of which the same concern the video path, the worker's among them, show the same of it and leave it
the same, whatever else happens between them; likewise for the audio path, which neither the worker nor the taking
of frames concerns. Then with a decoder whose outcomes and durations are set, a clock, and a worker that does all
it can by itself: the same video packets, script, frames taken, resets and time show the same of the video path and
leave it the same, and so do the same audio packets, volumes and resets with the audio path. -/
theorem paths_apart :
    (∀ (p q : Pipeline) (events events' : List Pipeline.Event),
      (p.video = q.video → events.filter (·.isVideo) = events'.filter (·.isVideo) →
        p.videoSights events = q.videoSights events' ∧ (p.run events).video = (q.run events').video) ∧
      (p.audio = q.audio → events.filter (·.isAudio) = events'.filter (·.isAudio) →
        p.audioSights events = q.audioSights events' ∧ (p.run events).audio = (q.run events').audio)) ∧
    ∀ (p q : Playout) (commands commands' : List Playout.Command),
      (p.Waits → q.Waits → p.SameVideo q →
        commands.filterMap (·.videoPart) = commands'.filterMap (·.videoPart) →
        p.videoSights commands = q.videoSights commands' ∧
          (p.run commands).pipeline.video = (q.run commands').pipeline.video) ∧
      (p.pipeline.audio = q.pipeline.audio →
        commands.filterMap (·.audioPart) = commands'.filterMap (·.audioPart) →
        p.audioSights commands = q.audioSights commands' ∧
          (p.run commands).pipeline.audio = (q.run commands').pipeline.audio) := by
  constructor
  · intro p q events events'
    constructor
    · exact Pipeline.sightsOf_eq Pipeline.step_video_of_other Pipeline.step_video_congr
    · exact Pipeline.sightsOf_eq Pipeline.step_audio_of_other Pipeline.step_audio_congr
  · intro p q commands commands'
    constructor
    · intro hp hq h hc
      exact Playout.videoSights_eq hp hq h hc
    · intro h hc
      exact Playout.audioSights_eq h hc

/-- A little sound. -/
def beep : Packet := ⟨.audio, 10, 1, [0, 0, 0, 100, 1, 5, 5]⟩

/-- Pictures and sound by turns. -/
def pictured : List Pipeline.Event := Pipeline.pictures.map .use
def sounded : List Pipeline.Event := Pipeline.pictures.map fun _ => .use (.submit beep)
def both : List Pipeline.Event := Pipeline.pictures.flatMap fun op => [.use (.submit beep), .use op]

/-- Two pictures for a decoder that takes its time and fails on the first of them. -/
def silentFilm : List Playout.Command :=
  [.hold 20, .submit [⟨.video, 10, 1, [1, 0, 1, 0, 1, 7]⟩, ⟨.video, 20, 2, [1, 0, 1, 0, 1, 8]⟩], .expect [false],
    .advance 25, .advance 25, .pop none]

/-- The same with sound, at half the volume. -/
def soundFilm : List Playout.Command :=
  [.setVolume 0.5, .hold 20,
    .submit [beep, ⟨.video, 10, 1, [1, 0, 1, 0, 1, 7]⟩, ⟨.audio, 15, 2, []⟩, ⟨.video, 20, 2, [1, 0, 1, 0, 1, 8]⟩],
    .expect [false], .advance 25, .submit [beep], .advance 25, .pop none]

/-- The sound alone. -/
def soundtrack : List Playout.Command := [.setVolume 0.5, .submit [beep, ⟨.audio, 15, 2, []⟩], .submit [beep]]

theorem paths_apart_film :
    let p := Pipeline.ofConfig {} .s16le
    let r : Playout := { pipeline := p, decoder := { scripted := true } }
    p.videoSights pictured = p.videoSights both ∧ (p.run both).video.lastPresented = some 40 ∧
      p.audioSights both = p.audioSights sounded ∧ (p.run both).audio.stats.buffers = 11 ∧
      r.videoSights silentFilm = r.videoSights soundFilm ∧
      (r.run soundFilm).pipeline.video.lastPresented = some 20 ∧
      r.audioSights soundFilm = r.audioSights soundtrack ∧ (r.run soundFilm).pipeline.audio.stats = ⟨2, 1, 0⟩ := by
  intro p r
  obtain ⟨hevents, hclock⟩ := paths_apart
  have hw : r.Waits := rfl
  have hpictures : p.videoSights pictured = p.videoSights both := ((hevents p p pictured both).1 rfl rfl).1
  have hsound : p.audioSights both = p.audioSights sounded := ((hevents p p both sounded).2 rfl rfl).1
  have hfilm : r.videoSights silentFilm = r.videoSights soundFilm :=
    ((hclock r r silentFilm soundFilm).1 hw hw ⟨rfl, rfl, rfl⟩ rfl).1
  have htrack : r.audioSights soundFilm = r.audioSights soundtrack :=
    ((hclock r r soundFilm soundtrack).2 rfl rfl).1
  exact ⟨hpictures, by decide +kernel, hsound, by decide +kernel, hfilm, by decide +kernel, htrack, by decide +kernel⟩

end DeskStream

import DeskStream.Proofs.Audio.Schedule
import Mathlib.Data.Rat.Defs
import Mathlib.Tactic.NormNum
/-!
# How long silence lasts

A packet that cannot be used is replaced by silence at the rate its header tells, if that can be used, and
else at the rate of the last good packet. At the rate of the last good packet the silence has the frames of
that, so it lasts as long. At any other rate it has those of ten milliseconds, whatever the last good packet
lasted (`silence_lasts_iff`), and below a hundred frames a second there are none, and a gap is left.
-/

namespace DeskStream

open Wire

/-- How long a buffer plays, in seconds. -/
def PcmBuffer.seconds (b : PcmBuffer) : ℚ := b.frames / b.rate.toNat

namespace AudioPath

/-- The unit that tells rate and channels of silence: the header of the packet, if both are positive, or the last
good unit. -/
def pattern (header : Option AudioUnit) (last : AudioUnit) : AudioUnit :=
  (header.filter fun a => 0 < a.rate ∧ 0 < a.channels).getD last

/-- At this rate silence has the frames of the last good unit, if that has any. -/
def Matches (f : PcmFormat) (last : AudioUnit) (rate : UInt32) : Prop := 0 < f.frameCount last ∧ last.rate = rate

variable {f : PcmFormat} {header : Option AudioUnit} {last : AudioUnit} {rate : UInt32} {timestamp : UInt64}

theorem silenceFrames_of_matches (h : Matches f last rate) : silenceFrames f (some last) rate = f.frameCount last := by
  have h : 0 < f.frameCount last ∧ last.rate = rate := h
  simp only [silenceFrames, Option.filter_some, decide_eq_true h, if_true]

theorem silenceFrames_of_other (h : ¬ Matches f last rate) :
    silenceFrames f (some last) rate = rate.toNat / 100 := by
  have h : ¬ (0 < f.frameCount last ∧ last.rate = rate) := h
  simp only [silenceFrames, Option.filter_some, h, decide_false, Bool.false_eq_true, if_false]

theorem silence?_of_some (f : PcmFormat) (header : Option AudioUnit) (last : AudioUnit) (timestamp : UInt64) :
    let a := pattern header last
    let frames := silenceFrames f (some last) a.rate
    silence? f header (some last) timestamp =
      if frames = 0 then none else some ⟨timestamp, a.rate, a.channels, .silence frames⟩ := by
  intro a frames
  have hformat : silenceFormat header (some last) = some (a.rate, a.channels) := by
    unfold silenceFormat a pattern
    cases header.filter fun a => 0 < a.rate ∧ 0 < a.channels <;> rfl
  rw [silence?, hformat]

/-- At the rate of the last good unit silence has its frames. -/
theorem silence?_of_matches (h : Matches f last (pattern header last).rate) (timestamp : UInt64) :
    silence? f header (some last) timestamp =
      some ⟨timestamp, last.rate, (pattern header last).channels, .silence (f.frameCount last)⟩ := by
  rw [silence?_of_some, silenceFrames_of_matches h, if_neg (Nat.ne_of_gt h.1), h.2]

/-- At another rate it has those of ten milliseconds. -/
theorem silence?_of_other (h : ¬ Matches f last (pattern header last).rate) (timestamp : UInt64) :
    silence? f header (some last) timestamp =
      if (pattern header last).rate.toNat / 100 = 0 then none
      else some ⟨timestamp, (pattern header last).rate, (pattern header last).channels,
        .silence ((pattern header last).rate.toNat / 100)⟩ := by
  rw [silence?_of_some, silenceFrames_of_other h]

variable {sound : PcmBuffer}

theorem silence?_eq_none_iff :
    silence? f header (some last) timestamp = none ↔
      ¬ Matches f last (pattern header last).rate ∧ (pattern header last).rate.toNat < 100 := by
  by_cases h : Matches f last (pattern header last).rate
  · simp [silence?_of_matches h, h]
  · rw [silence?_of_other h]
    by_cases hz : (pattern header last).rate.toNat / 100 = 0
    · rw [if_pos hz]
      exact ⟨fun _ => ⟨h, by omega⟩, fun _ => rfl⟩
    · rw [if_neg hz]
      refine ⟨by rintro ⟨⟩, fun hlt => ?_⟩
      omega

theorem lasts_iff (hf : sound.frames = f.frameCount last) (hr : sound.rate = last.rate) :
    (∃ b, silence? f header (some last) timestamp = some b ∧ b.isSilence ∧ b.seconds = sound.seconds) ↔
      Matches f last (pattern header last).rate ∨
        (0 < (pattern header last).rate.toNat / 100 ∧
          (((pattern header last).rate.toNat / 100 : ℕ) : ℚ) / (pattern header last).rate.toNat = sound.seconds) := by
  by_cases h : Matches f last (pattern header last).rate
  · rw [silence?_of_matches h]
    refine ⟨fun _ => .inl h, fun _ => ⟨_, rfl, rfl, ?_⟩⟩
    rw [PcmBuffer.seconds, PcmBuffer.seconds, PcmBuffer.frames_silence, hf, hr]
  · rw [silence?_of_other h]
    by_cases hz : (pattern header last).rate.toNat / 100 = 0
    · rw [if_pos hz, hz]
      simp [h]
    · rw [if_neg hz]
      have hpos : 0 < (pattern header last).rate.toNat / 100 := Nat.pos_of_ne_zero hz
      simp only [Option.some.injEq, exists_eq_left', PcmBuffer.seconds, PcmBuffer.frames_silence, h, hpos, false_or,
        true_and]
      exact and_iff_right rfl

end AudioPath

namespace Pipeline

variable {f : PcmFormat} {p : Pipeline} {packet : Packet} {a : AudioUnit}

/-- While there is no reset and no packet can be used, the last good one stays the last. -/
theorem lastGood_append (f : PcmFormat) (events : List Event) {between : List Event}
    (hr : ∀ e ∈ between, e.isReset = false)
    (hu : ∀ e ∈ between, ∀ packet, e.audio? = some packet → f.usable? packet.payload = none) :
    lastGood f (events ++ between) = lastGood f events := by
  induction between using List.reverseRecOn with
  | nil => rw [List.append_nil]
  | append_singleton between e ih =>
    simp only [List.forall_mem_append, List.forall_mem_singleton] at hr hu
    rw [← List.append_assoc]
    cases e with
    | reset => simp [Event.isReset] at hr
    | use op =>
      rw [lastGood_use, ih hr.1 hu.1]
      cases ha : (Event.use op).audio? with
      | none => rfl
      | some packet => rw [Option.bind_some, hu.2 packet ha, Option.none_or]

theorem lastGood_submit (events : List Event) (hk : packet.kind = .audio) (ha : f.usable? packet.payload = some a) :
    lastGood f (events ++ [.use (.submit packet)]) = some a := by
  rw [lastGood_use, Event.audio?_of_audio hk, Option.bind_some, ha, Option.some_or]

/-- After a packet that can be used, `a`, and until the next such or a reset: a packet that cannot be used is replaced
by silence that lasts as long as the sound of `a` if and only if its header tells no other rate and `a` has frames, or
ten milliseconds of the rate it tells happen to be as long; and it is replaced by nothing, which leaves a gap, if and
only if the rate is another, or `a` has no frames, and the rate is below a hundred frames a second. -/
theorem silence_lasts_iff (config : PipelineConfig) (f : PcmFormat) (past between : List Event) {good bad : Packet}
    (hg : good.kind = .audio) (ha : f.usable? good.payload = some a)
    (hr : ∀ e ∈ between, e.isReset = false)
    (hu : ∀ e ∈ between, ∀ packet, e.audio? = some packet → f.usable? packet.payload = none)
    (hb : bad.kind = .audio) (hn : f.usable? bad.payload = none) :
    let p := (ofConfig config f).run past
    let q := (p.submit good).1.run between
    let rate := (AudioPath.pattern (header? bad.payload) a).rate
    ∃ sound, (p.rendition good).buffers = [sound] ∧ sound.isSilence = false ∧
      sound.frames = f.frameCount a ∧ sound.rate = a.rate ∧
      ((∃ silence, (q.rendition bad).buffers = [silence] ∧ silence.isSilence ∧ silence.seconds = sound.seconds) ↔
        (0 < sound.frames ∧ rate = sound.rate) ∨
          (0 < rate.toNat / 100 ∧ ((rate.toNat / 100 : ℕ) : ℚ) / rate.toNat = sound.seconds)) ∧
      ((q.rendition bad).buffers = [] ↔ ¬ (0 < sound.frames ∧ rate = sound.rate) ∧ rate.toNat < 100) := by
  intro p q rate
  have h0 : (ofConfig config f).audio.Recalls f none := ⟨rfl, rfl⟩
  -- The good packet is heard.
  obtain ⟨-, samples, sound, hsound, hrate, -, hvalues, hframes, -⟩ :=
    (rendered (recalls_run h0 past) hg).good a ha
  have hsilent : sound.isSilence = false := by rw [PcmBuffer.isSilence, hvalues]
  refine ⟨sound, hsound, hsilent, hframes, hrate, ?_⟩
  have hmatch : 0 < sound.frames ∧ rate = sound.rate ↔ AudioPath.Matches f a rate := by
    rw [hframes, hrate, eq_comm]
    rfl
  rw [hmatch]
  -- It is the last good one when the bad packet comes.
  have hq : q.audio.Recalls f (some a) := by
    have hm := recalls_run h0 (past ++ [.use (.submit good)] ++ between)
    rw [lastGood_append f _ hr hu, lastGood_submit past hg ha, run, List.foldl_append, List.foldl_append] at hm
    exact hm
  have hbuffers : (q.rendition bad).buffers =
      (AudioPath.silence? f (header? bad.payload) (some a) bad.timestamp).toList := ((rendered hq hb).bad hn).2
  simp only [hbuffers, Option.toList_eq_singleton_iff, Option.toList_eq_nil_iff]
  exact ⟨AudioPath.lasts_iff hframes hrate, AudioPath.silence?_eq_none_iff⟩

/-- Twenty frames at a thousand a second. -/
def tone : Packet := ⟨.audio, 100, 1, [0, 0, 3, 232, 1] ++ List.replicate 40 0⟩

/-- A header that is not whole, one that tells another rate, and one that tells fewer than a hundred frames a second. -/
def torn : Packet := ⟨.audio, 120, 2, [187]⟩
def retuned : Packet := ⟨.audio, 120, 2, [0, 0, 7, 208, 2, 0]⟩
def slow : Packet := ⟨.audio, 120, 2, [0, 0, 0, 50, 1, 0]⟩

/-- Silence in the place of the first lasts as long as the tone, in that of the second it does not, and the third
leaves a gap. -/
theorem silence_lasts_iff_tone :
    let p := ofConfig {} .s16le
    let q := (p.submit tone).1
    ∃ sound, (p.rendition tone).buffers = [sound] ∧ sound.seconds = 1 / 50 ∧
      (∃ silence, (q.rendition torn).buffers = [silence] ∧ silence.isSilence ∧ silence.seconds = sound.seconds) ∧
      (¬ ∃ silence, (q.rendition retuned).buffers = [silence] ∧ silence.isSilence ∧ silence.seconds = sound.seconds) ∧
      (q.rendition slow).buffers = [] := by
  intro p q
  let a : AudioUnit := ⟨1000, 1, List.replicate 40 0⟩
  have ha : PcmFormat.s16le.usable? tone.payload = some a := by decide +kernel
  have lasts (b : Packet) (hb : b.kind = .audio) (hn : PcmFormat.s16le.usable? b.payload = none) :=
    silence_lasts_iff {} .s16le [] [] rfl ha (by simp) (by simp) hb hn
  obtain ⟨sound, hsound, -, hframes, hrate, htorn, -⟩ := lasts torn rfl (by decide +kernel)
  obtain ⟨_, hsound', -, -, -, hretuned, -⟩ := lasts retuned rfl (by decide +kernel)
  obtain ⟨_, hsound'', -, -, -, -, hslow⟩ := lasts slow rfl (by decide +kernel)
  obtain rfl := List.singleton_inj.1 (hsound.symm.trans hsound')
  obtain rfl := List.singleton_inj.1 (hsound.symm.trans hsound'')
  have hcount : sound.frames = 20 := hframes.trans (by decide +kernel)
  have hthousand : sound.rate = 1000 := hrate
  have hseconds : sound.seconds = 1 / 50 := by
    rw [PcmBuffer.seconds, hcount, hthousand, show (1000 : UInt32).toNat = 1000 from rfl]
    norm_num
  have hfaster : (AudioPath.pattern (header? retuned.payload) a).rate = 2000 := by decide +kernel
  have hslower : (AudioPath.pattern (header? slow.payload) a).rate = 50 := by decide +kernel
  refine ⟨sound, hsound, hseconds, htorn.2 (.inl ⟨by omega, hrate.symm⟩), ?_, hslow.2 ⟨?_, ?_⟩⟩
  · intro h
    rcases hretuned.1 h with ⟨-, hsame⟩ | ⟨-, hten⟩
    · rw [hfaster, hthousand] at hsame
      exact absurd hsame (by decide)
    · rw [hfaster, hseconds, show (2000 : UInt32).toNat = 2000 from rfl] at hten
      norm_num at hten
  · rintro ⟨-, hsame⟩
    rw [hslower, hthousand] at hsame
    exact absurd hsame (by decide)
  · rw [hslower]
    decide

end Pipeline
end DeskStream

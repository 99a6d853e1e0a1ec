import Mathlib.Data.List.Induction
import DeskStream.Proofs.Video.Order
/-!
# What is scheduled for audio packets

A payload can be used if its header is whole, it has a channel and its data are whole frames. Its octets then spell
samples (`sampleAt?`), which are played at the volume of the moment. One packet submitted comes to one of three things
(`Submission`), and what is remembered is what the last good packet since the last reset was like (`Recalls`). So in
every run the renderer is given at most one buffer for each packet, in order: its sound if it can be used and else
silence (`Rendered`), and three counters agree with what it is given (`audio_schedule`).
-/

namespace DeskStream

open Wire

/-! ## Payloads that can be used -/

theorem Bytes.length_chunks {n : Nat} (hn : 0 < n) {b : Bytes} (h : n ∣ b.length) :
    (Bytes.chunks n b).length = b.length / n := by
  obtain ⟨k, hk⟩ := h
  induction k generalizing b with
  | zero =>
    have hb : b = [] := List.length_eq_zero_iff.1 (by simpa using hk)
    simp [Bytes.chunks, hb]
  | succ k ih =>
    have hb : b ≠ [] := by
      rintro rfl
      simp only [List.length_nil] at hk
      have : 0 < n * (k + 1) := Nat.mul_pos hn (Nat.succ_pos k)
      omega
    have hd : (b.drop n).length = n * k := by
      rw [List.length_drop, hk, Nat.mul_succ, Nat.add_sub_cancel]
    rw [Bytes.chunks, dif_neg (by simp [hb, Nat.ne_of_gt hn]), List.length_cons, ih hd, hd, hk,
      Nat.mul_div_cancel_left _ hn, Nat.mul_div_cancel_left _ hn]

theorem Bytes.getElem?_chunks {n : Nat} (hn : 0 < n) {b : Bytes} (h : n ∣ b.length) (i : Nat) :
    (Bytes.chunks n b)[i]? = if n * i < b.length then some ((b.drop (n * i)).take n) else none := by
  induction i generalizing b with
  | zero =>
    rw [Bytes.chunks]
    by_cases hb : b = []
    · simp [hb]
    · rw [dif_neg (by simp [hb, Nat.ne_of_gt hn]), Nat.mul_zero, if_pos (List.length_pos_iff.2 hb)]
      rfl
  | succ i ih =>
    rw [Bytes.chunks]
    by_cases hb : b = []
    · simp [hb]
    · have hd : n ∣ (b.drop n).length := by
        rw [List.length_drop]
        exact Nat.dvd_sub h (Nat.dvd_refl n)
      have hlt : n * i < (b.drop n).length ↔ n * (i + 1) < b.length := by
        rw [List.length_drop, Nat.mul_succ]
        omega
      rw [dif_neg (by simp [hb, Nat.ne_of_gt hn]), List.getElem?_cons_succ, ih hd, List.drop_drop, Nat.mul_succ,
        Nat.add_comm n]
      simp only [hlt, Nat.mul_succ]

/-- The header and data of a payload, if the header is whole. -/
def header? (payload : Bytes) : Option AudioUnit := (AudioUnit.decode payload).toOption

theorem header?_isSome (payload : Bytes) : (header? payload).isSome ↔ AudioUnit.headerSize ≤ payload.length := by
  rw [← AudioUnit.decode_isOk, header?]
  cases AudioUnit.decode payload <;> simp [Except.toOption]

namespace PcmFormat

variable {f : PcmFormat} {a : AudioUnit} {payload : Bytes}

/-- Frames in the data. -/
def frameCount (f : PcmFormat) (a : AudioUnit) : Nat := a.data.length / (f.sampleSize * a.channels.toNat)

/-- The unit of a payload whose header is whole, which has a channel and whose data are whole frames. -/
def usable? (f : PcmFormat) (payload : Bytes) : Option AudioUnit :=
  (header? payload).filter fun a => 0 < a.channels ∧ f.sampleSize * a.channels.toNat ∣ a.data.length

theorem sampleSize_pos (f : PcmFormat) : 0 < f.sampleSize := by cases f <;> decide

theorem decode_of_usable (h : f.usable? payload = some a) :
    AudioUnit.decode payload = .ok a ∧ 0 < a.channels ∧ f.frameSize a.channels ∣ a.data.length ∧
      ∃ samples, f.decode a = .ok samples := by
  obtain ⟨hh, hu⟩ := Option.filter_eq_some_iff.1 h
  obtain ⟨hc, hd⟩ := of_decide_eq_true hu
  have hp : AudioUnit.decode payload = .ok a := by
    unfold header? at hh
    cases hp : AudioUnit.decode payload <;> simp_all [Except.toOption]
  exact ⟨hp, hc, hd, (f.decode_isOk a).2 ⟨UInt8.pos_iff_ne_zero.1 hc, hd⟩⟩

theorem decode_of_unusable (h : f.usable? payload = none) (hh : header? payload = some a) :
    ∃ why, f.decode a = .error why := by
  cases hd : f.decode a with
  | error why => exact ⟨why, rfl⟩
  | ok samples =>
    obtain ⟨hc, hw⟩ := (f.decode_isOk a).1 ⟨samples, hd⟩
    have hpos : 0 < a.channels := UInt8.pos_iff_ne_zero.2 hc
    rw [usable?, hh, Option.filter_some, if_pos (decide_eq_true ⟨hpos, hw⟩)] at h
    contradiction

theorem samples_of_decode {samples : List Float32} (h : f.decode a = .ok samples) :
    f.sampleSize ∣ a.data.length ∧ samples = (Bytes.chunks f.sampleSize a.data).map f.sample := by
  obtain ⟨hc, hw⟩ := (f.decode_isOk a).1 ⟨samples, h⟩
  have hm : ¬ a.data.length % f.frameSize a.channels ≠ 0 := by simpa using Nat.mod_eq_zero_of_dvd hw
  rw [decode, if_neg hc, if_neg hm, Except.ok.injEq] at h
  exact ⟨Nat.dvd_trans (Nat.dvd_mul_right _ _) hw, h.symm⟩

theorem length_of_decode {samples : List Float32} (h : f.decode a = .ok samples) :
    samples.length = a.data.length / f.sampleSize := by
  obtain ⟨hs, rfl⟩ := samples_of_decode h
  rw [List.length_map, Bytes.length_chunks f.sampleSize_pos hs]

/-! ## What octets spell -/

/-- A signed word of two octets, from its low and its high one. -/
def word (low high : UInt8) : Int :=
  if high < 128 then low.toNat + 256 * high.toNat else low.toNat + 256 * high.toNat - 65536

/-- The sample that stands at a place in the data, its octets from low to high: a signed word of two over 32768, or the
float that four are the bits of. -/
def sampleAt? (f : PcmFormat) (data : Bytes) (i : Nat) : Option Float32 :=
  match f with
  | s16le =>
    match data[2 * i]?, data[2 * i + 1]? with
    | some low, some high => some (Float32.ofInt (word low high) / 32768)
    | _, _ => none
  | f32le =>
    match data[4 * i]?, data[4 * i + 1]?, data[4 * i + 2]?, data[4 * i + 3]? with
    | some o0, some o1, some o2, some o3 =>
      some (Float32.ofBits (.ofNat (o0.toNat + 256 * o1.toNat + 65536 * o2.toNat + 16777216 * o3.toNat)))
    | _, _, _, _ => none

theorem toInt_word (low high : UInt8) :
    (UInt16.ofNat (low.toNat + 256 * high.toNat)).toInt16.toInt = word low high := by
  have hl := low.toNat_lt
  have hh := high.toNat_lt
  have hw : (UInt16.ofNat (low.toNat + 256 * high.toNat)).toInt16.toInt =
      (BitVec.ofNat 16 (low.toNat + 256 * high.toNat)).toInt := rfl
  have hiff : high < 128 ↔ high.toNat < 128 := UInt8.lt_iff_toNat_lt
  rw [hw, word, BitVec.toInt_eq_toNat_cond, BitVec.toNat_ofNat]
  simp only [hiff]
  split <;> split <;> omega

theorem sample_s16le (low high : UInt8) : s16le.sample [low, high] = Float32.ofInt (word low high) / 32768 := by
  rw [← toInt_word]
  rfl

theorem sample_f32le (o0 o1 o2 o3 : UInt8) :
    f32le.sample [o0, o1, o2, o3] =
      Float32.ofBits (.ofNat (o0.toNat + 256 * o1.toNat + 65536 * o2.toNat + 16777216 * o3.toNat)) := by
  have hsum : Bytes.toNatLE [o0, o1, o2, o3] =
      o0.toNat + 256 * o1.toNat + 65536 * o2.toNat + 16777216 * o3.toNat := by
    simp only [Bytes.toNatLE]
    omega
  rw [sample, hsum]

/-- Octets from some place on, as many as there are. -/
theorem drop_eq_cons {b : Bytes} {k : Nat} (h : k < b.length) :
    ∃ o, b[k]? = some o ∧ b.drop k = o :: b.drop (k + 1) :=
  ⟨b[k], List.getElem?_eq_getElem h, List.drop_eq_getElem_cons h⟩

/-- Data that are whole samples are taken apart into what stands at each place. -/
theorem sampleAt?_eq {data : Bytes} (h : f.sampleSize ∣ data.length) (i : Nat) :
    f.sampleAt? data i = (Bytes.chunks f.sampleSize data)[i]?.map f.sample := by
  rw [Bytes.getElem?_chunks f.sampleSize_pos h]
  obtain ⟨k, hk⟩ := h
  by_cases hi : i < k
  · rw [if_pos (hk ▸ Nat.mul_lt_mul_of_pos_left hi f.sampleSize_pos), Option.map_some]
    cases f with
    | s16le =>
      simp only [sampleSize] at hk ⊢
      obtain ⟨low, hlow, hdrop⟩ := drop_eq_cons (b := data) (k := 2 * i) (by omega)
      obtain ⟨high, hhigh, hdrop'⟩ := drop_eq_cons (b := data) (k := 2 * i + 1) (by omega)
      simp only [sampleAt?, hlow, hhigh, hdrop, hdrop', List.take_succ_cons, List.take_zero, sample_s16le]
    | f32le =>
      simp only [sampleSize] at hk ⊢
      obtain ⟨o0, h0, hdrop0⟩ := drop_eq_cons (b := data) (k := 4 * i) (by omega)
      obtain ⟨o1, h1, hdrop1⟩ := drop_eq_cons (b := data) (k := 4 * i + 1) (by omega)
      obtain ⟨o2, h2, hdrop2⟩ := drop_eq_cons (b := data) (k := 4 * i + 2) (by omega)
      obtain ⟨o3, h3, hdrop3⟩ := drop_eq_cons (b := data) (k := 4 * i + 3) (by omega)
      simp only [sampleAt?, h0, h1, h2, h3, hdrop0, hdrop1, hdrop2, hdrop3, List.take_succ_cons, List.take_zero,
        sample_f32le]
  · rw [if_neg (by rw [hk]; exact Nat.not_lt.2 (Nat.mul_le_mul_left _ (Nat.le_of_not_lt hi))), Option.map_none]
    -- There is no octet at this place.
    cases f with
    | s16le =>
      simp only [sampleSize] at hk
      simp only [sampleAt?, List.getElem?_eq_none (show data.length ≤ 2 * i by omega)]
    | f32le =>
      simp only [sampleSize] at hk
      simp only [sampleAt?, List.getElem?_eq_none (show data.length ≤ 4 * i by omega)]

/-- What is decoded is played at a volume: below full volume each sample is multiplied by it. -/
theorem getElem?_scale {samples : List Float32} (h : f.decode a = .ok samples) (volume : Float32) (i : Nat) :
    (AudioPath.scale volume samples)[i]? =
      (f.sampleAt? a.data i).map fun x => if volume < 1 then x * volume else x := by
  obtain ⟨hs, rfl⟩ := samples_of_decode h
  rw [sampleAt?_eq hs, Option.map_map, AudioPath.scale]
  by_cases hv : volume < 1
  · rw [if_pos hv, List.getElem?_map, List.getElem?_map, Option.map_map]
    simp only [hv, if_true]
  · rw [if_neg hv, List.getElem?_map]
    simp only [hv, if_false]
    rfl

end PcmFormat

namespace AudioPath

variable {f : PcmFormat} {p p' p'' : AudioPath} {payload : Bytes} {timestamp : UInt64} {last : Option AudioUnit}

/-! ## What is remembered -/

/-- What is remembered of a good packet. -/
def memory (f : PcmFormat) (a : AudioUnit) : LastAudio := ⟨a.rate, a.channels, f.frameCount a⟩

/-- A path that last heard this unit, if any. -/
structure Recalls (f : PcmFormat) (last : Option AudioUnit) (p : AudioPath) : Prop where
  format : p.format = f
  last : p.last = last.map (memory f)

/-- Rate and channels of silence in the place of a payload: those of its header if both are positive, else those of
the last good packet. -/
def silenceFormat (header last : Option AudioUnit) : Option (UInt32 × UInt8) :=
  ((header.filter fun a => 0 < a.rate ∧ 0 < a.channels).or last).map fun a => (a.rate, a.channels)

/-- Frames of silence at a rate: those of the last good packet if it had any and this rate, else ten milliseconds. -/
def silenceFrames (f : PcmFormat) (last : Option AudioUnit) (rate : UInt32) : Nat :=
  match last.filter fun a => 0 < f.frameCount a ∧ a.rate = rate with
  | some a => f.frameCount a
  | none => rate.toNat / 100

/-- Silence in the place of a payload; nothing if no format is known or no frames are due. -/
def silence? (f : PcmFormat) (header last : Option AudioUnit) (timestamp : UInt64) : Option PcmBuffer :=
  match silenceFormat header last with
  | none => none
  | some (rate, channels) =>
    if silenceFrames f last rate = 0 then none
    else some ⟨timestamp, rate, channels, .silence (silenceFrames f last rate)⟩

theorem fillerFormat_eq (f : PcmFormat) (header last : Option AudioUnit) :
    fillerFormat (last.map (memory f)) header = silenceFormat header last := by
  unfold fillerFormat silenceFormat
  cases header with
  | none => cases last <;> rfl
  | some a =>
    rw [Option.filter_some]
    by_cases h : 0 < a.rate ∧ 0 < a.channels
    · simp [h]
    · simp only [Bool.and_eq_true, decide_eq_true_eq, h, if_false]
      cases last <;> rfl

theorem fillerFrames_eq (f : PcmFormat) (last : Option AudioUnit) (rate : UInt32) :
    fillerFrames (last.map (memory f)) rate = silenceFrames f last rate := by
  unfold fillerFrames silenceFrames
  cases last with
  | none => rfl
  | some a =>
    rw [Option.filter_some]
    by_cases h : 0 < f.frameCount a ∧ a.rate = rate
    · simp [memory, h]
    · simp only [Option.map_some, memory, Bool.and_eq_true, decide_eq_true_eq, beq_iff_eq, h, if_false]

theorem filler_eq (f : PcmFormat) (header last : Option AudioUnit) (timestamp : UInt64) :
    filler (last.map (memory f)) header timestamp = silence? f header last timestamp := by
  rw [filler, silence?, fillerFormat_eq]
  cases silenceFormat header last with
  | none => rfl
  | some format =>
    obtain ⟨rate, channels⟩ := format
    simp only [fillerFrames_eq]

theorem silent_filler {l : Option LastAudio} {header : Option AudioUnit} {b : PcmBuffer}
    (h : filler l header timestamp = some b) : b.timestamp = timestamp ∧ b.isSilence = true := by
  unfold filler at h
  split at h
  · contradiction
  · simp only at h
    split at h
    · contradiction
    · rw [← Option.some.inj h]
      exact ⟨rfl, rfl⟩

theorem countP_filler (l : Option LastAudio) (header : Option AudioUnit) (timestamp : UInt64) :
    let bs := (filler l header timestamp).toList
    bs.countP (fun b => !b.isSilence) = 0 ∧ bs.countP (·.isSilence) = bs.length := by
  intro bs
  cases hb : filler l header timestamp with
  | none => simp [bs, hb]
  | some b => simp [bs, hb, (silent_filler hb).2]

theorem fill_eq (p : AudioPath) (header : Option AudioUnit) (timestamp : UInt64) :
    let b := filler p.last header timestamp
    p.fill header timestamp =
      { p with
        stats := { p.stats with silenceBuffers := p.stats.silenceBuffers + b.toList.length }
        scheduled := p.scheduled ++ b.toList } := by
  intro b
  unfold fill
  cases hb : filler p.last header timestamp with
  | none => simp [b, hb]
  | some x => simp [b, hb]

theorem scheduled_fill (p : AudioPath) (header : Option AudioUnit) (timestamp : UInt64) :
    (p.fill header timestamp).scheduled = p.scheduled ++ (filler p.last header timestamp).toList := by
  rw [fill_eq]

/-! ## One packet -/

/-- A failure counted if there is a header. -/
def countFailures (p : AudioPath) (header : Option AudioUnit) : AudioPath :=
  { p with stats := { p.stats with failures := p.stats.failures + header.toList.length } }

@[simp] theorem last_countFailures (p : AudioPath) (header : Option AudioUnit) :
    (p.countFailures header).last = p.last := rfl

/-- What a payload comes to. -/
inductive Submission (p : AudioPath) (payload : Bytes) (timestamp : UInt64) :
    AudioPath → Except DecodeError Unit → Prop where
  | good {a : AudioUnit} {samples : List Float32} (hu : p.format.usable? payload = some a)
    (hd : p.format.decode a = .ok samples) : Submission p payload timestamp (p.play a timestamp samples) (.ok ())
  /-- Its place is filled; a failure is counted if its header is whole. -/
  | bad {why : DecodeError} (hu : p.format.usable? payload = none) :
    Submission p payload timestamp ((p.countFailures (header? payload)).fill (header? payload) timestamp) (.error why)

theorem submission (p : AudioPath) (payload : Bytes) (timestamp : UInt64) :
    Submission p payload timestamp (p.submit payload timestamp).1 (p.submit payload timestamp).2 := by
  unfold submit
  cases hu : p.format.usable? payload with
  | some a =>
    obtain ⟨hp, -, -, samples, hd⟩ := PcmFormat.decode_of_usable hu
    rw [hp]
    simp only [hd]
    exact .good hu hd
  | none =>
    have hb {why : DecodeError} : Submission p payload timestamp
        ((p.countFailures (header? payload)).fill (header? payload) timestamp) (.error why) := .bad hu
    cases hp : AudioUnit.decode payload with
    | error why =>
      have hh : header? payload = none := by rw [header?, hp]; rfl
      rw [hh] at hb
      exact hb
    | ok a =>
      have hh : header? payload = some a := by rw [header?, hp]; rfl
      obtain ⟨why, hd⟩ := PcmFormat.decode_of_unusable hu hh
      rw [hh] at hb
      simp only [hd]
      exact hb

/-- The buffer of decoded sound. -/
def sound (p : AudioPath) (a : AudioUnit) (timestamp : UInt64) (samples : List Float32) : PcmBuffer :=
  ⟨timestamp, a.rate, a.channels, .samples (scale p.volume samples)⟩

theorem length_scale (volume : Float32) (samples : List Float32) : (scale volume samples).length = samples.length := by
  unfold scale
  split
  · exact List.length_map _
  · rfl

theorem frames_sound {a : AudioUnit} {samples : List Float32} (hc : 0 < a.channels) (hd : f.decode a = .ok samples) :
    (p.sound a timestamp samples).frames = f.frameCount a := by
  have hw : (p.sound a timestamp samples).width = a.channels.toNat :=
    Nat.max_eq_left (UInt8.lt_iff_toNat_lt.1 hc)
  have hn : (p.sound a timestamp samples).count = samples.length := length_scale ..
  rw [PcmBuffer.frames, hw, hn, PcmFormat.length_of_decode hd, Nat.div_div_eq_div_mul]
  rfl

theorem Recalls.submit (h : Recalls f last p) (payload : Bytes) (timestamp : UInt64) :
    Recalls f ((f.usable? payload).or last) (p.submit payload timestamp).1 := by
  obtain ⟨rfl, hl⟩ := h
  have hm := p.submission payload timestamp
  generalize (p.submit payload timestamp).1 = next, (p.submit payload timestamp).2 = result at hm
  cases hm with
  | good hu hd =>
    have hc := (PcmFormat.decode_of_usable hu).2.1
    rw [hu]
    refine ⟨rfl, ?_⟩
    simp only [play, Option.some_or, Option.map_some, memory]
    rw [← frames_sound hc hd]
    rfl
  | bad hu =>
    rw [hu, fill_eq]
    exact ⟨rfl, hl⟩

end AudioPath

namespace Pipeline

variable {f : PcmFormat} {p p' p'' : Pipeline} {packet : Packet} {last : Option AudioUnit}

/-! ## What is made of packets -/

/-- What is made of an audio packet. -/
structure Rendition where
  packet : Packet
  /-- The volume when it came. -/
  volume : Float32
  result : Except DecodeError Unit
  /-- What the renderer was given. -/
  buffers : List PcmBuffer

/-- A failure of a packet whose header is whole. -/
def Rendition.isFailure (r : Rendition) : Bool := AudioUnit.headerSize ≤ r.packet.payload.length ∧ ¬ r.result.isOk

def rendition (p : Pipeline) (packet : Packet) : Rendition :=
  let (q, result) := p.submit packet
  ⟨packet, p.audio.volume, result, q.audio.scheduled.drop p.audio.scheduled.length⟩

/-- The audio packet that is submitted. -/
def Event.audio? (e : Event) : Option Packet := e.packet?.filter fun packet => packet.kind = .audio

theorem Event.audio?_of_audio (hk : packet.kind = .audio) : (Event.use (.submit packet)).audio? = some packet := by
  rw [audio?, packet?, Op.packet?, Option.filter_some, if_pos (decide_eq_true hk)]

theorem Event.audio?_of_other (hk : packet.kind ≠ .audio) : (Event.use (.submit packet)).audio? = none := by
  rw [audio?, packet?, Op.packet?, Option.filter_some, if_neg (by simpa using hk)]

def renditions (p : Pipeline) (e : Event) : List Rendition := e.audio?.toList.map p.rendition

/-- What is made of all audio packets, in order. -/
def audioLog (p : Pipeline) : List Event → List Rendition
  | [] => []
  | e :: events => p.renditions e ++ (p.step e).audioLog events

/-- The buffers that a log tells of. -/
def given (log : List Rendition) : List PcmBuffer := log.flatMap (·.buffers)

/-- A packet is made into what it should be, where `last` is the last good one before it. -/
structure Rendered (f : PcmFormat) (last : Option AudioUnit) (r : Rendition) : Prop where
  single : r.buffers.length ≤ 1
  timestamp : ∀ b ∈ r.buffers, b.timestamp = r.packet.timestamp
  /-- A packet that can be used is played: the samples that its octets spell, in order, and below full volume each of
  them times the volume. -/
  good : ∀ a, f.usable? r.packet.payload = some a →
    r.result = .ok () ∧ ∃ samples b, r.buffers = [b] ∧ b.rate = a.rate ∧ b.channels = a.channels ∧
      b.sound = .samples samples ∧ b.frames = a.data.length / (f.sampleSize * a.channels.toNat) ∧
      ∀ i, samples[i]? = (f.sampleAt? a.data i).map fun x => if r.volume < 1 then x * r.volume else x
  /-- Any other is an error, and its place is filled with silence. -/
  bad : f.usable? r.packet.payload = none →
    (∃ why, r.result = .error why) ∧
      r.buffers = (AudioPath.silence? f (header? r.packet.payload) last r.packet.timestamp).toList

theorem submit_of_audio (hk : packet.kind = .audio) :
    p.submit packet =
      ({ p with audio := (p.audio.submit packet.payload packet.timestamp).1 },
        (p.audio.submit packet.payload packet.timestamp).2) := by
  simp only [submit, hk]

theorem audio_of_other (hk : packet.kind ≠ .audio) : (p.submit packet).1.audio = p.audio := by
  unfold submit
  split
  · rfl
  · contradiction
  · rfl

theorem volume_submit (hk : packet.kind = .audio) : (p.submit packet).1.audio.volume = p.audio.volume := by
  rw [submit_of_audio hk]
  have hm := p.audio.submission packet.payload packet.timestamp
  generalize (p.audio.submit packet.payload packet.timestamp).1 = next,
    (p.audio.submit packet.payload packet.timestamp).2 = result at hm ⊢
  cases hm with
  | good => rfl
  | bad => rw [AudioPath.fill_eq]; rfl

theorem rendition_of_audio (hk : packet.kind = .audio) {buffers : List PcmBuffer}
    (hs : (p.audio.submit packet.payload packet.timestamp).1.scheduled = p.audio.scheduled ++ buffers) :
    p.rendition packet =
      ⟨packet, p.audio.volume, (p.audio.submit packet.payload packet.timestamp).2, buffers⟩ := by
  rw [rendition, submit_of_audio hk]
  simp only [hs, List.drop_left]

theorem rendered (h : p.audio.Recalls f last) (hk : packet.kind = .audio) : Rendered f last (p.rendition packet) := by
  obtain ⟨rfl, hl⟩ := h
  have hm := p.audio.submission packet.payload packet.timestamp
  have hr := @rendition_of_audio p packet hk
  generalize (p.audio.submit packet.payload packet.timestamp).1 = next,
    (p.audio.submit packet.payload packet.timestamp).2 = result at hm hr
  cases hm with
  | @good a samples hu hd =>
    have hc := (PcmFormat.decode_of_usable hu).2.1
    rw [@hr [p.audio.sound a packet.timestamp samples] rfl]
    refine ⟨Nat.le_refl 1, ?_, ?_, ?_⟩
    · intro b hb
      rw [List.mem_singleton.1 hb]
      rfl
    · intro a' ha
      obtain rfl : a = a' := Option.some.inj (hu.symm.trans ha)
      exact ⟨rfl, _, _, rfl, rfl, rfl, rfl, AudioPath.frames_sound hc hd, PcmFormat.getElem?_scale hd _⟩
    · intro hn
      rw [hn] at hu
      contradiction
  | @bad why hu =>
    rw [hr (AudioPath.scheduled_fill ..)]
    refine ⟨Option.length_toList_le, ?_, ?_, ?_⟩
    · intro b hb
      exact (AudioPath.silent_filler (Option.mem_toList.1 hb)).1
    · intro a ha
      rw [hu] at ha
      contradiction
    · intro _
      refine ⟨⟨why, rfl⟩, ?_⟩
      rw [AudioPath.last_countFailures, hl, AudioPath.filler_eq]

/-! ## What is counted -/

/-- The renderer is given what the log tells of, and the counters go up accordingly. -/
structure Tally (p : Pipeline) (log : List Rendition) (p' : Pipeline) : Prop where
  scheduled : p'.audio.scheduled = p.audio.scheduled ++ given log
  buffers : p'.audio.stats.buffers = p.audio.stats.buffers + (given log).countP fun b => !b.isSilence
  silence : p'.audio.stats.silenceBuffers = p.audio.stats.silenceBuffers + (given log).countP (·.isSilence)
  failures : p'.audio.stats.failures = p.audio.stats.failures + log.countP (·.isFailure)

theorem Tally.of_eq (hs : p'.audio.scheduled = p.audio.scheduled) (ht : p'.audio.stats = p.audio.stats) :
    Tally p [] p' := by
  refine ⟨?_, ?_, ?_, ?_⟩ <;> simp [given, hs, ht]

theorem Tally.trans {log log' : List Rendition} (h : Tally p log p') (h' : Tally p' log' p'') :
    Tally p (log ++ log') p'' := by
  have hg : given (log ++ log') = given log ++ given log' := List.flatMap_append
  refine ⟨?_, ?_, ?_, ?_⟩
  · rw [h'.scheduled, h.scheduled, hg, List.append_assoc]
  · rw [h'.buffers, h.buffers, hg, List.countP_append, Nat.add_assoc]
  · rw [h'.silence, h.silence, hg, List.countP_append, Nat.add_assoc]
  · rw [h'.failures, h.failures, List.countP_append, Nat.add_assoc]

theorem isFailure_error {volume : Float32} {why : DecodeError} {buffers : List PcmBuffer} :
    (Rendition.mk packet volume (.error why) buffers).isFailure = (header? packet.payload).isSome := by
  rw [Bool.eq_iff_iff, header?_isSome]
  simp [Rendition.isFailure, Except.isOk, Except.toBool]

theorem tally_submit (p : Pipeline) (hk : packet.kind = .audio) :
    Tally p [p.rendition packet] (p.submit packet).1 := by
  have hm := p.audio.submission packet.payload packet.timestamp
  have hr := @rendition_of_audio p packet hk
  rw [submit_of_audio hk]
  generalize (p.audio.submit packet.payload packet.timestamp).1 = next,
    (p.audio.submit packet.payload packet.timestamp).2 = result at hm hr
  cases hm with
  | @good a samples hu hd =>
    rw [@hr [p.audio.sound a packet.timestamp samples] rfl]
    refine ⟨rfl, rfl, rfl, ?_⟩
    simp [Rendition.isFailure, Except.isOk, Except.toBool, AudioPath.play]
  | @bad why hu =>
    generalize hh : header? packet.payload = header at hr
    rw [hr (AudioPath.scheduled_fill ..), AudioPath.fill_eq]
    -- All that is handed over is silence.
    obtain ⟨hsound, hsilence⟩ := AudioPath.countP_filler p.audio.last header packet.timestamp
    refine ⟨?_, ?_, ?_, ?_⟩
    · simp only [given, List.flatMap_cons, List.flatMap_nil, List.append_nil]
      rfl
    · simp only [given, List.flatMap_cons, List.flatMap_nil, List.append_nil, AudioPath.last_countFailures, hsound]
      rfl
    · simp only [given, List.flatMap_cons, List.flatMap_nil, List.append_nil, AudioPath.last_countFailures, hsilence]
      rfl
    · simp only [List.countP_singleton, isFailure_error, hh]
      cases header <;> rfl

/-! ## Every run -/

theorem tally_step (p : Pipeline) (e : Event) : Tally p (p.renditions e) (p.step e) := by
  cases e with
  | reset => exact .of_eq rfl rfl
  | use op =>
    cases op with
    | submit packet =>
      by_cases hk : packet.kind = .audio
      · rw [renditions, Event.audio?_of_audio hk]
        exact tally_submit p hk
      · have ha : (p.step (.use (.submit packet))).audio = p.audio := audio_of_other hk
        rw [renditions, Event.audio?_of_other hk]
        exact .of_eq (congrArg AudioPath.scheduled ha) (congrArg AudioPath.stats ha)
    | work | pop | setVolume => exact .of_eq rfl rfl

theorem tally_run (p : Pipeline) (events : List Event) : Tally p (p.audioLog events) (p.run events) := by
  induction events generalizing p with
  | nil => exact .of_eq rfl rfl
  | cons e events ih => exact (tally_step p e).trans (ih (p.step e))

theorem packets_audioLog (p : Pipeline) (events : List Event) :
    (p.audioLog events).map (·.packet) = events.filterMap Event.audio? := by
  induction events generalizing p with
  | nil => rfl
  | cons e events ih =>
    rw [audioLog, List.map_append, ih, renditions]
    cases ha : e.audio? <;> simp [ha, rendition]

theorem audioLog_append (p : Pipeline) (events events' : List Event) :
    p.audioLog (events ++ events') = p.audioLog events ++ (p.run events).audioLog events' := by
  induction events generalizing p with
  | nil => rfl
  | cons e events ih =>
    rw [List.cons_append, audioLog, ih, audioLog, List.append_assoc]
    rfl

def Event.isReset : Event → Bool
  | .reset => true
  | .use _ => false

/-- What happened since the last reset. -/
def sinceReset (events : List Event) : List Event := (events.reverse.takeWhile fun e => !e.isReset).reverse

/-- The last packet since the last reset that could be used. -/
def lastGood (f : PcmFormat) (events : List Event) : Option AudioUnit :=
  (((sinceReset events).filterMap Event.audio?).filterMap fun packet => f.usable? packet.payload).getLast?

theorem lastGood_reset (f : PcmFormat) (events : List Event) : lastGood f (events ++ [.reset]) = none := by
  simp [lastGood, sinceReset, Event.isReset]

theorem lastGood_use (f : PcmFormat) (events : List Event) (op : Op) :
    lastGood f (events ++ [.use op]) =
      ((Event.use op).audio?.bind fun packet => f.usable? packet.payload).or (lastGood f events) := by
  have hs : sinceReset (events ++ [.use op]) = sinceReset events ++ [.use op] := by
    simp [sinceReset, Event.isReset]
  rw [lastGood, lastGood, hs, List.filterMap_append, List.filterMap_append, List.getLast?_append]
  cases ha : (Event.use op).audio? with
  | none => simp [ha]
  | some packet => cases hu : f.usable? packet.payload <;> simp [ha, hu]

theorem recalls_run {f : PcmFormat} (h : p.audio.Recalls f none) (events : List Event) :
    (p.run events).audio.Recalls f (lastGood f events) := by
  induction events using List.reverseRecOn with
  | nil => exact h
  | append_singleton events e ih =>
    rw [run, List.foldl_append]
    change ((p.run events).step e).audio.Recalls f _
    cases e with
    | reset =>
      rw [lastGood_reset]
      exact ⟨ih.format, rfl⟩
    | use op =>
      rw [lastGood_use]
      cases op with
      | submit packet =>
        by_cases hk : packet.kind = .audio
        · have hs : ((p.run events).step (.use (.submit packet))).audio =
              ((p.run events).audio.submit packet.payload packet.timestamp).1 := by
            simp only [step, handle, submit_of_audio hk]
          rw [hs, Event.audio?_of_audio hk]
          exact ih.submit packet.payload packet.timestamp
        · have hs : ((p.run events).step (.use (.submit packet))).audio = (p.run events).audio := audio_of_other hk
          rw [hs, Event.audio?_of_other hk]
          exact ih
      | work | pop | setVolume => exact ⟨ih.format, ih.last⟩

/-- The volume that is set. -/
def Event.volume? : Event → Option Float32
  | .use (.setVolume volume) => some volume
  | .use _ | .reset => none

/-- The volume after all that was done: the last one that was set, where one that is no number means full, or else the
configured one; in either case limited to [0, 1]. -/
def volumeAfter (config : PipelineConfig) (events : List Event) : Float32 :=
  let limited (v : Float32) := if v < 0 then 0 else if 1 < v then 1 else v
  match (events.filterMap Event.volume?).getLast? with
  | some v => if v.isNaN then 1 else limited v
  | none => limited config.volume

theorem volume_run (config : PipelineConfig) (f : PcmFormat) (events : List Event) :
    ((ofConfig config f).run events).audio.volume = volumeAfter config events := by
  induction events using List.reverseRecOn with
  | nil => rfl
  | append_singleton events e ih =>
    rw [run, List.foldl_append]
    change (((ofConfig config f).run events).step e).audio.volume = _
    -- Only setting it changes the volume, and what was set before no longer matters.
    have kept (hq : (((ofConfig config f).run events).step e).audio.volume =
        ((ofConfig config f).run events).audio.volume) (hv : e.volume? = none) :
        (((ofConfig config f).run events).step e).audio.volume = volumeAfter config (events ++ [e]) := by
      rw [hq, ih, volumeAfter, volumeAfter, List.filterMap_append, List.filterMap_cons_none hv, List.filterMap_nil,
        List.append_nil]
    rcases e with (packet | action | _ | volume) | _
    · refine kept ?_ rfl
      by_cases hk : packet.kind = .audio
      · exact volume_submit hk
      · exact congrArg AudioPath.volume (audio_of_other hk)
    · exact kept rfl rfl
    · exact kept rfl rfl
    · have hv : [Event.use (.setVolume volume)].filterMap Event.volume? = [volume] := rfl
      rw [volumeAfter, List.filterMap_append, hv, List.getLast?_concat]
      rfl
    · exact kept rfl rfl

/-- However a pipeline is used, the renderer is given the buffers of audio packets in the order in which they came. Each
packet is made into what it should be, after the last good one since the last reset and at the volume of the moment, and
the counters go up by the numbers of buffers with sound, of buffers with silence, and of failures of packets whose
header is whole. -/
theorem audio_schedule (config : PipelineConfig) (f : PcmFormat) (past events : List Event) :
    let p := (ofConfig config f).run past
    let log := p.audioLog events
    log.map (·.packet) = events.filterMap Event.audio? ∧
      (∀ before packet after, events = before ++ .use (.submit packet) :: after → packet.kind = .audio →
        let r := (p.run before).rendition packet
        log = p.audioLog before ++ r :: ((p.run before).submit packet).1.audioLog after ∧
          Rendered f (lastGood f (past ++ before)) r ∧ r.volume = volumeAfter config (past ++ before)) ∧
      Tally p log (p.run events) := by
  intro p log
  refine ⟨packets_audioLog p events, ?_, tally_run p events⟩
  intro before packet after he hk r
  have hp : p.run before = (ofConfig config f).run (past ++ before) := List.foldl_append.symm
  refine ⟨?_, ?_, ?_⟩
  · have hr : (p.run before).renditions (.use (.submit packet)) = [r] := by
      rw [renditions, Event.audio?_of_audio hk]
      rfl
    rw [show log = p.audioLog events from rfl, he, audioLog_append, audioLog, hr]
    rfl
  · have h0 : (ofConfig config f).audio.Recalls f none := ⟨rfl, rfl⟩
    have hm := recalls_run h0 (past ++ before)
    rw [← hp] at hm
    exact rendered hm hk
  · exact (congrArg (·.audio.volume) hp).trans (volume_run config f _)

/-- One channel at 8000 frames a second, and two samples: 16384 and -16384 over 32768. -/
def chirp : Packet := ⟨.audio, 100, 1, [0, 0, 31, 64, 1, 0, 64, 0, 192]⟩

/-- At half the volume they are played half as loud. -/
theorem audio_schedule_chirp :
    let p := ofConfig {} .s16le
    let events : List Event := [.use (.setVolume 0.5), .use (.submit chirp)]
    ∃ b, given (p.audioLog events) = [b] ∧ b.timestamp = 100 ∧ b.rate = 8000 ∧ b.channels = 1 ∧ b.frames = 2 ∧
      b.sound = .samples [0.25, -0.25] ∧ (p.run events).audio.stats.buffers = 1 := by
  intro p events
  let a : AudioUnit := ⟨8000, 1, [0, 64, 0, 192]⟩
  have ha : PcmFormat.s16le.usable? chirp.payload = some a := by decide +kernel
  obtain ⟨-, heach, htally⟩ := audio_schedule {} .s16le [] events
  obtain ⟨hlog, hrendered, hvolume⟩ := heach [.use (.setVolume 0.5)] chirp [] rfl rfl
  obtain ⟨-, samples, b, hb, hrate, hchannels, hsound, hframes, hsamples⟩ := hrendered.good a ha
  have hgiven : given (p.audioLog events) = [b] := by
    rw [show p.audioLog events = _ from hlog]
    simpa [given, audioLog, renditions, Event.audio?, Event.packet?, Op.packet?] using hb
  have hhalf : volumeAfter {} ([] ++ [.use (.setVolume 0.5)]) = 0.5 := by decide +kernel
  rw [hvolume, hhalf] at hsamples
  have hvalues : samples = [0.25, -0.25] := by
    refine List.ext_getElem? fun i => ?_
    rw [hsamples i]
    rcases i with _ | _ | i
    · decide +kernel
    · decide +kernel
    · have hnone : a.data[2 * (i + 2)]? = none := List.getElem?_eq_none (by simp [a]; omega)
      simp [PcmFormat.sampleAt?, hnone]
  have htally : Tally p (p.audioLog events) (p.run events) := htally
  refine ⟨b, hgiven, hrendered.timestamp b (by simp [hb]), hrate, hchannels, ?_, ?_, ?_⟩
  · exact hframes.trans (by decide +kernel)
  · rw [hsound, hvalues]
  · rw [htally.buffers, hgiven, List.countP_singleton, PcmBuffer.isSilence, hsound]
    rfl

end Pipeline
end DeskStream

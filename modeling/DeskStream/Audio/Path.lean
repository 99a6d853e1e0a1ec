import DeskStream.Audio.Buffer
import DeskStream.Audio.Pcm
/-!
# The audio path

Audio is decoded as it arrives and appended to the playback queue. A packet that cannot be used is
replaced by silence as long as the last good one, so that playback has no gap.
-/

namespace DeskStream

open Wire

/-- What the last good packet was like. -/
structure LastAudio where
  rate : UInt32
  channels : UInt8
  frames : Nat
  deriving Repr, DecidableEq

/-- Counts of the audio path. -/
structure AudioStats where
  buffers : Nat := 0
  silenceBuffers : Nat := 0
  failures : Nat := 0
  deriving Repr, DecidableEq

/-- Decoder, volume, memory of the last good packet, and all that was handed to the renderer. -/
structure AudioPath where
  format : PcmFormat
  volume : Float32
  last : Option LastAudio := none
  stats : AudioStats := {}
  scheduled : List PcmBuffer := []
  flushes : Nat := 0

namespace AudioPath

/-- A volume limited to [0, 1]; one that is no number stays as it is. -/
def limit (volume : Float32) : Float32 :=
  if volume < 0 then 0 else if 1 < volume then 1 else volume

/-- A path that starts at a volume. -/
def ofVolume (format : PcmFormat) (volume : Float32) : AudioPath := { format, volume := limit volume }

/-- Change the volume; one that is no number means full. -/
def setVolume (p : AudioPath) (volume : Float32) : AudioPath :=
  { p with volume := if volume.isNaN then 1 else limit volume }

/-- Samples at a volume; full volume leaves them alone. -/
def scale (volume : Float32) (samples : List Float32) : List Float32 :=
  if volume < 1 then samples.map (· * volume) else samples

/-- Hand a buffer of decoded sound to the renderer. -/
def play (p : AudioPath) (a : AudioUnit) (timestamp : UInt64) (samples : List Float32) : AudioPath :=
  let buffer : PcmBuffer := ⟨timestamp, a.rate, a.channels, .samples (scale p.volume samples)⟩
  { p with
    last := some ⟨a.rate, a.channels, buffer.frames⟩
    stats := { p.stats with buffers := p.stats.buffers + 1 }
    scheduled := p.scheduled ++ [buffer] }

/-- Rate and channels of a filler: those of the packet if both are positive, else the last good. -/
def fillerFormat (last : Option LastAudio) (a : Option AudioUnit) : Option (UInt32 × UInt8) :=
  let known := last.map fun l => (l.rate, l.channels)
  match a with
  | some a => if 0 < a.rate && 0 < a.channels then some (a.rate, a.channels) else known
  | none => known

/-- Frames of a filler at a rate: those of the last good packet if it had any at this rate, else ten
milliseconds. -/
def fillerFrames (last : Option LastAudio) (rate : UInt32) : Nat :=
  match last with
  | some l => if 0 < l.frames && l.rate == rate then l.frames else rate.toNat / 100
  | none => rate.toNat / 100

/-- The filler for a packet that cannot be used; nothing if no format is known or it is empty. -/
def filler (last : Option LastAudio) (a : Option AudioUnit) (timestamp : UInt64) : Option PcmBuffer :=
  match fillerFormat last a with
  | none => none
  | some (rate, channels) =>
    let frames := fillerFrames last rate
    if frames = 0 then none else some ⟨timestamp, rate, channels, .silence frames⟩

/-- Fill the gap of a packet that cannot be used. -/
def fill (p : AudioPath) (a : Option AudioUnit) (timestamp : UInt64) : AudioPath :=
  match filler p.last a timestamp with
  | none => p
  | some b =>
    { p with
      stats := { p.stats with silenceBuffers := p.stats.silenceBuffers + 1 }
      scheduled := p.scheduled ++ [b] }

/-- A decode failure is counted. -/
def countFailure (p : AudioPath) : AudioPath :=
  { p with stats := { p.stats with failures := p.stats.failures + 1 } }

/-- An audio payload: decoded and scheduled, or reported and filled. -/
def submit (p : AudioPath) (payload : Bytes) (timestamp : UInt64) :
    AudioPath × Except DecodeError Unit :=
  match AudioUnit.decode payload with
  | .error e => (p.fill none timestamp, .error (.invalidPayload e))
  | .ok a =>
    match p.format.decode a with
    | .error e => (p.countFailure.fill (some a) timestamp, .error e)
    | .ok samples => (p.play a timestamp samples, .ok ())

/-- Forget the last good packet and flush the renderer. -/
def reset (p : AudioPath) : AudioPath := { p with last := none, flushes := p.flushes + 1 }

end AudioPath
end DeskStream

import DeskStream.Number.Binary
/-!
# Buffers of sound

Interleaved samples scheduled for playback, or silence in the place of a frame that was lost.

Main statement: silence of `n` frames has `n` frames (`frames_silence`).
-/

namespace DeskStream

/-- What a buffer holds. -/
inductive Sound where
  | samples (values : List Float32)
  | silence (frames : Nat)

/-- Sound with the sender's timestamp in milliseconds. -/
structure PcmBuffer where
  timestamp : UInt64
  rate : UInt32
  channels : UInt8
  sound : Sound

namespace PcmBuffer

/-- Samples that belong together; a buffer without channels is counted as one channel. -/
def width (b : PcmBuffer) : Nat := max b.channels.toNat 1

/-- Number of samples, all channels taken together. -/
def count (b : PcmBuffer) : Nat :=
  match b.sound with
  | .samples values => values.length
  | .silence frames => frames * b.width

/-- Samples per channel. -/
def frames (b : PcmBuffer) : Nat := b.count / b.width

/-- The samples, zeros for silence. -/
def samples (b : PcmBuffer) : List Float32 :=
  match b.sound with
  | .samples values => values
  | .silence _ => List.replicate b.count 0

def isSilence (b : PcmBuffer) : Bool :=
  match b.sound with
  | .samples _ => false
  | .silence _ => true

/-- Nanoseconds of playback: the double nearest to the quotient of frames and rate, rounded to a
nanosecond. Nothing at rate zero. -/
def duration (b : PcmBuffer) : Nat :=
  if b.rate = 0 then 0
  else (Number.Binary.ofFloat
    ((UInt64.ofNat b.frames).toFloat / (UInt64.ofNat b.rate.toNat).toFloat)).scaled 1000000000

theorem frames_silence (timestamp : UInt64) (rate : UInt32) (channels : UInt8) (n : Nat) :
    (PcmBuffer.mk timestamp rate channels (.silence n)).frames = n := by
  simp only [frames, count]
  exact Nat.mul_div_cancel n (by simp only [width]; omega)

end PcmBuffer
end DeskStream

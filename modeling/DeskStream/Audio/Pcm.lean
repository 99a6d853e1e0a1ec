import DeskStream.Wire.Audio
import DeskStream.Wire.DecodeError
/-!
# Uncompressed audio

Samples are signed 16-bit words or 32-bit floats, least significant octet first.

Main statement: decoding succeeds exactly on whole frames of at least one channel (`decode_isOk`).
-/

namespace DeskStream

open Wire

/-- How a sample is written. -/
inductive PcmFormat where
  | s16le
  | f32le
  deriving Repr, DecidableEq

namespace PcmFormat

/-- Octets of a sample. -/
def sampleSize : PcmFormat → Nat
  | s16le => 2
  | f32le => 4

/-- The sample that octets spell; a 16-bit word is divided by 32768. -/
def sample (f : PcmFormat) (b : Bytes) : Float32 :=
  match f with
  | s16le => Float32.ofInt (UInt16.ofNat (Bytes.toNatLE b)).toInt16.toInt / 32768
  | f32le => Float32.ofBits (UInt32.ofNat (Bytes.toNatLE b))

/-- Octets of a frame: one sample for each channel. -/
def frameSize (f : PcmFormat) (channels : UInt8) : Nat := f.sampleSize * channels.toNat

/-- The samples of encoded audio. -/
def decode (f : PcmFormat) (a : AudioUnit) : Except DecodeError (List Float32) :=
  if a.channels = 0 then .error (.codecFailure .zeroChannels)
  else if a.data.length % f.frameSize a.channels ≠ 0 then
    .error (.codecFailure (.partialFrame a.data.length (f.frameSize a.channels)))
  else .ok ((Bytes.chunks f.sampleSize a.data).map f.sample)

theorem decode_isOk (f : PcmFormat) (a : AudioUnit) :
    (∃ samples, f.decode a = .ok samples) ↔
      a.channels ≠ 0 ∧ f.frameSize a.channels ∣ a.data.length := by
  simp only [decode, Nat.dvd_iff_mod_eq_zero]
  split
  · simp_all
  · split <;> simp_all

end PcmFormat
end DeskStream

import DeskStream.Wire.DecodeError
/-!
# Video decoders

A decoder opens a session for one format and turns access units into frames. The passthrough
decoder hands the access unit on as the frame, for codecs that have a name.
-/

namespace DeskStream

open Wire

/-- A picture ready for presentation, with the timestamp of its packet. -/
structure DecodedFrame where
  timestamp : UInt64
  format : VideoFormat
  data : Bytes
  deriving Repr, DecidableEq

/-- An access unit and the timestamp of its packet. -/
structure VideoJob where
  unit : VideoUnit
  timestamp : UInt64
  deriving Repr, DecidableEq

/-- The access unit itself as a frame. -/
def VideoJob.asFrame (j : VideoJob) : DecodedFrame := ⟨j.timestamp, j.unit.format, j.unit.data⟩

/-- What a decoder does at once: accept a format, and decode one unit. -/
structure VideoDecoder where
  accept : VideoFormat → Except DecodeError Unit
  decode : VideoJob → Except DecodeError DecodedFrame

/-- Named codecs only; an empty access unit is a fault. -/
def VideoDecoder.passthrough : VideoDecoder where
  accept format := if format.codec.name?.isSome then .ok () else .error (.unsupported format.codec)
  decode job := if job.unit.data.isEmpty then .error (.codecFailure .emptyUnit) else .ok job.asFrame

end DeskStream

import DeskStream.Wire.Video
/-!
# Why a frame is not decoded

Recovered frame by frame: the stream goes on with the next one.
-/

namespace DeskStream

open Wire

/-- What a codec objects to. -/
inductive CodecFault where
  | emptyUnit
  | zeroChannels
  | partialFrame (length frameSize : Nat)
  | other (text : String)
  deriving Repr, DecidableEq

/-- Why a frame never reached the decoder. -/
inductive DropReason where
  | queueFull
  | stopped
  deriving Repr, DecidableEq

/-- Why a frame is not decoded. -/
inductive DecodeError where
  | codecFailure (fault : CodecFault)
  | unsupported (codec : VideoCodec)
  | invalidPayload (why : WireError)
  | dropped (why : DropReason)
  deriving Repr, DecidableEq

def CodecFault.message : CodecFault → String
  | .emptyUnit => "empty access unit"
  | .zeroChannels => "zero channels"
  | .partialFrame n size => s!"{n} bytes is not a whole number of {size}-byte frames"
  | .other text => text

def DropReason.message : DropReason → String
  | .queueFull => "decode queue full"
  | .stopped => "decoder stopped"

def DecodeError.message : DecodeError → String
  | .codecFailure f => s!"codec failure: {f.message}"
  | .unsupported c => s!"unsupported codec: {c.text}"
  | .invalidPayload e => s!"invalid media payload: {e.message}"
  | .dropped why => s!"frame dropped: {why.message}"

end DeskStream

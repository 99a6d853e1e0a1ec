import DeskStream.Text.Hex
/-!
# Why a message is not understood

Every cause is recoverable: the message is dropped and the link stays up.
-/

namespace DeskStream.Wire

/-- Why octets are no packet. -/
inductive PacketError where
  | tooShort (length : Nat)
  | unknownKind (octet : UInt8)
  deriving Repr, DecidableEq

/-- The payloads that carry a header of their own. -/
inductive Header where
  | video | audio | input
  deriving Repr, DecidableEq

/-- Why a packet or its payload is rejected. -/
inductive WireError where
  | invalidPacket (why : PacketError)
  | truncated (header : Header) (needed present : Nat)
  | unknownInput (octet : UInt8)
  deriving Repr, DecidableEq

def PacketError.message : PacketError → String
  | .tooShort n => s!"buffer too short: {n} bytes (header is 13)"
  | .unknownKind o => s!"unknown packet type: 0x{Hex.encode [o]}"

def Header.name : Header → String
  | .video => "video"
  | .audio => "audio"
  | .input => "input"

def WireError.message : WireError → String
  | .invalidPacket e => s!"invalid packet: {e.message}"
  | .truncated k n m => s!"invalid {k.name} descriptor: need {n} bytes, have {m}"
  | .unknownInput o => s!"unknown input kind: 0x{Hex.encode [o]}"

/-- The packet header is at fault, not a payload. -/
def WireError.isPacketError : WireError → Bool
  | .invalidPacket _ => true
  | _ => false

end DeskStream.Wire

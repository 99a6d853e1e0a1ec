import DeskStream.Wire.Error
/-!
# Audio payloads

    sample rate 4 | channels 1 | encoded audio
-/

namespace DeskStream.Wire

/-- Encoded audio. -/
structure AudioUnit where
  rate : UInt32
  channels : UInt8
  data : Bytes
  deriving Repr, DecidableEq

namespace AudioUnit

/-- Octets in front of the audio. -/
def headerSize : Nat := 5

/-- The payload of encoded audio. -/
def encode (a : AudioUnit) : Bytes := Bytes.ofUInt32 a.rate ++ a.channels :: a.data

/-- The encoded audio of a payload. -/
def decode : Bytes → Except WireError AudioUnit
  | r1 :: r2 :: r3 :: r4 :: channels :: data =>
    .ok { rate := Bytes.toUInt32 [r1, r2, r3, r4], channels, data }
  | b => .error (.truncated .audio headerSize b.length)

/-- A payload is read exactly if its header is whole. -/
theorem decode_isOk (payload : Bytes) : (∃ unit, decode payload = .ok unit) ↔ headerSize ≤ payload.length := by
  rcases payload with _ | ⟨o1, _ | ⟨o2, _ | ⟨o3, _ | ⟨o4, _ | ⟨o5, data⟩⟩⟩⟩⟩ <;> simp [decode, headerSize]

end AudioUnit
end DeskStream.Wire

import DeskStream.Bytes
/-!
# Poly1305

The one-time authenticator of RFC 8439: a polynomial over the blocks of the message, evaluated
modulo the prime 2^130 - 5 at a clamped half of the key, plus the other half.
-/

namespace DeskStream.Poly1305

/-- The modulus. -/
def prime : Nat := Nat.pow 2 130 - 5

/-- The bits of a point that may be set. -/
def clampMask : Nat := 0x0ffffffc0ffffffc0ffffffc0fffffff

/-- The point of evaluation in a one-time key. -/
def point (key : Bytes) : Nat := Bytes.toNatLE (key.take 16) &&& clampMask

/-- A block with the bit that marks its end. -/
def coefficient (block : Bytes) : Nat := Bytes.toNatLE (block ++ [1])

/-- The polynomial of a message at a point. -/
def evaluate (r : Nat) (message : Bytes) : Nat :=
  (Bytes.chunks 16 message).foldl (fun acc block => (acc + coefficient block) * r % prime) 0

/-- The tag of a message under a one-time key of 32 octets. -/
def tag (key message : Bytes) : Bytes :=
  Bytes.ofNatLE 16 (evaluate (point key) message + Bytes.toNatLE ((key.drop 16).take 16))

-- The tag of RFC 8439, section 2.5.2.
example : tag (Bytes.ofNatBE 32 0x85d6be7857556d337f4452fe42d506a80103808afb0db2fd4abff6af4149f51b)
      "Cryptographic Forum Research Group".toUTF8.toList =
    Bytes.ofNatBE 16 0xa8061dc1305136c6c22b8baf0c0127a9 := by
  decide +kernel

@[simp] theorem length_tag (key message : Bytes) : (tag key message).length = 16 := by simp [tag]

end DeskStream.Poly1305

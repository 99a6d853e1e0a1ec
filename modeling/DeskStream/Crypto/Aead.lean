import DeskStream.Crypto.ChaCha20
import DeskStream.Crypto.Poly1305
/-!
# ChaCha20-Poly1305 without associated data

The authenticated encryption of RFC 8439. The block of counter zero gives the one-time key of the
tag, the blocks from counter one on encrypt, and the tag covers the padded ciphertext and its length.
-/

namespace DeskStream.Aead

/-- The counter is 32 bits wide, so a message has fewer blocks than it has values. -/
def maxBlocks : Nat := Nat.pow 2 32 - 1

/-- A message short enough for the counter. -/
def fits (b : Bytes) : Bool := b.length / 64 < maxBlocks

/-- What the tag covers: the ciphertext filled up to whole blocks of 16, and two lengths. -/
def macData (ciphertext : Bytes) : Bytes :=
  ciphertext ++ List.replicate ((16 - ciphertext.length % 16) % 16) 0
    ++ Bytes.ofNatLE 8 0 ++ Bytes.ofNatLE 8 ciphertext.length

/-- The tag of a ciphertext. -/
def tag (key nonce ciphertext : Bytes) : Bytes :=
  Poly1305.tag ((ChaCha20.block key nonce 0).take 32) (macData ciphertext)

/-- The ciphertext of a message, or the message of a ciphertext. -/
def cipher (key nonce b : Bytes) : Bytes := ChaCha20.apply key nonce 1 b

-- The ciphertext of RFC 8439, section 2.8.2, in a first block and a second.
example : cipher ((List.range 32).map fun i => UInt8.ofNat (0x80 + i))
      (Bytes.ofNatBE 12 0x070000004041424344454647)
      ("Ladies and Gentlemen of the class of '99: If I could offer you only one tip " ++
        "for the future, sunscreen would be it.").toUTF8.toList =
    Bytes.ofNatBE 32 0xd31a8d34648e60db7b86afbc53ef7ec2a4aded51296e08fea9e2b5a736ee62d6 ++
      Bytes.ofNatBE 32 0x3dbea45e8ca9671282fafb69da92728b1a71de0a9e060b2905d6a5b67ecd3b36 ++
      Bytes.ofNatBE 32 0x92ddbd7f2d778b8c9803aee328091b58fab324e4fad675945585808b4831d7bc ++
      Bytes.ofNatBE 18 0x3ff4def08e4b7a9de576d26586cec64b6116 := by
  decide +kernel

/-- Ciphertext and tag of a message. -/
def encrypt (key nonce message : Bytes) : Option (Bytes × Bytes) :=
  if fits message then
    let ciphertext := cipher key nonce message
    some (ciphertext, tag key nonce ciphertext)
  else none

/-- The message of a ciphertext, if the tag is its own. -/
def decrypt (key nonce ciphertext presented : Bytes) : Option Bytes :=
  if fits ciphertext && presented == tag key nonce ciphertext then some (cipher key nonce ciphertext)
  else none

@[simp] theorem length_tag (key nonce ciphertext : Bytes) : (tag key nonce ciphertext).length = 16 := by
  simp [tag]

@[simp] theorem length_cipher (key nonce b : Bytes) : (cipher key nonce b).length = b.length := by
  simp [cipher]

end DeskStream.Aead

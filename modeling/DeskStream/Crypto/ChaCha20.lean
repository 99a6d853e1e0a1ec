import DeskStream.Bytes
/-!
# ChaCha20

The stream cipher of RFC 8439. A block of 64 octets is made from the key, a counter and a nonce;
the blocks in order are the keystream.

Main statement: the keystream is as long as asked for (`le_length_keystream`).
-/

namespace DeskStream.ChaCha20

/-- Sixteen words. -/
abbrev State := Vector UInt32 16

/-- Rotation to the left. -/
def rotate (w : UInt32) (n : UInt32) : UInt32 := (w <<< n) ||| (w >>> (32 - n))

/-- Add one word to another, and mix the sum into a third that is rotated. -/
def mix (s : State) (a b d : Fin 16) (n : UInt32) : State :=
  let sum := s.get a + s.get b
  let s := s.set a sum
  s.set d (rotate (s.get d ^^^ sum) n)

/-- The quarter round on four words. -/
def quarter (s : State) (a b c d : Fin 16) : State :=
  mix (mix (mix (mix s a b d 16) c d b 12) a b d 8) c d b 7

/-- A round on the columns and one on the diagonals. -/
def doubleRound (s : State) : State :=
  let s := quarter s 0 4 8 12
  let s := quarter s 1 5 9 13
  let s := quarter s 2 6 10 14
  let s := quarter s 3 7 11 15
  let s := quarter s 0 5 10 15
  let s := quarter s 1 6 11 12
  let s := quarter s 2 7 8 13
  quarter s 3 4 9 14

/-- The word that four octets denote, least significant first. -/
def word (b : Bytes) (i : Nat) : UInt32 := UInt32.ofNat (Bytes.toNatLE ((b.drop (4 * i)).take 4))

/-- Constants, key, counter and nonce. -/
def initial (key nonce : Bytes) (counter : UInt32) : State :=
  #v[0x61707865, 0x3320646e, 0x79622d32, 0x6b206574,
    word key 0, word key 1, word key 2, word key 3, word key 4, word key 5, word key 6, word key 7,
    counter, word nonce 0, word nonce 1, word nonce 2]

/-- Twenty rounds, added to where they began. -/
def permute (s : State) : State :=
  Vector.zipWith (· + ·) s (Nat.repeat doubleRound 10 s)

/-- The block of a counter. -/
def block (key nonce : Bytes) (counter : UInt32) : Bytes :=
  (permute (initial key nonce counter)).toList.flatMap (fun w => Bytes.ofNatLE 4 w.toNat)

-- The block of RFC 8439, section 2.3.2.
example : block ((List.range 32).map UInt8.ofNat) (Bytes.ofNatBE 12 0x000000090000004a00000000) 1 =
    Bytes.ofNatBE 32 0x10f1e7e4d13b5915500fdd1fa32071c4c7d1f4c733c068030422aa9ac3d46c4e ++
      Bytes.ofNatBE 32 0xd2826446079faa0914c2d705d98b02a2b5129cd1de164eb9cbd083e8a2503c4e := by
  decide +kernel

/-- The `n` blocks from a counter on. -/
def blocks (key nonce : Bytes) (counter : UInt32) : Nat → Bytes
  | 0 => []
  | n + 1 => block key nonce counter ++ blocks key nonce (counter + 1) n

/-- At least `n` octets of keystream from a counter on. -/
def keystream (key nonce : Bytes) (counter : UInt32) (n : Nat) : Bytes :=
  blocks key nonce counter ((n + 63) / 64)

/-- Octets xored with the keystream from a counter on. -/
def apply (key nonce : Bytes) (counter : UInt32) (b : Bytes) : Bytes :=
  Bytes.xor b (keystream key nonce counter b.length)

@[simp] theorem length_block (key nonce : Bytes) (counter : UInt32) :
    (block key nonce counter).length = 64 := by
  simp [block, List.length_flatMap, List.map_const']

@[simp] theorem length_blocks (key nonce : Bytes) (counter : UInt32) (n : Nat) :
    (blocks key nonce counter n).length = 64 * n := by
  induction n generalizing counter with
  | zero => rfl
  | succ n ih => simp only [blocks, List.length_append, length_block, ih]; omega

theorem le_length_keystream (key nonce : Bytes) (counter : UInt32) (n : Nat) :
    n ≤ (keystream key nonce counter n).length := by
  simp only [keystream, length_blocks]
  omega

@[simp] theorem length_apply (key nonce : Bytes) (counter : UInt32) (b : Bytes) :
    (apply key nonce counter b).length = b.length := by
  have := le_length_keystream key nonce counter b.length
  simp only [apply, Bytes.xor, List.length_zipWith]
  omega

end DeskStream.ChaCha20

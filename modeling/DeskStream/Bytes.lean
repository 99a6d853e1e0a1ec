/-!
# Octet strings

Messages, payloads and keys are lists of octets. This module writes fixed-width words into them and
reads them back: most significant octet first on the wire, least significant first inside the cipher.

Main statements: a word read from its own octets is the word (`toNatBE_ofNatBE`), and octets
written from the number they denote are those octets (`ofNatBE_toNatBE`).
-/

namespace DeskStream

/-- A string of octets. -/
abbrev Bytes := List UInt8

namespace Bytes

/-! ## Words, least significant octet first -/

/-- The `n` low octets of `x`, least significant first. -/
def ofNatLE : Nat → Nat → Bytes
  | 0, _ => []
  | n + 1, x => UInt8.ofNat x :: ofNatLE n (x / 256)

/-- The number whose octets, least significant first, are `b`. -/
def toNatLE : Bytes → Nat
  | [] => 0
  | o :: b => o.toNat + 256 * toNatLE b

/-- The numbers that `n` octets denote lie below this. -/
def bound : Nat → Nat
  | 0 => 1
  | n + 1 => 256 * bound n

@[simp] theorem length_ofNatLE (n x : Nat) : (ofNatLE n x).length = n := by
  induction n generalizing x with
  | zero => rfl
  | succ n ih => simp [ofNatLE, ih]

theorem toNatLE_ofNatLE (n x : Nat) : toNatLE (ofNatLE n x) = x % bound n := by
  induction n generalizing x with
  | zero => simp [ofNatLE, toNatLE, bound, Nat.mod_one]
  | succ n ih =>
    have low : (UInt8.ofNat x).toNat = x % 256 := by simp
    rw [ofNatLE, toNatLE, ih, low, bound, Nat.mod_mul]

theorem toNatLE_lt (b : Bytes) : toNatLE b < bound b.length := by
  induction b with
  | nil => simp [toNatLE, bound]
  | cons o b ih =>
    have h := o.toNat_lt
    simp only [toNatLE, List.length_cons, bound]
    omega

theorem ofNatLE_toNatLE (b : Bytes) : ofNatLE b.length (toNatLE b) = b := by
  induction b with
  | nil => rfl
  | cons o b ih =>
    have h := o.toNat_lt
    have h1 : (o.toNat + 256 * toNatLE b) / 256 = toNatLE b := by omega
    have h2 : UInt8.ofNat (o.toNat + 256 * toNatLE b) = o := by
      apply UInt8.toNat_inj.1
      simp only [UInt8.toNat_ofNat']
      omega
    simp [ofNatLE, toNatLE, h1, h2, ih]

/-! ## Words, most significant octet first -/

/-- The `n` low octets of `x`, most significant first. -/
def ofNatBE (n x : Nat) : Bytes := (ofNatLE n x).reverse

/-- The number whose octets, most significant first, are `b`. -/
def toNatBE (b : Bytes) : Nat := toNatLE b.reverse

@[simp] theorem length_ofNatBE (n x : Nat) : (ofNatBE n x).length = n := by simp [ofNatBE]

theorem toNatBE_ofNatBE (n x : Nat) : toNatBE (ofNatBE n x) = x % bound n := by
  simp [toNatBE, ofNatBE, toNatLE_ofNatLE]

theorem toNatBE_lt (b : Bytes) : toNatBE b < bound b.length := by
  simpa [toNatBE] using toNatLE_lt b.reverse

theorem ofNatBE_toNatBE (b : Bytes) : ofNatBE b.length (toNatBE b) = b := by
  have h := ofNatLE_toNatLE b.reverse
  rw [List.length_reverse] at h
  simp [ofNatBE, toNatBE, h]

/-! ## Words of the wire format -/

/-- A 16-bit word as two octets. -/
def ofUInt16 (w : UInt16) : Bytes := ofNatBE 2 w.toNat

/-- A 32-bit word as four octets. -/
def ofUInt32 (w : UInt32) : Bytes := ofNatBE 4 w.toNat

/-- A 64-bit word as eight octets. -/
def ofUInt64 (w : UInt64) : Bytes := ofNatBE 8 w.toNat

/-- The 16-bit word that two octets denote. -/
def toUInt16 (b : Bytes) : UInt16 := UInt16.ofNat (toNatBE b)

/-- The 32-bit word that four octets denote. -/
def toUInt32 (b : Bytes) : UInt32 := UInt32.ofNat (toNatBE b)

/-- The 64-bit word that eight octets denote. -/
def toUInt64 (b : Bytes) : UInt64 := UInt64.ofNat (toNatBE b)

@[simp] theorem length_ofUInt16 (w : UInt16) : (ofUInt16 w).length = 2 := length_ofNatBE ..
@[simp] theorem length_ofUInt32 (w : UInt32) : (ofUInt32 w).length = 4 := length_ofNatBE ..
@[simp] theorem length_ofUInt64 (w : UInt64) : (ofUInt64 w).length = 8 := length_ofNatBE ..

/-! ## Pieces of a given size -/

/-- Cut into pieces of `n` octets, the last one possibly shorter; nothing if `n` is zero. -/
def chunks (n : Nat) (b : Bytes) : List Bytes :=
  if _h : n = 0 ∨ b = [] then []
  else b.take n :: chunks n (b.drop n)
termination_by b.length
decreasing_by
  have := List.length_pos_iff.2 (fun e => _h (.inr e))
  simp only [List.length_drop]
  omega

/-- Octet-wise exclusive or, as long as the shorter of the two. -/
def xor (a b : Bytes) : Bytes := List.zipWith (· ^^^ ·) a b

end Bytes
end DeskStream

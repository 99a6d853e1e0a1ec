import DeskStream.Number.Rounding
/-!
# Binary floating-point numbers, exactly

A finite double is `mantissa * 2 ^ exponent`, with the mantissa an integer.
-/

namespace DeskStream.Number

/-- A non-negative number `mantissa * 2 ^ exponent`. -/
structure Binary where
  mantissa : Nat
  exponent : Int
  deriving Repr, DecidableEq

/-- The magnitude of a finite double. -/
def Binary.ofFloat (x : Float) : Binary :=
  let bits := x.toBits.toNat
  let fraction : Nat := bits % Nat.pow 2 52
  let biased : Nat := bits / Nat.pow 2 52 % Nat.pow 2 11
  if biased = 0 then ⟨fraction, -1074⟩ else ⟨Nat.pow 2 52 + fraction, (biased : Int) - 1075⟩

/-- The number times `scale`, to the nearest integer, ties to even. -/
def Binary.scaled (b : Binary) (scale : Nat) : Nat :=
  if 0 ≤ b.exponent then b.mantissa * Nat.pow 2 b.exponent.toNat * scale
  else roundDiv (b.mantissa * scale) (Nat.pow 2 (-b.exponent).toNat)

end DeskStream.Number

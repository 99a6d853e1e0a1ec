import DeskStream.Number.Binary
/-!
# The shortest decimal that reads back

Of all decimals that round to a given double, those with the fewest digits, and of those the
nearest; of two equally near ones the greater.

The numbers that round to `m * 2 ^ e` lie between half a unit below and half a unit above it, ends
included where `m` is even; below a power of two the lower neighbour is only half as far away. All
is measured in quarters of a unit and compared exactly.
-/

namespace DeskStream.Number

/-- A number `digits * 10 ^ exponent`. -/
structure Decimal where
  digits : Nat
  exponent : Int
  deriving Repr, DecidableEq

/-- The decimals that round to a double, in quarters of its unit: `low` to `high`, with the number
itself at `value`. -/
structure Binary.Range where
  low : Nat
  value : Nat
  high : Nat
  inclusive : Bool

def Binary.range (b : Binary) : Binary.Range :=
  let halved := b.mantissa = Nat.pow 2 52 && decide (-1074 < b.exponent)
  { low := 4 * b.mantissa - (if halved then 1 else 2)
    value := 4 * b.mantissa
    high := 4 * b.mantissa + 2
    inclusive := b.mantissa % 2 = 0 }

/-- A number lies in the range, where a quarter is `unit` long. -/
def Binary.Range.holds (r : Binary.Range) (unit x : Nat) : Bool :=
  if r.inclusive then decide (r.low * unit ≤ x) && decide (x ≤ r.high * unit)
  else decide (r.low * unit < x) && decide (x < r.high * unit)

/-- The best number of steps of `10 ^ k` that rounds to a double, if one does. -/
def Binary.onGrid (b : Binary) (k : Int) : Option Nat :=
  let r := b.range
  -- Both lengths as multiples of one that divides a quarter and a step.
  let quarter := Nat.pow 2 (b.exponent - 2).toNat * Nat.pow 10 (-k).toNat
  let step := Nat.pow 10 k.toNat * Nat.pow 2 (2 - b.exponent).toNat
  let below := r.value * quarter / step
  let rest := r.value * quarter % step
  let hits (n : Nat) : Bool := decide (0 < n) && r.holds quarter (n * step)
  if hits (below + 1) && (!hits below || decide (step ≤ 2 * rest)) then some (below + 1)
  else if hits below then some below
  else none

/-- The first of `n` grids, from `10 ^ k` downwards, with a number that rounds to a double. -/
def Binary.firstGrid (b : Binary) : Nat → Int → Decimal
  | 0, k => ⟨0, k⟩
  | n + 1, k =>
    match b.onGrid k with
    | some digits => ⟨digits, k⟩
    | none => firstGrid b n (k - 1)

/-- No double reaches this power of ten. -/
def greatestPower : Int := 309

/-- The finest grid on which some double needs to be looked for. -/
def leastPower : Int := -343

/-- The shortest decimal that rounds to a positive double. -/
def Binary.shortest (b : Binary) : Decimal :=
  b.firstGrid (greatestPower - leastPower).toNat greatestPower

namespace Decimal

/-- Digits with a point and no exponent; a whole number without a point. -/
def positional (d : Decimal) : String :=
  let digits := toString d.digits
  if 0 ≤ d.exponent then digits ++ String.ofList (List.replicate d.exponent.toNat '0')
  else
    let places := (-d.exponent).toNat
    let padded := List.replicate (places + 1 - digits.length) '0' ++ digits.toList
    let whole := padded.length - places
    String.ofList (padded.take whole) ++ "." ++ String.ofList (padded.drop whole)

/-- The double nearest to a decimal. Numbers beyond all doubles, and below all, are told by how many
digits they have before the point. -/
def toFloat (d : Decimal) : Float :=
  let whole : Int := (toString d.digits).length + d.exponent
  if d.digits = 0 || decide (whole < -400) then 0
  else if 400 < whole then 1 / 0
  else if 0 ≤ d.exponent then Float.ofScientific (d.digits * Nat.pow 10 d.exponent.toNat) false 0
  else Float.ofScientific d.digits true (-d.exponent).toNat

end Decimal

/-- The text of a double: the shortest digits, positional, always with a point. -/
def positional (x : Float) : String :=
  if x.isNaN then "nan"
  else
    let sign := if x.toBits.toNat < Nat.pow 2 63 then "" else "-"
    if x.isInf then sign ++ "inf"
    else if x == 0 then sign ++ "0.0"
    else
      let d := (Binary.ofFloat x).shortest
      sign ++ d.positional ++ if 0 ≤ d.exponent then ".0" else ""

end DeskStream.Number

import DeskStream.Number.Binary
/-!
# Numbers with a fixed number of places

A double is written with so many places after the point, rounded to the nearest such number; a half
goes to the even neighbour.
-/

namespace DeskStream.Number

/-- A natural number of `10 ^ -places` in decimal. -/
def pointed (places n : Nat) : String :=
  let whole := toString (n / Nat.pow 10 places)
  if places = 0 then whole
  else
    let fraction := toString (n % Nat.pow 10 places)
    whole ++ "." ++ String.ofList (List.replicate (places - fraction.length) '0') ++ fraction

/-- A number with a fixed number of places. -/
def fixed (places : Nat) (x : Float) : String :=
  if x.isNaN then "NaN"
  else
    let sign := if x.toBits >>> 63 = 1 then "-" else ""
    sign ++ if x.isInf then "inf" else pointed places ((Binary.ofFloat x).scaled (Nat.pow 10 places))

end DeskStream.Number

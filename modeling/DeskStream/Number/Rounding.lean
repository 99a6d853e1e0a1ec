/-!
# Rounding to the nearest integer

Main statements: the rounded quotient is within half a unit (`two_mul_roundDiv_le`,
`le_two_mul_roundDiv`), and a tie goes to the even neighbour (`roundDiv_tie`).
-/

namespace DeskStream.Number

/-- The quotient to the nearest integer, ties to even. -/
def roundDiv (n d : Nat) : Nat :=
  let q := n / d
  let r := n % d
  if 2 * r < d then q
  else if d < 2 * r then q + 1
  else q + q % 2

theorem two_mul_roundDiv_le (n d : Nat) : 2 * (d * roundDiv n d) ≤ 2 * n + d := by
  have h := Nat.div_add_mod n d
  unfold roundDiv
  dsimp only
  split
  · omega
  · split
    · rw [Nat.mul_add, Nat.mul_one]; omega
    · rcases Nat.mod_two_eq_zero_or_one (n / d) with e | e <;> rw [e] <;>
        simp only [Nat.mul_add, Nat.mul_zero, Nat.mul_one] <;> omega

theorem le_two_mul_roundDiv (n d : Nat) (hd : 0 < d) : 2 * n ≤ 2 * (d * roundDiv n d) + d := by
  have h := Nat.div_add_mod n d
  have hr := Nat.mod_lt n hd
  unfold roundDiv
  dsimp only
  split
  · omega
  · split
    · rw [Nat.mul_add, Nat.mul_one]; omega
    · rcases Nat.mod_two_eq_zero_or_one (n / d) with e | e <;> rw [e] <;>
        simp only [Nat.mul_add, Nat.mul_zero, Nat.mul_one] <;> omega

theorem roundDiv_tie (n d : Nat) (h : 2 * (n % d) = d) : roundDiv n d % 2 = 0 := by
  unfold roundDiv
  dsimp only
  rw [if_neg (by omega), if_neg (by omega)]
  omega

end DeskStream.Number

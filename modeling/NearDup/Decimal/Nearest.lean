/-! The floating-point number nearest to a fraction; a fraction halfway between two goes to the one
whose last binary digit is zero. Main statement: a quotient is rounded by no more than a half. -/

namespace NearDup.Decimal

/-- `numerator / denominator` as a natural number, where a half goes to the even neighbour. -/
def roundedQuotient (numerator denominator : Nat) : Nat :=
  let floor := numerator / denominator
  let rest := 2 * (numerator % denominator)
  if rest < denominator then floor
  else if denominator < rest then floor + 1
  else floor + floor % 2

theorem roundedQuotient_mul_le (numerator denominator : Nat) :
    2 * (roundedQuotient numerator denominator * denominator) ≤ 2 * numerator + denominator := by
  have h := Nat.div_add_mod' numerator denominator
  have hsucc := Nat.succ_mul (numerator / denominator) denominator
  simp only [Nat.succ_eq_add_one] at hsucc
  rw [roundedQuotient]
  split
  · omega
  · split
    · omega
    · rcases Nat.mod_two_eq_zero_or_one (numerator / denominator) with h2 | h2
      · rw [h2, Nat.add_zero]
        omega
      · rw [h2]
        omega

theorem le_roundedQuotient_mul (numerator : Nat) {denominator : Nat} (hd : 0 < denominator) :
    2 * numerator ≤ 2 * (roundedQuotient numerator denominator * denominator) + denominator := by
  have h := Nat.div_add_mod' numerator denominator
  have hlt := Nat.mod_lt numerator hd
  have hsucc := Nat.succ_mul (numerator / denominator) denominator
  simp only [Nat.succ_eq_add_one] at hsucc
  rw [roundedQuotient]
  split
  · omega
  · split
    · omega
    · rcases Nat.mod_two_eq_zero_or_one (numerator / denominator) with h2 | h2
      · rw [h2, Nat.add_zero]
        omega
      · rw [h2]
        omega

def inUnits (exponent : Int) (numerator denominator : Nat) : Nat × Nat :=
  (numerator * Nat.pow 2 (-exponent).toNat, denominator * Nat.pow 2 exponent.toNat)

/-- The exponent of the last binary place that floats near a positive fraction have. -/
def lastPlace (numerator denominator : Nat) : Int :=
  let exponent : Int := max ((numerator.log2 : Int) - denominator.log2 - 53) (-1074)
  let (n, d) := inUnits exponent numerator denominator
  if n / d < Nat.pow 2 53 then exponent else exponent + 1

/-- The float nearest to a fraction, infinite beyond the greatest one. -/
def nearestFloat (numerator denominator : Nat) : Float :=
  if numerator = 0 then 0.0
  else
    let exponent := lastPlace numerator denominator
    let (n, d) := inUnits exponent numerator denominator
    (Float.ofNat (roundedQuotient n d)).scaleB exponent

end NearDup.Decimal

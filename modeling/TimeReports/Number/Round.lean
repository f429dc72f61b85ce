import TimeReports.Number.Power

set_option autoImplicit false

namespace TimeReports.Number

/-- The whole number nearest to `numerator / denominator`, ties to even. -/
def roundNearest (numerator denominator : Nat) : Nat :=
  let quotient := numerator / denominator
  let twice := 2 * (numerator % denominator)
  if twice < denominator then quotient
  else if denominator < twice then quotient + 1
  else if quotient % 2 = 0 then quotient else quotient + 1

/-- `numerator / denominator` times a power of ten, as a fraction. -/
def scaled (numerator denominator : Nat) (power : Int) : Nat × Nat :=
  match power with
  | .ofNat n => (numerator * tenTo n, denominator)
  | .negSucc n => (numerator, denominator * tenTo (n + 1))

/-- The power of ten that a positive fraction reaches but whose tenfold it does not. -/
def decimalExponent (numerator denominator : Nat) : Int :=
  let length (n : Nat) : Nat := (Nat.toDigits 10 n).length
  let guess : Int := (length numerator : Int) - length denominator
  let (top, bottom) := scaled numerator denominator (-guess)
  if bottom ≤ top then guess else guess - 1

end TimeReports.Number

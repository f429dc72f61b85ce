import TimeReports.Number.Round

set_option autoImplicit false

namespace TimeReports.Number

/-- The number `mantissa × 2 ^ exponent`. -/
structure Binary where
  mantissa : Nat
  exponent : Int
  deriving DecidableEq, Repr

/-- `numerator / denominator` times a power of two, as a fraction. -/
def doubled (numerator denominator : Nat) (power : Int) : Nat × Nat :=
  match power with
  | .ofNat n => (numerator * twoTo n, denominator)
  | .negSucc n => (numerator, denominator * twoTo (n + 1))

/-- The power of two that a positive fraction reaches but whose double it does not. -/
def binaryExponent (numerator denominator : Nat) : Int :=
  let guess : Int := (numerator.log2 : Int) - denominator.log2
  let (top, bottom) := doubled numerator denominator (-guess)
  if bottom ≤ top then guess else guess - 1

namespace Binary

def fraction (x : Binary) : Nat × Nat := doubled x.mantissa 1 x.exponent

/-- The number of `width` binary digits nearest to a fraction; no digit stands below the power
`least`. -/
def nearest (width : Nat) (least : Int) (numerator denominator : Nat) : Binary :=
  if numerator = 0 then ⟨0, least⟩
  else
    let exponent := max least (binaryExponent numerator denominator + 1 - width)
    let (top, bottom) := doubled numerator denominator (-exponent)
    ⟨roundNearest top bottom, exponent⟩

end Binary

end TimeReports.Number

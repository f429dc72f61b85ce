import TimeReports.Number.Double

set_option autoImplicit false

namespace TimeReports.Number

/-- A number with 64 significant binary digits, as a fraction. -/
structure Extended where
  numerator : Nat
  denominator : Nat
  deriving DecidableEq, Repr

namespace Extended

def nearest (numerator denominator : Nat) : Extended :=
  let (top, bottom) := (Binary.nearest 64 (-16445) numerator denominator).fraction
  ⟨top, bottom⟩

/-- The magnitude of a double, which 64 digits always hold. -/
def ofDouble (x : Float) : Extended :=
  match shape x with
  | .finite _ numerator denominator => ⟨numerator, denominator⟩
  | _ => ⟨0, 1⟩

def tenDouble (power : Int) : Extended := ofDouble (ofDecimal 1 power)

/-- The sum of two numbers. -/
def add (x y : Extended) : Extended :=
  nearest (x.numerator * y.denominator + y.numerator * x.denominator)
    (x.denominator * y.denominator)

/-- The product of two numbers. -/
def mul (x y : Extended) : Extended :=
  nearest (x.numerator * y.numerator) (x.denominator * y.denominator)

/-- The quotient of two numbers. -/
def div (x y : Extended) : Extended :=
  nearest (x.numerator * y.denominator) (x.denominator * y.numerator)

/-- Whether a number is not above another. -/
def le (x y : Extended) : Bool := x.numerator * y.denominator ≤ y.numerator * x.denominator

/-- The whole number below a number, and ten times what is above it. -/
def leadingDigit (x : Extended) : Nat × Extended :=
  (x.numerator / x.denominator, nearest (10 * (x.numerator % x.denominator)) x.denominator)

def toDouble (x : Extended) : Float := nearestDouble x.numerator x.denominator

/-- A power of ten below `10 ^ 512`, from the powers whose exponents are the binary digits of the
exponent, the least first. -/
def tenTo (exponent : Nat) : Extended :=
  let start : Extended × Extended := (⟨1, 1⟩, ⟨10, 1⟩)
  ((List.range 9).foldl (fun (product, square) bit =>
    (if exponent.testBit bit then product.mul square else product, square.mul square)) start).1

end Extended

end TimeReports.Number

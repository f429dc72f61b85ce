import TimeReports.Number.Binary

set_option autoImplicit false

namespace TimeReports.Number

inductive Shape where
  | nan
  | infinite (negative : Bool)
  /-- The fraction `numerator / denominator`, under a minus when `negative`. -/
  | finite (negative : Bool) (numerator denominator : Nat)
  deriving DecidableEq, Repr

/-- The shape of a double, from its sign, exponent and fraction bits. -/
def shape (x : Float) : Shape :=
  let bits := x.toBits.toNat
  let negative := bits / twoTo 63 == 1
  let exponent := bits / twoTo 52 % twoTo 11
  let fraction := bits % twoTo 52
  if exponent = 2047 then
    if fraction = 0 then .infinite negative else .nan
  else if exponent = 0 then .finite negative fraction (twoTo 1074)
  else
    let mantissa := twoTo 52 + fraction
    if 1075 ≤ exponent then .finite negative (mantissa * twoTo (exponent - 1075)) 1
    else .finite negative mantissa (twoTo (1075 - exponent))

def isWhole (x : Float) : Bool :=
  match shape x with
  | .finite _ numerator denominator => numerator % denominator == 0
  | _ => false

/-- The whole number that a double is, or the one next to it towards zero. -/
def truncated (x : Float) : Int :=
  match shape x with
  | .finite negative numerator denominator =>
    if negative then -((numerator / denominator : Nat) : Int) else (numerator / denominator : Nat)
  | _ => 0

def infiniteBits : Nat := 2047 * twoTo 52

/-- The double nearest to a fraction, ties to even: infinite from the middle between the greatest
double and the next power of two on. -/
def nearestDouble (numerator denominator : Nat) : Float :=
  let rounded := Binary.nearest 53 (-1074) numerator denominator
  let bits := (rounded.exponent + 1074).toNat * twoTo 52 + rounded.mantissa
  Float.ofBits (UInt64.ofNat (min bits infiniteBits))

/-- A number under a minus, if `negative`. -/
def withSign (negative : Bool) (x : Float) : Float := if negative then -x else x

/-- The double nearest to an integer, if that is finite. -/
def ofInt? (n : Int) : Option Float :=
  let magnitude := nearestDouble n.natAbs 1
  if magnitude == 1 / 0 then none else some (withSign (decide (n < 0)) magnitude)

def ofDecimal (n : Nat) (power : Int) : Float :=
  let size : Int := (Nat.toDigits 10 n).length + power
  if n = 0 ∨ size < -330 then 0
  else if 310 < size then 1 / 0
  else
    let (top, bottom) := scaled n 1 power
    nearestDouble top bottom

end TimeReports.Number

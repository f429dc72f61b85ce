import TimeReports.Number.Extended
import TimeReports.Number.Read

set_option autoImplicit false

namespace TimeReports.RequestLog

open Number

/-- Once a significand is this great, further digits are not taken into it. -/
def significandLimit : Nat := 922337203685477579

/-- A whole number times a power of ten. -/
structure Significand where
  value : Nat
  power : Int
  deriving DecidableEq, Repr

namespace Significand

/-- A digit before the point: it is taken, or stands for a zero. -/
def pushWhole (s : Significand) (digit : CodePoint) : Significand :=
  if significandLimit ≤ s.value then { s with power := s.power + 1 }
  else { s with value := 10 * s.value + (digit.toNat - '0'.toNat) }

/-- A digit behind the point: it is taken, or left out. -/
def pushFraction (s : Significand) (digit : CodePoint) : Significand :=
  if significandLimit ≤ s.value then s
  else ⟨10 * s.value + (digit.toNat - '0'.toNat), s.power - 1⟩

def ofDecimal (number : Decimal) : Significand :=
  let s := number.fraction.foldl pushFraction (number.whole.foldl pushWhole ⟨0, 0⟩)
  { s with power := s.power + number.exponent }

/-- Takes zeros of a positive power of ten into a significand. -/
def absorb : Nat → Nat → Nat × Nat
  | value, 0 => (value, 0)
  | value, zeros + 1 =>
    if significandLimit < value then (value, zeros + 1) else absorb (10 * value) zeros

/-- Takes zeros at the end of a significand away against a division by a power of ten. -/
def release : Nat → Nat → Nat × Nat
  | value, 0 => (value, 0)
  | value, places + 1 =>
    if value % 10 = 0 then release (value / 10) places else (value, places + 1)

/-- A great power of ten that a double holds. -/
def reach : Nat := 308

/-- The double for a significand. Powers of ten that no double holds are applied in two steps. -/
def toDouble (s : Significand) : Float :=
  let value (n : Nat) : Extended := ⟨n, 1⟩
  if s.value = 0 then 0
  else if 0 ≤ s.power then
    let (n, zeros) := absorb s.value s.power.natAbs
    if zeros < reach then ((value n).mul (Extended.tenTo zeros)).toDouble
    else if reach + 34 ≤ zeros then 1 / 0
    else ((value n).mul (Extended.tenTo (zeros - reach))).toDouble * Number.ofDecimal 1 reach
  else
    let (n, places) := release s.value s.power.natAbs
    if places < reach then ((value n).div (Extended.tenTo places)).toDouble
    else if reach + 34 ≤ places then 0
    else ((value n).div (Extended.tenTo (places - reach))).toDouble / Number.ofDecimal 1 reach

end Significand

/-- A number and the power of ten that it is to be multiplied by. -/
structure Scaled where
  number : Extended
  power : Int

namespace Scaled

/-- While a number is at least `10 ^ step` times a scale, the scale is multiplied by that. -/
def climb (number : Extended) (step : Nat) : Nat → Scaled → Scaled
  | 0, scale => scale
  | fuel + 1, scale =>
    let next := (Extended.tenDouble step).mul scale.number
    if next.le number then climb number step fuel ⟨next, scale.power + step⟩ else scale

/-- While a number is below a bound, it is multiplied by `10 ^ step`. -/
def lift (bound : Extended) (step : Nat) : Nat → Scaled → Scaled
  | 0, scaled => scaled
  | fuel + 1, scaled =>
    if bound.le scaled.number then scaled
    else lift bound step fuel
      ⟨scaled.number.mul (Extended.tenDouble step), scaled.power - step⟩

/-- A positive number below ten and not below one, times a power of ten. -/
def normalize (number : Extended) : Scaled :=
  let scale := climb number 1 12 (climb number 10 12 (climb number 100 4 ⟨⟨1, 1⟩, 0⟩))
  let scaled : Scaled := ⟨number.div scale.number, scale.power⟩
  lift ⟨1, 1⟩ 1 12 (lift (Extended.tenDouble (-8)) 8 48 scaled)

/-- Half a unit of the fifteenth digit, as the product of two doubles. -/
def half : Extended := Extended.ofDouble (Number.ofDecimal 5 (-5) * Number.ofDecimal 1 (-10))

/-- Rounds at the fifteenth digit, by what the cut of the digits below it is to leave. -/
def rounded (scaled : Scaled) : Scaled :=
  let number := scaled.number.add half
  if (Extended.mk 10 1).le number then ⟨number.mul (Extended.tenDouble (-1)), scaled.power + 1⟩
  else ⟨number, scaled.power⟩

/-- The first digits of a number below ten. -/
def digits : Nat → Extended → Text
  | 0, _ => []
  | count + 1, number =>
    let (digit, rest) := number.leadingDigit
    Text.digitChar digit :: digits count rest

end Scaled

/-- Numbers in text columns have an exponent below 10⁻⁴ and from 10¹⁵ on. -/
def columnLayout : Layout := ⟨-4, 15, true, true⟩

/-- A double in a text column: fifteen digits, zeros at the end left out. -/
def realText (x : Float) : Text :=
  match shape x with
  | .nan => []
  | .infinite negative => signed negative "Inf".text
  | .finite negative numerator denominator =>
    if numerator = 0 then "0.0".text
    else
      let scaled := (Scaled.normalize ⟨numerator, denominator⟩).rounded
      signed negative (columnLayout.write (Scaled.digits 15 scaled.number) scaled.power)

end TimeReports.RequestLog

import TimeReports.Number.Double
import TimeReports.Number.Round
import TimeReports.Text.Digit

set_option autoImplicit false

namespace TimeReports.Number

/-- Digits with a point before the last `places` of them. -/
def withPoint (places n : Nat) : Text :=
  if places = 0 then Text.natDigits n
  else Text.natDigits (n / tenTo places) ++ .char '.' :: Text.paddedDigits places n

/-- A minus sign in front, when the number has one. -/
def signed (negative : Bool) (text : Text) : Text :=
  if negative then '-' :: text else text

/-- A double with exactly `places` decimal places, ties to even. -/
def fixed (places : Nat) (x : Float) : Text :=
  match shape x with
  | .nan => "nan".text
  | .infinite negative => signed negative "inf".text
  | .finite negative numerator denominator =>
    signed negative (withPoint places (roundNearest (numerator * tenTo places) denominator))

/-- How a decimal number is laid out. -/
structure Layout where
  /-- The least power of ten that is written without an exponent. -/
  leastPower : Int
  /-- The first power of ten that is written with an exponent. -/
  endPower : Int
  /-- Whether a whole number is written with `.0` behind it. -/
  keepsPoint : Bool
  /-- Whether a single digit before an exponent is written with `.0` behind it. -/
  keepsPointInPower : Bool

/-- The digits without the zeros at their end, one digit at least. -/
def withoutZeros (digits : Text) : Text :=
  match (digits.reverse.dropWhile (· = .char '0')).reverse with
  | [] => ['0']
  | kept => kept

/-- The exponent of a number, with a sign and two digits at least. -/
def exponentText (power : Int) : Text :=
  let digits := Text.natDigits power.natAbs
  'e' :: (if power < 0 then '-' else '+') :: (if digits.length < 2 then '0' :: digits else digits)

/-- Lays out the digits `d₀ d₁ d₂ …` of a number `d₀.d₁d₂… × 10 ^ power`. -/
def Layout.write (layout : Layout) (digits : Text) (power : Int) : Text :=
  let kept := withoutZeros digits
  if power < layout.leastPower ∨ layout.endPower ≤ power then
    match kept with
    | [] => []
    | [first] =>
      first :: (if layout.keepsPointInPower then ".0".text else []) ++ exponentText power
    | first :: rest => first :: '.' :: rest ++ exponentText power
  else if power < 0 then
    .char '0' :: .char '.' :: List.replicate (power.natAbs - 1) (.char '0') ++ kept
  else
    let whole := power.toNat + 1
    let padded := kept ++ List.replicate (whole - kept.length) (.char '0')
    if padded.length = whole then padded ++ (if layout.keepsPoint then ".0".text else [])
    else padded.take whole ++ .char '.' :: padded.drop whole

/-- The digits and the power of ten of a positive fraction rounded to `count` digits. -/
def significant (count numerator denominator : Nat) : Text × Int :=
  let power := decimalExponent numerator denominator
  let (top, bottom) := scaled numerator denominator ((count : Int) - 1 - power)
  let n := roundNearest top bottom
  if tenTo count ≤ n then (Text.natDigits (n / 10), power + 1) else (Text.natDigits n, power)

/-- A double rounded to `count` significant digits, zeros at the end left out. -/
def general (layout : Layout) (count : Nat) (x : Float) : Text :=
  match shape x with
  | .nan => "nan".text
  | .infinite negative => signed negative "inf".text
  | .finite negative numerator denominator =>
    signed negative <|
      if numerator = 0 then (if layout.keepsPoint then "0.0".text else ['0'])
      else
        let (digits, power) := significant count numerator denominator
        layout.write digits power

/-- Shares are written with six significant digits, an exponent below 10⁻⁴ and from 10⁶ on. -/
def shareLayout : Layout := ⟨-4, 6, false, false⟩

/-- Plain numbers have an exponent below 10⁻⁴ and from 10¹⁶ on. -/
def plainLayout : Layout := ⟨-4, 16, true, false⟩

/-- Of the two numbers with `count` digits on either side of a positive fraction, the nearer one
that reads back as `x`. -/
def readsBack? (x : Float) (count numerator denominator : Nat) : Option (Text × Int) :=
  let power := decimalExponent numerator denominator
  let step := power - count + 1
  let (top, bottom) := scaled numerator denominator (-step)
  let nearer := roundNearest top bottom
  let farther := if nearer = top / bottom then nearer + 1 else top / bottom
  ([nearer, farther].find? fun n => (ofDecimal n step).toBits = x.toBits).map fun n =>
    if tenTo count ≤ n then (Text.natDigits (n / 10), power + 1) else (Text.natDigits n, power)

/-- A double with the fewest digits that read back as it. -/
def shortest (x : Float) : Text :=
  match shape x with
  | .nan => "nan".text
  | .infinite negative => signed negative "inf".text
  | .finite negative numerator denominator =>
    signed negative <|
      if numerator = 0 then "0.0".text
      else
        match (List.range 17).findSome? fun n => readsBack? x.abs (n + 1) numerator denominator with
        | some (digits, power) => plainLayout.write digits power
        | none =>
          let (digits, power) := significant 17 numerator denominator
          plainLayout.write digits power

end TimeReports.Number

import TimeReports.Text.Basic

set_option autoImplicit false

namespace TimeReports.Text

/-- The zeros of the scripts that have decimal digits, by Unicode 14. -/
def zeros : List Nat := [
  48, 1632, 1776, 1984, 2406, 2534, 2662, 2790, 2918, 3046, 3174, 3302, 3430, 3558, 3664, 3792,
  3872, 4160, 4240, 6112, 6160, 6470, 6608, 6784, 6800, 6992, 7088, 7232, 7248, 42528, 43216, 43264,
  43472, 43504, 43600, 44016, 65296, 66720, 68912, 69734, 69872, 69942, 70096, 70384, 70736, 70864,
  71248, 71360, 71472, 71904, 72016, 72784, 73040, 73120, 92768, 92864, 93008, 120782, 120792,
  120802, 120812, 120822, 123200, 123632, 125264, 130032]

/-- Digits that are signs of their own, such as superscripts and circled digits. -/
def signDigitRanges : List (Nat × Nat) := [
  (178, 179), (185, 185), (4969, 4977), (6618, 6618), (8304, 8304), (8308, 8313), (8320, 8329),
  (9312, 9320), (9332, 9340), (9352, 9360), (9450, 9450), (9461, 9469), (9471, 9471), (10102,
  10110), (10112, 10120), (10122, 10130), (68160, 68163), (69216, 69224), (69714, 69722), (127232,
  127242)]

/-- What a decimal digit of any script is worth. -/
def decimalValue? (c : CodePoint) : Option Nat :=
  if '0' ≤ c ∧ c ≤ '9' then
    some (c.toNat - 48)
  else if c.toNat < 128 then
    none
  else
    (zeros.find? fun base => base ≤ c.toNat ∧ c.toNat < base + 10).map (c.toNat - ·)

def isDecimal (c : CodePoint) : Bool := (decimalValue? c).isSome

/-- Decimal digits of any script and digits that are signs of their own. -/
def isDigit (c : CodePoint) : Bool :=
  isDecimal c || inRanges signDigitRanges c

/-- Texts of one or more decimal digits. -/
def isNumeral (text : Text) : Bool := !text.isEmpty && text.all isDecimal

/-- The number that decimal digits write; other characters count as nothing. -/
def numeralValue (text : Text) : Nat :=
  text.foldl (fun value c => 10 * value + (decimalValue? c).getD 0) 0

/-- The digit character of a number below ten. -/
def digitChar (n : Nat) : CodePoint := CodePoint.ofNat (48 + n % 10)

/-- The last `width` decimal digits of a number, zeros in front. -/
def paddedDigits : Nat → Nat → Text
  | 0, _ => []
  | width + 1, n => paddedDigits width (n / 10) ++ [digitChar n]

def natDigits (n : Nat) : Text := (Nat.toDigits 10 n).map .char

/-- The decimal digits of an integer, after a minus when it is negative. -/
def intDigits : Int → Text
  | .ofNat n => natDigits n
  | .negSucc n => '-' :: natDigits (n + 1)

end TimeReports.Text

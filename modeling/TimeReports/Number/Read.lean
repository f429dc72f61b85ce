import TimeReports.Number.Written
import TimeReports.Text.Blank

set_option autoImplicit false

namespace TimeReports.Number

/-- The digits of the ten at the front of a text, and the rest. -/
def spanDigits (text : Text) : Text × Text := text.span CodePoint.isDigit

def takeSign : Text → Bool × Text
  | .char '-' :: rest => (true, rest)
  | .char '+' :: rest => (false, rest)
  | text => (false, text)

/-- The exponent at the end of a number: nothing, or `e` with an optional sign and digits. -/
def readExponent? : Text → Option Int
  | [] => some 0
  | mark :: rest =>
    if mark = 'e' ∨ mark = 'E' then
      let (negative, digits) := takeSign rest
      if digits.isEmpty || !digits.all CodePoint.isDigit then none
      else some (if negative then -(Text.numeralValue digits : Int) else Text.numeralValue digits)
    else none

/-- The parts of a decimal number without a sign. -/
structure Decimal where
  /-- The digits before the point. -/
  whole : Text
  /-- The digits behind the point. -/
  fraction : Text
  exponent : Int
  deriving DecidableEq, Repr

/-- Reads digits with an optional fraction and exponent; one side of the point may be empty. -/
def Decimal.read? (text : Text) : Option Decimal := do
  let (whole, rest) := spanDigits text
  let (fraction, rest) := match rest with
    | .char '.' :: rest => spanDigits rest
    | _ => ([], rest)
  if whole.isEmpty && fraction.isEmpty then none
  else some ⟨whole, fraction, ← readExponent? rest⟩

def Decimal.toDouble (number : Decimal) : Float :=
  ofDecimal (Text.numeralValue (number.whole ++ number.fraction))
    (number.exponent - number.fraction.length)

/-- Reads a number of the ten digits, or a name of an infinite or undefined value. -/
def readDouble? (text : Text) : Option Float :=
  let (negative, rest) := takeSign text
  let value :=
    let name := rest.map CodePoint.toLower
    if name = "inf".text ∨ name = "infinity".text then some (1 / 0)
    else if name = "nan".text then some (0 / 0)
    else (Decimal.read? rest).map Decimal.toDouble
  value.map (withSign negative)

/-- Whether every underscore stands between two digits. -/
def marksBetweenDigits : Option CodePoint → Text → Bool
  | _, [] => true
  | before, .char '_' :: rest =>
    (match before, rest with
      | some a, b :: _ => a.isDigit && b.isDigit
      | _, _ => false) && marksBetweenDigits (some '_') rest
  | _, c :: rest => marksBetweenDigits (some c) rest

/-- A text with the decimal digits of all scripts written as the ten, without underscores, when
those stand between digits. -/
def plainDigits? (text : Text) : Option Text :=
  let digits := text.map fun c => (Text.decimalValue? c).elim c Text.digitChar
  if marksBetweenDigits none digits then some (digits.filter (· ≠ '_')) else none

/-- Reads a double between white space, in digits of any script, with underscores between digits. -/
def readSetting? (text : Text) : Option Float :=
  plainDigits? (Text.trimBy Text.isSpace text) >>= readDouble?

/-- Why a whole number is not read. -/
inductive NumeralFault where
  | malformed
  /-- More digits than the 4300 that are read. -/
  | tooLong (digits : Nat)
  deriving DecidableEq, Repr

/-- The most digits that a whole number is read from. -/
def digitLimit : Nat := 4300

/-- What is said of a number with too many digits. -/
def tooLongMessage (digits : Nat) : Text :=
  "Exceeds the limit (4300 digits) for integer string conversion: value has ".text
    ++ Text.natDigits digits
    ++ " digits; use sys.set_int_max_str_digits() to increase the limit".text

/-- What is said of a number that has too many digits to be written. -/
def unwrittenMessage : Text :=
  ("Exceeds the limit (4300 digits) for integer string conversion; "
    ++ "use sys.set_int_max_str_digits() to increase the limit").text

/-- The value of digits, unless there are too many. -/
def readNumeral (digits : Text) : Except NumeralFault Nat :=
  if digitLimit < digits.length then .error (.tooLong digits.length)
  else .ok (Text.numeralValue digits)

/-- Whether a character is an underscore or a decimal digit of some script. -/
def isMarkOrDigit (c : CodePoint) : Bool := c == '_' || (Text.decimalValue? c).isSome

/-- Reads a whole number between white space, in digits of any script, with an optional sign and
with underscores between digits. Of a text that starts with digits, their number is looked at before
what follows them. -/
def readWhole (text : Text) : Except NumeralFault Int :=
  let (negative, unsigned) := takeSign (text.dropWhile Text.isSpace)
  let (marked, rest) := unsigned.span isMarkOrDigit
  match plainDigits? marked with
  | none => .error .malformed
  | some digits => do
    let n ← readNumeral digits
    if digits.isEmpty || !rest.all Text.isSpace then .error .malformed
    else .ok (if negative then -(n : Int) else n)

end TimeReports.Number

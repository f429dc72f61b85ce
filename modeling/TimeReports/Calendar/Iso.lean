import TimeReports.Calendar.Date
import TimeReports.Text.Digit
import TimeReports.Text.Quoted

set_option autoImplicit false

namespace TimeReports

/-- A date as `YYYY-MM-DD`. -/
def Date.iso (date : Date) : Text :=
  Text.paddedDigits 4 date.year ++ .char '-' :: Text.paddedDigits 2 date.month
    ++ .char '-' :: Text.paddedDigits 2 date.day

namespace Calendar

/-- Why a text is not read as a date. -/
inductive DateFault where
  | shape (text : Text)
  | rest (text : Text)
  | yearZero
  | noSuchDay
  deriving DecidableEq, Repr

def DateFault.message : DateFault → Text
  | .shape text => "time data ".text ++ Text.quoted text
      ++ " does not match format '%Y-%m-%d'".text
  | .rest text => "unconverted data remains: ".text ++ text
  | .yearZero => "year 0 is out of range".text
  | .noSuchDay => "day is out of range for month".text

/-- A month of one or two digits before a hyphen, and what stands behind the hyphen. -/
def takeMonth? : Text → Option (Nat × Text)
  | .char '1' :: a :: .char '-' :: rest =>
    if '0' ≤ a ∧ a ≤ '2' then some (10 + (a.toNat - 48), rest) else none
  | .char '0' :: a :: .char '-' :: rest =>
    if '1' ≤ a ∧ a ≤ '9' then some (a.toNat - 48, rest) else none
  | a :: .char '-' :: rest =>
    if '1' ≤ a ∧ a ≤ '9' then some (a.toNat - 48, rest) else none
  | _ => none

def takeShortDay? : Text → Option (Nat × Text)
  | a :: rest => if '1' ≤ a ∧ a ≤ '9' then some (a.toNat - 48, rest) else none
  | [] => none

/-- A day of two digits, or else of one, and what stands behind it. -/
def takeDay? : Text → Option (Nat × Text)
  | .char '3' :: a :: rest =>
    if a = '0' ∨ a = '1' then some (30 + (a.toNat - 48), rest) else some (3, a :: rest)
  | .char '0' :: rest => takeShortDay? rest
  | .char ' ' :: rest => takeShortDay? rest
  | c :: a :: rest =>
    if c = '1' ∨ c = '2' then
      match Text.decimalValue? a with
      | some units => some (10 * (c.toNat - 48) + units, rest)
      | none => some (c.toNat - 48, a :: rest)
    else takeShortDay? (c :: a :: rest)
  | text => takeShortDay? text

/-- The year, month and day at the front of a text, and the rest. -/
def takeFields? : Text → Option (Nat × Nat × Nat × Text)
  | a :: b :: c :: d :: .char '-' :: rest =>
    if [a, b, c, d].all Text.isDecimal then do
      let (month, rest) ← takeMonth? rest
      let (day, rest) ← takeDay? rest
      some (Text.numeralValue [a, b, c, d], month, day, rest)
    else none
  | _ => none

def readDate (text : Text) : Except DateFault Date :=
  match takeFields? text with
  | none => .error (.shape text)
  | some (year, month, day, rest) =>
    if !rest.isEmpty then .error (.rest rest)
    else if year = 0 then .error .yearZero
    else
      match Date.of? year month day with
      | some date => .ok date
      | none => .error .noSuchDay

/-- Whether a text has the shape of a date literal: four, two and two digits with hyphens. -/
def hasLiteralShape : Text → Bool
  | [a, b, c, d, x, e, f, y, g, h] =>
    x == '-' && y == '-' && [a, b, c, d, e, f, g, h].all Text.isDecimal
  | _ => false

def ofLiteral? (text : Text) : Option Date :=
  if hasLiteralShape text then (readDate text).toOption else none

end Calendar
end TimeReports

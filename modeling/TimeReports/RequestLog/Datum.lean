import TimeReports.Json.Shown
import TimeReports.RequestLog.Column
import TimeReports.Text.Unencodable

set_option autoImplicit false

namespace TimeReports.RequestLog

inductive Datum where
  | null
  | int (value : Int)
  | real (value : Float)
  | text (value : Text)

/-- The type that a column prefers. -/
inductive Affinity where
  | text
  | int
  | real
  deriving DecidableEq, Repr

/-- The word that declares a column of a type. -/
def Affinity.declared : Affinity → Text
  | .text => "TEXT".text
  | .int => "INTEGER".text
  | .real => "REAL".text

def Datum.isNull : Datum → Bool
  | .null => true
  | _ => false

def Datum.text? : Datum → Option Text
  | .text value => some value
  | _ => none

/-- The least and the greatest whole number that a column holds. -/
def wordRange : Int × Int := (-(Number.twoTo 63 : Int), (Number.twoTo 63 : Int) - 1)

/-- Whether a whole number fits in a column. -/
def fitsWord (n : Int) : Bool := wordRange.1 ≤ n && n ≤ wordRange.2

/-- Why a value cannot be handed over to the tables. -/
inductive BindFault where
  | tooLarge
  | unsupported (kind : Text)
  /-- A text holds surrogates. -/
  | unencodable (found : Text.Unencodable)
  deriving DecidableEq, Repr

/-- The value that is handed over to the tables. -/
def Datum.ofJson : Json → Except BindFault Datum
  | .null => .ok .null
  | .bool value => .ok (.int (if value then 1 else 0))
  | .int n => if fitsWord n then .ok (.int n) else .error .tooLarge
  | .float x => .ok (if x != x then .null else .real x)
  | .string value =>
    match Text.Unencodable.inUtf8? value with
    | some found => .error (.unencodable found)
    | none => .ok (.text value)
  | .array _ => .error (.unsupported "list".text)
  | .object _ => .error (.unsupported "dict".text)

/-- White space around numbers in text. -/
def isTableSpace (c : CodePoint) : Bool := c == ' ' || (9 ≤ c.toNat && c.toNat ≤ 13)

/-- A double in a column of whole numbers. -/
def wholeOrReal (x : Float) : Datum :=
  let n := Number.truncated x
  if Number.isWhole x && wordRange.1 < n && n < wordRange.2 then .int n else .real x

def columnDouble (negative : Bool) (number : Number.Decimal) : Float :=
  Number.withSign negative (Significand.ofDecimal number).toDouble

def numberOrText (value : Text) : Datum :=
  let trimmed := Text.trimBy isTableSpace value
  let (negative, digits) := Number.takeSign trimmed
  if !digits.isEmpty && digits.all CodePoint.isDigit then
    let n : Int := if negative then -(Text.numeralValue digits : Int) else Text.numeralValue digits
    if fitsWord n then .int n else .real (columnDouble negative ⟨digits, [], 0⟩)
  else
    match Number.Decimal.read? digits with
    | some number => wholeOrReal (columnDouble negative number)
    | none => .text value

def asReal : Datum → Datum
  | .int n => .real ((Number.ofInt? n).getD 0)
  | .real x => .real (if x == 0 then 0 else x)
  | datum => datum

def Affinity.store : Affinity → Datum → Datum
  | .text, .int n => .text (Text.intDigits n)
  | .text, .real x => .text (realText x)
  | .int, .real x => wholeOrReal x
  | .int, .text value => numberOrText value
  | .real, .text value => asReal (numberOrText value)
  | .real, datum => asReal datum
  | _, datum => datum

end TimeReports.RequestLog

import TimeReports.Number.Read
import TimeReports.Record.Fault
import TimeReports.Text.Encoding

set_option autoImplicit false

namespace TimeReports.Record

def text : Reader Text
  | .string value => .ok value
  | _ => .fail .notText

/-- A text without underscores, when they stand one at a time and not at its ends. -/
def withoutMarks? (text : Text) : Option Text :=
  if text.head? = some '_' ∨ text.getLast? = some '_' ∨ Text.occurs "__".text text then none
  else some (text.filter (· ≠ '_'))

/-- The digits before a point behind which zeros and nothing else stand, or all of the text. -/
def beforeZeros (text : Text) : Text :=
  match Text.cutAt? '.' text with
  | some (whole, fraction) =>
    if !fraction.isEmpty && fraction.all (· = '0') then whole else text
  | none => text

/-- A number behind zeros and underscores, given the last of them: it starts with a digit or a
minus, or with that last character when a point or nothing follows. -/
def behindZeros? : CodePoint → Text → Option Text
  | last, [] => some [last]
  | last, c :: rest =>
    if c = '0' ∨ c = '_' then behindZeros? c rest
    else if c.isDigit ∨ c = '-' then some (c :: rest)
    else if c = '.' then some (last :: c :: rest)
    else none

def withoutZeros? : Text → Option Text
  | [] => none
  | c :: rest =>
    if c = '0' then behindZeros? c rest
    else if c.isDigit ∨ c = '-' then some (c :: rest)
    else none

def takeMinus : Text → Text × Text
  | .char '-' :: rest => ([.char '-'], rest)
  | text => ([], text)

/-- The sign in front of a number and what stands behind it. A plus is dropped; no minus may follow
it. -/
def takeSign? : Text → Option (Text × Text)
  | .char '+' :: .char '-' :: _ => none
  | .char '+' :: rest => some ([], rest)
  | text => some (takeMinus text)

/-- A whole number without what may stand around its digits: blanks, a plus, zeros in front, zeros
behind a point, and underscores. -/
def bareNumeral? (text : Text) : Option Text := do
  let (sign, unsigned) ← takeSign? (Text.trimBy Text.isSpace text)
  let digits := beforeZeros (← withoutZeros? unsigned)
  some (sign ++ (withoutMarks? digits).getD digits)

/-- Reads a whole number in its bare form: a minus or nothing, and then a zero alone or digits
without a zero in front, no more of them than the limit. -/
def bareInt? (text : Text) : Option Int :=
  let (sign, digits) := takeMinus text
  if digits.isEmpty || !digits.all CodePoint.isDigit || Number.digitLimit < digits.length then none
  else if digits.head? = some '0' ∧ digits.length ≠ 1 then none
  else
    let n : Int := Text.numeralValue digits
    some (if sign.isEmpty then n else -n)

/-- Whether a text starts like a whole number in its bare form, with more digits than the limit. -/
def startsTooLong (text : Text) : Bool :=
  let digits := (takeMinus text).2.takeWhile CodePoint.isDigit
  digits.head? != some '0' && Number.digitLimit < digits.length

def readInt (text : Text) : Checked Int :=
  if startsTooLong text then .fail .intSize
  else
    match (bareInt? text).or ((bareNumeral? text).bind bareInt?) with
    | some n => .ok n
    | none => .fail .intForm

def int : Reader Int
  | .int n => .ok n
  | .bool value => .ok (if value then 1 else 0)
  | .float x =>
    match Number.shape x with
    | .nan => .fail .notFinite
    | .infinite _ => .fail .notFinite
    | .finite _ numerator denominator =>
      if numerator % denominator ≠ 0 then .fail .intFraction
      else if Number.twoTo 63 ≤ numerator / denominator then .fail .intSize
      else .ok (Number.truncated x)
  | .string text => readInt text
  | _ => .fail .notInt

/-- Narrows to a whole number that is not negative. -/
def natural : Reader Nat := fun value => do
  let n ← int value
  if n < 0 then .fail .tooSmall else .ok n.toNat

def readFloat (text : Text) : Checked Float :=
  match Number.readDouble? (Text.trimBy Text.isSpace text) with
  | some x => .ok x
  | none =>
    match withoutMarks? text >>= Number.readDouble? with
    | some x => .ok x
    | none => .fail .floatForm

def float : Reader Float
  | .float x => .ok x
  | .bool value => .ok (if value then 1 else 0)
  | .int n =>
    match Number.ofInt? n with
    | some x => .ok x
    | none => .fail .notFloat
  | .string text => readFloat text
  | _ => .fail .notFloat

def truthWords : List (Text × Bool) :=
  [("0".text, false), ("off".text, false), ("f".text, false), ("false".text, false),
    ("n".text, false), ("no".text, false), ("1".text, true), ("on".text, true),
    ("t".text, true), ("true".text, true), ("y".text, true), ("yes".text, true)]

/-- The truth value of a number of 64 bits, if it is zero or one. Greater numbers are no truth
values at all. -/
def ofWord (n : Int) : Checked Bool :=
  if n = 0 then .ok false
  else if n = 1 then .ok true
  else if -(Number.twoTo 63 : Int) ≤ n ∧ n < Number.twoTo 63 then .fail .boolForm
  else .fail .notBool

def readBool (text : Text) : Checked Bool :=
  match truthWords.lookup (text.map CodePoint.toLower) with
  | some value => .ok value
  | none => .fail .boolForm

def bool : Reader Bool
  | .bool value => .ok value
  | .string text => readBool text
  | .int n => ofWord n
  | .float x =>
    if Number.isWhole x && (Number.truncated x).natAbs < Number.twoTo 63 then
      ofWord (Number.truncated x)
    else .fail .notBool
  | _ => .fail .notBool

end TimeReports.Record

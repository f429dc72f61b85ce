import TimeReports.Calendar.Iso
import TimeReports.Record.Scalar

set_option autoImplicit false

namespace TimeReports.Record

/-- The number that a run of the ten digits writes. -/
def digits? (text : Text) : Option Nat :=
  if text.all CodePoint.isDigit then some (Text.numeralValue text) else none

/-- The year, month and day in front of a text. The year may be zero. -/
def takeDay? : Text → Option ((Nat × Nat × Nat) × Text)
  | a :: b :: c :: d :: .char '-' :: e :: f :: .char '-' :: g :: h :: rest => do
    let year ← digits? [a, b, c, d]
    let month ← digits? [e, f]
    let day ← digits? [g, h]
    if 1 ≤ month ∧ month ≤ 12 ∧ 1 ≤ day
        ∧ day ≤ Calendar.monthLength (Calendar.isLeap year) month then
      some ((year, month, day), rest)
    else none
  | _ => none

def isOffset : Text → Bool
  | [.char 'Z'] => true
  | [.char 'z'] => true
  | sign :: a :: b :: rest =>
    (sign == '+' || sign == '-' || sign == '−') &&
      (match rest with
        | [.char ':', c, d] => below 24 a b && below 60 c d
        | [c, d] => below 24 a b && below 60 c d
        | _ => false)
  | _ => false
where
  below (bound : Nat) (a b : CodePoint) : Bool :=
    match digits? [a, b] with
    | some n => n < bound
    | none => false

/-- Whether a time of day is midnight to the microsecond, if the text is a time with an optional
offset behind it. -/
def isMidnight? : Text → Option Bool
  | a :: b :: .char ':' :: c :: d :: rest => do
    let hour ← digits? [a, b]
    let minute ← digits? [c, d]
    if 23 < hour ∨ 59 < minute then none
    else
      let (zero, rest) ← match rest with
        | .char ':' :: e :: f :: rest => do
          let second ← digits? [e, f]
          if 59 < second then none
          else
            match rest with
            | mark :: rest' =>
              if mark = '.' ∨ mark = ',' then
                let (fraction, behind) := rest'.span CodePoint.isDigit
                if fraction.isEmpty then none
                else some (second == 0 && (fraction.take 6).all (· = '0'), behind)
              else some (second == 0, rest)
            | [] => some (second == 0, rest)
        | rest => some (true, rest)
      if rest.isEmpty || isOffset rest then some (zero && hour == 0 && minute == 0) else none
  | _ => none

/-- The ordinal of the first day of 1970. -/
def epoch : Int := 719163

/-- The day that starts a number of seconds after 1970 does, if one does. Days of year 0 are no days
of the calendar. -/
def ofSeconds (seconds : Int) (exact : Bool) : Checked Date :=
  if seconds < -62167219200 ∨ 253402300799 < seconds then .fail .dateForm
  else if !exact || seconds % 86400 ≠ 0 then .fail .dateTime
  else
    match Date.ofOrdinal? (seconds / 86400 + epoch).toNat with
    | some date => .ok date
    | none => .fail .dateYear

/-- Whether a whole number is small enough to count seconds. A greater one counts milliseconds. -/
def countsSeconds (n : Int) : Bool := n.natAbs ≤ 20000000000

/-- A day given by a whole number of seconds or milliseconds. -/
def ofTimestamp (n : Int) : Checked Date :=
  if countsSeconds n then ofSeconds n true else ofSeconds (n / 1000) (n % 1000 = 0)

/-- What a positive fraction exceeds its whole part by, counted in parts of which `count` make one,
to the nearest part and a half counted up. The excess and its product with `count` are doubles. -/
def excessParts (count numerator denominator : Nat) : Nat :=
  let excess := Number.nearestDouble (numerator % denominator) denominator
  match Number.shape (excess * Float.ofNat count) with
  | .finite _ top bottom => (2 * top + bottom) / (2 * bottom)
  | _ => 0

/-- A day given by a double that counts seconds or milliseconds, to the nearest microsecond. -/
def ofFloat (x : Float) : Checked Date :=
  match Number.shape x with
  | .nan => .fail .dateForm
  | .infinite _ => .fail .dateForm
  | .finite negative numerator denominator =>
    let n : Int := if negative then -(numerator : Int) else numerator
    let below := n / denominator
    let excess := (n % denominator).toNat
    let (seconds, micros) : Int × Nat :=
      if countsSeconds below then (below, excessParts 1000000 excess denominator)
      else
        (below / 1000, (below % 1000).toNat * 1000 + excessParts 1000 excess denominator)
    if micros < 1000000 then ofSeconds seconds (micros = 0)
    else ofSeconds (seconds + 1) (micros = 1000000)

/-- Reads a number that counts seconds or milliseconds: digits, or with a point behind them a
double. -/
def readTimestamp (text : Text) : Checked Date :=
  let (negative, unsigned) := Number.takeSign text
  let (whole, rest) := unsigned.span CodePoint.isDigit
  match rest with
  | [] =>
    let n : Int := Text.numeralValue whole
    if whole.isEmpty then .fail .dateForm else ofTimestamp (if negative then -n else n)
  | .char '.' :: _ =>
    match Number.Decimal.read? unsigned with
    | some number => ofFloat (Number.withSign negative number.toDouble)
    | none => .fail .dateForm
  | _ => .fail .dateForm

def readDay (text : Text) : Checked Date :=
  match takeDay? text with
  | some ((year, month, day), rest) =>
    let date : Checked Date := match Date.of? year month day with
      | some date => .ok date
      | none => .fail .dateYear
    match rest with
    | [] => date
    | mark :: time =>
      if mark = 'T' ∨ mark = 't' ∨ mark = ' ' ∨ mark = '_' then
        match isMidnight? time with
        | some true => date
        | some false => .fail .dateTime
        | none => .fail .dateForm
      else .fail .dateForm
  | none => readTimestamp text

def date : Reader Date
  | .string text => readDay text
  | .int n =>
    match Number.ofInt? n with
    | some _ => ofTimestamp n
    | none => .fail .notDate
  | .float x => ofFloat x
  | _ => .fail .notDate

end TimeReports.Record

import TimeReports.Json.Value
import TimeReports.Number.Read
import TimeReports.Text.Encoding

set_option autoImplicit false

namespace TimeReports.Json

/-- A kind of value that holds others. -/
inductive Container where
  | array
  | object
  deriving DecidableEq, Repr

inductive ReadFault where
  /-- The text is malformed at an offset. -/
  | malformed (offset : Nat)
  /-- A whole number has too many digits. -/
  | tooManyDigits (digits : Nat)
  /-- A container stands within too many others. -/
  | tooDeep (container : Container)
  /-- The bytes are no text. -/
  | undecodable
  deriving DecidableEq, Repr

/-- A fault while reading: where it is, as the number of characters from there to the end. -/
inductive Stop where
  | malformed (left : Nat)
  | tooManyDigits (digits : Nat)
  | tooDeep (container : Container)
  deriving DecidableEq, Repr

/-- What reading gives: mostly a value and the text behind it. -/
abbrev Reading := Except Stop

/-- White space between the parts of a JSON text. -/
def isGap (c : CodePoint) : Bool := c == ' ' || c == '\t' || c == '\n' || c == '\r'

/-- A text without the white space in front. -/
def skipGap (text : Text) : Text := text.dropWhile isGap

/-- The character that a letter behind a backslash stands for. -/
def escaped? : CodePoint → Option CodePoint
  | .char '"' => some '"'
  | .char '\\' => some '\\'
  | .char '/' => some '/'
  | .char 'b' => some '\x08'
  | .char 'f' => some '\x0c'
  | .char 'n' => some '\n'
  | .char 'r' => some '\r'
  | .char 't' => some '\t'
  | _ => none

/-- The number that four hexadecimal digits write. -/
def hexQuad? (a b c d : CodePoint) : Option Nat := do
  let a ← Text.hexValue? a
  let b ← Text.hexValue? b
  let c ← Text.hexValue? c
  let d ← Text.hexValue? d
  some (4096 * a + 256 * b + 16 * c + d)

/-- What reading of a string gives. Its fault is the number of characters left where it is
malformed, or nothing when the string does not end. -/
abbrev TextReading := Except (Option Nat)

/-- The low surrogate that stands in front of a text, written behind a backslash and `u`. A digit
must follow its four digits or the string end there. -/
def lowSurrogate? : Text → TextReading (Option (Nat × Text))
  | .char '\\' :: .char 'u' :: a :: b :: c :: d :: next :: rest =>
    match hexQuad? a b c d with
    | none => .error (some (rest.length + 6))
    | some unit =>
      .ok (if 0xDC00 ≤ unit ∧ unit < 0xE000 then some (unit, next :: rest) else none)
  | _ => .ok none

/-- Reads a string behind its opening quote. -/
def readText : Nat → Text → TextReading (Text × Text)
  | 0, _ => .error none
  | _ + 1, [] => .error none
  | _ + 1, .char '"' :: rest => .ok ([], rest)
  | fuel + 1, .char '\\' :: rest =>
    match rest with
    | [] => .error none
    | .char 'u' :: a :: b :: c :: d :: next :: behind =>
      match hexQuad? a b c d with
      | none => .error (some rest.length)
      | some unit =>
        if 0xD800 ≤ unit ∧ unit < 0xDC00 then do
          match ← lowSurrogate? (next :: behind) with
          | some (low, behind) =>
            let c := CodePoint.ofNat (0x10000 + (unit - 0xD800) * 1024 + (low - 0xDC00))
            let (text, behind) ← readText fuel behind
            .ok (c :: text, behind)
          | none =>
            let (text, behind) ← readText fuel (next :: behind)
            .ok (CodePoint.ofNat unit :: text, behind)
        else do
          let (text, behind) ← readText fuel (next :: behind)
          .ok (CodePoint.ofNat unit :: text, behind)
    | .char 'u' :: _ => .error (some rest.length)
    | letter :: behind =>
      match escaped? letter with
      | none => .error (some (behind.length + 2))
      | some c => do
        let (text, behind) ← readText fuel behind
        .ok (c :: text, behind)
  | fuel + 1, c :: rest =>
    if c.toNat < 32 then .error (some (rest.length + 1))
    else do
      let (text, behind) ← readText fuel rest
      .ok (c :: text, behind)

/-- Reads a string behind its opening quote. One that does not end is malformed at that quote. -/
def readQuoted (fuel : Nat) (text : Text) : Reading (Text × Text) :=
  match readText fuel text with
  | .ok found => .ok found
  | .error (some left) => .error (.malformed left)
  | .error none => .error (.malformed (text.length + 1))

/-- The digits of the whole part of a number: a zero, or digits without a zero in front. -/
def spanWhole : Text → Text × Text
  | .char '0' :: rest => (['0'], rest)
  | text => text.span CodePoint.isDigit

/-- The point and digits of a fraction, if they stand in front. -/
def spanFraction : Text → Text × Text
  | .char '.' :: rest =>
    let (digits, behind) := rest.span CodePoint.isDigit
    if digits.isEmpty then ([], '.' :: rest) else ('.' :: digits, behind)
  | text => ([], text)

/-- The exponent of a number, if one stands in front. -/
def spanExponent (text : Text) : Text × Text :=
  match text with
  | mark :: rest =>
    if mark = 'e' ∨ mark = 'E' then
      let (sign, rest) : Text × Text := match rest with
        | .char '+' :: rest => (['+'], rest)
        | .char '-' :: rest => (['-'], rest)
        | rest => ([], rest)
      let (digits, behind) := rest.span CodePoint.isDigit
      if digits.isEmpty then ([], text) else (mark :: sign ++ digits, behind)
    else ([], text)
  | [] => ([], text)

def readNumber (text : Text) : Reading (Json × Text) :=
  let (negative, unsigned) : Bool × Text := match text with
    | .char '-' :: rest => (true, rest)
    | rest => (false, rest)
  let (whole, rest) := spanWhole unsigned
  if whole.isEmpty then .error (.malformed text.length)
  else
    let (fraction, rest) := spanFraction rest
    let (exponent, rest) := spanExponent rest
    if fraction.isEmpty && exponent.isEmpty then
      match Number.readNumeral whole with
      | .ok n => .ok (.int (if negative then -(n : Int) else n), rest)
      | .error _ => .error (.tooManyDigits whole.length)
    else
      let x := (Number.Decimal.read? (whole ++ fraction ++ exponent)).elim 0 Number.Decimal.toDouble
      .ok (.float (Number.withSign negative x), rest)

def wordValues : List (Text × Json) :=
  [("null".text, .null), ("true".text, .bool true), ("false".text, .bool false),
    ("NaN".text, .float (0 / 0)), ("Infinity".text, .float (1 / 0)),
    ("-Infinity".text, .float (-1 / 0))]

def readScalar (text : Text) : Reading (Json × Text) :=
  match wordValues.find? fun (word, _) => word.isPrefixOf text with
  | some (word, value) => .ok (value, text.drop word.length)
  | none => readNumber text

/-- What is said of a container within too many others. -/
def depthMessage (container : Container) : Text :=
  "maximum recursion depth exceeded while decoding a JSON ".text
    ++ (match container with
      | .array => "array"
      | .object => "object").text
    ++ " from a unicode string".text

mutual

/-- Reads a value within which `depth` containers may stand within each other. -/
def readValue : Nat → Nat → Text → Reading (Json × Text)
  | 0, _, text => .error (.malformed text.length)
  | fuel + 1, depth, text =>
    match text with
    | .char '"' :: rest => do
      let (value, behind) ← readQuoted fuel rest
      .ok (.string value, behind)
    | .char '{' :: rest =>
      if depth = 0 then .error (.tooDeep .object)
      else
        match skipGap rest with
        | .char '}' :: behind => .ok (.object [], behind)
        | rest => do
          let (members, behind) ← readMembers fuel (depth - 1) [] rest
          .ok (.object members, behind)
    | .char '[' :: rest =>
      if depth = 0 then .error (.tooDeep .array)
      else
        match skipGap rest with
        | .char ']' :: behind => .ok (.array [], behind)
        | rest => do
          let (items, behind) ← readItems fuel (depth - 1) rest
          .ok (.array items, behind)
    | _ => readScalar text

/-- Reads members up to the closing brace, after those that are read already. -/
def readMembers : Nat → Nat → List (Text × Json) → Text → Reading (List (Text × Json) × Text)
  | 0, _, _, text => .error (.malformed text.length)
  | fuel + 1, depth, members, text =>
    match text with
    | .char '"' :: rest => do
      let (name, behind) ← readQuoted fuel rest
      match skipGap behind with
      | .char ':' :: behind => do
        let (value, behind) ← readValue fuel depth (skipGap behind)
        let members := setMember name value members
        match skipGap behind with
        | .char '}' :: behind => .ok (members, behind)
        | .char ',' :: behind => readMembers fuel depth members (skipGap behind)
        | behind => .error (.malformed behind.length)
      | behind => .error (.malformed behind.length)
    | _ => .error (.malformed text.length)

/-- Reads items up to the closing bracket. -/
def readItems : Nat → Nat → Text → Reading (List Json × Text)
  | 0, _, text => .error (.malformed text.length)
  | fuel + 1, depth, text => do
    let (item, behind) ← readValue fuel depth text
    match skipGap behind with
    | .char ']' :: behind => .ok ([item], behind)
    | .char ',' :: behind => do
      let (items, behind) ← readItems fuel depth (skipGap behind)
      .ok (item :: items, behind)
    | behind => .error (.malformed behind.length)

end

/-- Reads a text that is one JSON value. Each character starts at most two steps of reading. -/
def ofText (text : Text) : Except ReadFault Json :=
  let result : Reading (Json × Text) := do
    let (value, behind) ← readValue (2 * text.length + 2) depthLimit (skipGap text)
    match skipGap behind with
    | [] => .ok (value, [])
    | behind => .error (.malformed behind.length)
  match result with
  | .ok (value, _) => .ok value
  | .error (.malformed left) => .error (.malformed (text.length - left))
  | .error (.tooManyDigits digits) => .error (.tooManyDigits digits)
  | .error (.tooDeep container) => .error (.tooDeep container)

end TimeReports.Json

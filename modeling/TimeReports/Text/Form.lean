import TimeReports.Text.Encoding

set_option autoImplicit false

namespace TimeReports.Text

def isPlainInForm (c : CodePoint) : Bool :=
  ('a' ≤ c && c ≤ 'z') || ('A' ≤ c && c ≤ 'Z') || ('0' ≤ c && c ≤ '9') ||
    c == '_' || c == '.' || c == '-' || c == '~'

/-- A byte as a percent sign and two hexadecimal digits. -/
def percentByte (b : UInt8) : Text :=
  let digit (n : Nat) : CodePoint := "0123456789ABCDEF".text.getD (n % 16) '0'
  ['%', digit (b.toNat / 16), digit b.toNat]

def formChar (c : CodePoint) : Text :=
  if isPlainInForm c then [c]
  else if c = ' ' then ['+']
  else (utf8Char c).flatMap percentByte

def formEncode (text : Text) : Text := text.flatMap formChar

/-- The query string of fields with their values, in order. -/
def formQuery (fields : List (Text × Text)) : Text :=
  join [.char '&'] (fields.map fun (name, value) =>
    formEncode name ++ .char '=' :: formEncode value)

/-- The bytes of a text in which bytes may be written in hexadecimal. -/
def percentBytes : Text → Bytes
  | .char '%' :: a :: b :: rest =>
    match hexValue? a, hexValue? b with
    | some high, some low => UInt8.ofNat (16 * high + low) :: percentBytes rest
    | _, _ => utf8Char '%' ++ percentBytes (a :: b :: rest)
  | c :: rest => utf8Char c ++ percentBytes rest
  | [] => []

/-- A text in which bytes may be written in hexadecimal, read as UTF-8. -/
def percentDecode (text : Text) : Text := ofPatchedUtf8 (percentBytes text)

def formFields (query : Text) : List (Text × Text) :=
  (pieces '&' query).filterMap fun field =>
    if field.isEmpty then none
    else
      let plain (t : Text) := percentDecode (t.map fun c : CodePoint => if c = '+' then ' ' else c)
      match cutAt? '=' field with
      | some (name, value) => some (plain name, plain value)
      | none => some (plain field, [])

end TimeReports.Text

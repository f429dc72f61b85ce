import TimeReports.Text.Digit
import TimeReports.Text.Encoding
import TimeReports.Text.Unprintable

set_option autoImplicit false

namespace TimeReports.Text

/-- Hexadecimal digit of a number below sixteen. -/
def hexDigit (n : Nat) : CodePoint := "0123456789abcdef".text.getD (n % 16) '0'

/-- The last `width` hexadecimal digits of a number, zeros in front. -/
def paddedHex : Nat → Nat → Text
  | 0, _ => []
  | width + 1, n => paddedHex width (n / 16) ++ [hexDigit n]

def codeChar (c : CodePoint) : Text :=
  if c.toNat < 0x100 then '\\' :: 'x' :: paddedHex 2 c.toNat
  else if c.toNat < 0x10000 then '\\' :: 'u' :: paddedHex 4 c.toNat
  else '\\' :: 'U' :: paddedHex 8 c.toNat

/-- How a character is shown between quotes of the given kind. -/
def quotedChar (quote c : CodePoint) : Text :=
  if c = quote ∨ c = '\\' then ['\\', c]
  else if c = '\t' then "\\t".text
  else if c = '\n' then "\\n".text
  else if c = '\r' then "\\r".text
  else if inRanges unprintableRanges c then codeChar c
  else [c]

def quoted (text : Text) : Text :=
  let quote : CodePoint := if text.contains '\'' && !text.contains '"' then '"' else '\''
  quote :: text.flatMap (quotedChar quote) ++ [quote]

end TimeReports.Text

import TimeReports.Json.Reader

set_option autoImplicit false

namespace TimeReports.Json

def textOfBytes? (bytes : Text.Bytes) : Option Text :=
  match bytes with
  | 0x00 :: 0x00 :: 0xFE :: 0xFF :: rest => Text.ofLooseUtf32? .bigEnd rest
  | 0xFF :: 0xFE :: 0x00 :: 0x00 :: rest => Text.ofLooseUtf32? .smallEnd rest
  | 0xFE :: 0xFF :: rest => Text.ofLooseUtf16? .bigEnd rest
  | 0xFF :: 0xFE :: rest => Text.ofLooseUtf16? .smallEnd rest
  | 0xEF :: 0xBB :: 0xBF :: rest => Text.ofLooseUtf8? rest
  | a :: b :: c :: d :: _ =>
    if a = 0 then
      if b = 0 then Text.ofLooseUtf32? .bigEnd bytes else Text.ofLooseUtf16? .bigEnd bytes
    else if b = 0 then
      if c = 0 ∧ d = 0 then Text.ofLooseUtf32? .smallEnd bytes
      else Text.ofLooseUtf16? .smallEnd bytes
    else Text.ofLooseUtf8? bytes
  | [a, b] =>
    if a = 0 then Text.ofLooseUtf16? .bigEnd bytes
    else if b = 0 then Text.ofLooseUtf16? .smallEnd bytes
    else Text.ofLooseUtf8? bytes
  | _ => Text.ofLooseUtf8? bytes

/-- Reads bytes that are one JSON value. -/
def ofBytes (bytes : Text.Bytes) : Except ReadFault Json :=
  match textOfBytes? bytes with
  | some text => ofText text
  | none => .error .undecodable

end TimeReports.Json

import TimeReports.Text.Basic

set_option autoImplicit false

namespace TimeReports.Text

abbrev Bytes := List UInt8

/-- The UTF-8 bytes of a code point. -/
def utf8Char (c : CodePoint) : Bytes :=
  let n := c.toNat
  let tail (shift : Nat) : UInt8 := UInt8.ofNat (0x80 + (n >>> shift) % 64)
  if n < 0x80 then [UInt8.ofNat n]
  else if n < 0x800 then [UInt8.ofNat (0xC0 + n / 64), tail 0]
  else if n < 0x10000 then [UInt8.ofNat (0xE0 + n / 4096), tail 6, tail 0]
  else [UInt8.ofNat (0xF0 + n / 262144), tail 12, tail 6, tail 0]

/-- The UTF-8 bytes of a text. -/
def utf8 (text : Text) : Bytes := text.flatMap utf8Char

/-- What a byte that continues a character adds. -/
def continuation? (b : UInt8) : Option Nat :=
  if 0x80 ≤ b.toNat ∧ b.toNat < 0xC0 then some (b.toNat - 0x80) else none

/-- The character in front of UTF-8 bytes, its code point taken as `decode` says, and the bytes
behind it. -/
def frontUtf8? (decode : Nat → Option CodePoint) : Bytes → Option (CodePoint × Bytes)
  | [] => none
  | a :: rest =>
    let n := a.toNat
    if n < 0x80 then some (CodePoint.ofNat n, rest)
    else if 0xC2 ≤ n ∧ n < 0xE0 then
      match rest with
      | b :: rest => do
        let c ← decode ((n - 0xC0) * 64 + (← continuation? b))
        some (c, rest)
      | [] => none
    else if 0xE0 ≤ n ∧ n < 0xF0 then
      match rest with
      | b :: c :: rest => do
        let code := (n - 0xE0) * 4096 + (← continuation? b) * 64 + (← continuation? c)
        if code < 0x800 then none
        else
          let c ← decode code
          some (c, rest)
      | _ => none
    else if 0xF0 ≤ n ∧ n < 0xF5 then
      match rest with
      | b :: c :: d :: rest => do
        let code := (n - 0xF0) * 262144 + (← continuation? b) * 4096 + (← continuation? c) * 64
          + (← continuation? d)
        if code < 0x10000 then none
        else
          let c ← decode code
          some (c, rest)
      | _ => none
    else none

/-- Reads UTF-8 with a step for each character, code points taken as `decode` says. -/
def readUtf8? (decode : Nat → Option CodePoint) : Nat → Bytes → Option Text
  | _, [] => some []
  | 0, _ :: _ => none
  | fuel + 1, bytes => do
    let (c, rest) ← frontUtf8? decode bytes
    let text ← readUtf8? decode fuel rest
    some (c :: text)

/-- Reads UTF-8, surrogates refused. -/
def ofUtf8? (bytes : Bytes) : Option Text := readUtf8? CodePoint.charOf? bytes.length bytes

/-- Reads UTF-8 in which surrogates may stand. -/
def ofLooseUtf8? (bytes : Bytes) : Option Text := readUtf8? CodePoint.ofNat? bytes.length bytes

/-- Whether a byte may stand second, behind a byte that starts a character of three or four. -/
def goesSecond (first second : Nat) : Bool :=
  (if first = 0xE0 then 0xA0 else if first = 0xF0 then 0x90 else 0x80) ≤ second
    && second < (if first = 0xED then 0xA0 else if first = 0xF4 then 0x90 else 0xC0)

/-- How many bytes in front are the start of a character that does not go on: one at least. -/
def brokenLength : Bytes → Nat
  | a :: b :: rest =>
    if 0xE0 ≤ a.toNat ∧ a.toNat < 0xF5 ∧ goesSecond a.toNat b.toNat then
      match rest with
      | c :: _ => if 0xF0 ≤ a.toNat ∧ (continuation? c).isSome then 3 else 2
      | [] => 2
    else 1
  | _ => 1

/-- Reads UTF-8 with a step for each character; the start of a character that does not go on becomes
the replacement character. -/
def readPatchedUtf8 : Nat → Bytes → Text
  | _, [] => []
  | 0, _ :: _ => []
  | fuel + 1, bytes =>
    match frontUtf8? CodePoint.charOf? bytes with
    | some (c, rest) => c :: readPatchedUtf8 fuel rest
    | none => '\uFFFD' :: readPatchedUtf8 fuel (bytes.drop (brokenLength bytes))

/-- Reads UTF-8; whatever is no character becomes the replacement character. -/
def ofPatchedUtf8 (bytes : Bytes) : Text := readPatchedUtf8 bytes.length bytes

/-- Which byte of a pair or of four comes first. -/
inductive ByteOrder where
  | smallEnd
  | bigEnd
  deriving DecidableEq, Repr

/-- The number that two bytes write. -/
def ByteOrder.pair (order : ByteOrder) (a b : UInt8) : Nat :=
  match order with
  | .smallEnd => a.toNat + 256 * b.toNat
  | .bigEnd => 256 * a.toNat + b.toNat

def ByteOrder.units? (order : ByteOrder) : Bytes → Option (List Nat)
  | [] => some []
  | [_] => none
  | a :: b :: rest => (order.units? rest).map (order.pair a b :: ·)

/-- The text of UTF-16 units, in which surrogates may stand alone. -/
def ofUnits : List Nat → Text
  | [] => []
  | unit :: rest =>
    if 0xD800 ≤ unit ∧ unit < 0xDC00 then
      match rest with
      | low :: behind =>
        if 0xDC00 ≤ low ∧ low < 0xE000 then
          CodePoint.ofNat (0x10000 + (unit - 0xD800) * 1024 + (low - 0xDC00)) :: ofUnits behind
        else CodePoint.ofNat unit :: ofUnits (low :: behind)
      | [] => [CodePoint.ofNat unit]
    else CodePoint.ofNat unit :: ofUnits rest

/-- Reads UTF-16 in which surrogates may stand alone. -/
def ofLooseUtf16? (order : ByteOrder) (bytes : Bytes) : Option Text :=
  (order.units? bytes).map ofUnits

/-- Reads UTF-32 in which surrogates may stand. -/
def ofLooseUtf32? (order : ByteOrder) : Bytes → Option Text
  | [] => some []
  | a :: b :: c :: d :: rest => do
    let code := match order with
      | .smallEnd => order.pair a b + 65536 * order.pair c d
      | .bigEnd => 65536 * order.pair a b + order.pair c d
    let c ← CodePoint.ofNat? code
    let text ← ofLooseUtf32? order rest
    some (c :: text)
  | _ => none

/-- The number that two hexadecimal digits write. -/
def hexValue? (c : CodePoint) : Option Nat :=
  if '0' ≤ c ∧ c ≤ '9' then some (c.toNat - 48)
  else if 'a' ≤ c ∧ c ≤ 'f' then some (c.toNat - 87)
  else if 'A' ≤ c ∧ c ≤ 'F' then some (c.toNat - 55)
  else none

end TimeReports.Text

import TimeReports.Text.Quoted

set_option autoImplicit false

namespace TimeReports.Text

/-- A run of code points that an encoding has no bytes for. -/
structure Unencodable where
  /-- How many code points stand in front of it. -/
  offset : Nat
  first : CodePoint
  count : Nat
  deriving DecidableEq, Repr

namespace Unencodable

/-- The first run of code points without bytes, from its first one that is not passed over. -/
def find? (hasNoBytes isPassed : CodePoint → Bool) (text : Text) : Option Unencodable :=
  let behind := text.dropWhile fun c => !hasNoBytes c || isPassed c
  behind.head?.map fun first =>
    ⟨text.length - behind.length, first, (behind.takeWhile hasNoBytes).length⟩

/-- What keeps a text from being encoded in UTF-8. -/
def inUtf8? : Text → Option Unencodable := find? CodePoint.isSurrogate fun _ => false

/-- Whether a surrogate stands for a byte that is no character. Paths may hold these. -/
def isLooseByte (c : CodePoint) : Bool := 0xDC80 ≤ c.toNat && c.toNat ≤ 0xDCFF

/-- What keeps a path from being the name of anything. -/
def inPath? : Text → Option Unencodable := find? CodePoint.isSurrogate isLooseByte

/-- What keeps a text from being encoded in ASCII. -/
def inAscii? : Text → Option Unencodable := find? (fun c => 0x80 ≤ c.toNat) fun _ => false

/-- What is said of a text that an encoding has no bytes for. -/
def report (encoding reason : String) (found : Unencodable) : Text :=
  let place :=
    if found.count = 1 then
      " '".text ++ codeChar found.first ++ "' in position ".text ++ natDigits found.offset
    else
      "s in position ".text ++ natDigits found.offset ++ "-".text
        ++ natDigits (found.offset + found.count - 1)
  "'".text ++ encoding.text ++ "' codec can't encode character".text ++ place ++ ": ".text
    ++ reason.text

/-- What is said of a text that UTF-8 has no bytes for. -/
def message : Unencodable → Text := report "utf-8" "surrogates not allowed"

/-- What is said of a text that ASCII has no bytes for. -/
def asciiMessage : Unencodable → Text := report "ascii" "ordinal not in range(128)"

end Unencodable
end TimeReports.Text

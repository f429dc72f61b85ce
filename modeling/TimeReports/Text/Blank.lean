import TimeReports.Text.Basic

set_option autoImplicit false

namespace TimeReports.Text

/-- The blanks outside ASCII. -/
def wideBlanks : List Nat :=
  [0x85, 0xA0, 0x1680, 0x2000, 0x2001, 0x2002, 0x2003, 0x2004, 0x2005, 0x2006, 0x2007, 0x2008,
    0x2009, 0x200A, 0x2028, 0x2029, 0x202F, 0x205F, 0x3000]

/-- White space of Unicode, information separators left out. -/
def isSpace (c : CodePoint) : Bool :=
  (9 ≤ c.toNat && c.toNat ≤ 13) || c.toNat == 32 || wideBlanks.contains c.toNat

/-- White space of Unicode and the information separators. -/
def isBlank (c : CodePoint) : Bool :=
  isSpace c || (0x1C ≤ c.toNat && c.toNat ≤ 0x1F)

/-- The longest runs of characters that are not in a class, in order. -/
def runsOutside (inClass : CodePoint → Bool) : Text → List Text
  | [] => []
  | c :: rest =>
    if inClass c then runsOutside inClass rest
    else
      match rest, runsOutside inClass rest with
      | [], _ => [[c]]
      | _ :: _, [] => [[c]]
      | next :: _, word :: words =>
        if inClass next then [c] :: word :: words else (c :: word) :: words

def words (text : Text) : List Text := runsOutside isBlank text

/-- A text without the characters of a class at its end. -/
def trimRightBy (inClass : CodePoint → Bool) (text : Text) : Text :=
  (text.reverse.dropWhile inClass).reverse

/-- A text without the characters of a class at its ends. -/
def trimBy (inClass : CodePoint → Bool) (text : Text) : Text :=
  trimRightBy inClass (text.dropWhile inClass)

/-- A text without blanks at its end. -/
def trimRight (text : Text) : Text := trimRightBy isBlank text

/-- A text without blanks at its ends. -/
def trim (text : Text) : Text := trimBy isBlank text

end TimeReports.Text

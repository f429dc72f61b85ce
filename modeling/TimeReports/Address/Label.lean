import TimeReports.Address.Context
import TimeReports.Address.Direction
import TimeReports.Address.Punycode
import TimeReports.Text.Unencodable

set_option autoImplicit false

namespace TimeReports.Address

/-- What is wrong with the form of a name. -/
inductive FormFault where
  | emptyName
  | longName
  | emptyLabel
  | longLabel
  | uncomposed
  | innerHyphens
  | outerHyphen
  | leadingMark
  | joiner (c : CodePoint) (position : Nat) (label : Text)
  | nothingWritten
  | endsWithHyphen
  | unreadable
  deriving DecidableEq, Repr

/-- Why a text is no name of a host. -/
inductive NameFault where
  | form (fault : FormFault)
  | character (c : CodePoint) (position : Nat) (label : Text)
  | company (c : CodePoint) (position : Nat) (label : Text)
  | direction (fault : DirectionFault)
  /-- A host is no name but a number, and the name of its zone is not in ASCII. -/
  | zone (found : Text.Unencodable)
  deriving DecidableEq, Repr

/-- The number of a code point, as the standard of characters writes it. -/
def codeText (c : CodePoint) : Text :=
  let digits := ((Nat.toDigits 16 c.toNat).map fun digit => CodePoint.toUpper (.char digit))
  "U+".text ++ List.replicate (4 - digits.length) (.char '0') ++ digits

def FormFault.message : FormFault → Text
  | .emptyName => "Empty domain".text
  | .longName => "Domain too long".text
  | .emptyLabel => "Empty Label".text
  | .longLabel => "Label too long".text
  | .uncomposed => "Label must be in Normalization Form C".text
  | .innerHyphens => "Label has disallowed hyphens in 3rd and 4th position".text
  | .outerHyphen => "Label must not start or end with a hyphen".text
  | .leadingMark => "Label begins with an illegal combining character".text
  | .joiner c position label =>
    "Unknown codepoint adjacent to joiner ".text ++ codeText c ++ " at position ".text
      ++ Text.natDigits position ++ " in ".text ++ Text.quoted label
  | .nothingWritten => "Malformed A-label, no Punycode eligible content found".text
  | .endsWithHyphen => "A-label must not end with a hyphen".text
  | .unreadable => "Invalid A-label".text

def NameFault.message : NameFault → Text
  | .form fault => fault.message
  | .character c position label =>
    "Codepoint ".text ++ codeText c ++ " at position ".text ++ Text.natDigits position
      ++ " of ".text ++ Text.quoted label ++ " not allowed".text
  | .company c position label =>
    "Codepoint ".text ++ codeText c ++ " not allowed at position ".text
      ++ Text.natDigits position ++ " in ".text ++ Text.quoted label
  | .direction fault => fault.message
  | .zone found => found.asciiMessage

/-- Checks a character of a label, given what stands before it, nearest character first, and behind
it. -/
def checkCharacter (label before behind : Text) (c : CodePoint) : Except NameFault Unit :=
  let position := before.length + 1
  if Text.inRanges nameRanges c then .ok ()
  else if isJoiner c then
    if joinerFits c before behind then .ok () else .error (.form (.joiner c position label))
  else
    match companyFits? label before behind c with
    | some true => .ok ()
    | some false => .error (.company c position label)
    | none => .error (.character c position label)

/-- Checks the characters of a label, given those already checked, nearest character first. -/
def checkCharacters (label : Text) : Text → Text → Except NameFault Unit
  | _, [] => .ok ()
  | before, c :: behind => do
    checkCharacter label before behind c
    checkCharacters label (c :: before) behind

def checkLabel (label : Text) : Except NameFault Unit := do
  if label.isEmpty then .error (.form .emptyLabel)
  else if !Text.isComposed label then .error (.form .uncomposed)
  else if (label.drop 2).take 2 = "--".text then .error (.form .innerHyphens)
  else if label.head? = some '-' ∨ label.getLast? = some '-' then .error (.form .outerHyphen)
  else if label.head?.any (Text.inRanges Text.markRanges) then .error (.form .leadingMark)
  else
    checkCharacters label [] label
    (checkDirections label).mapError .direction

/-- What stands in front of a label that is written in ASCII. -/
def asciiPrefix : Text := "xn--".text

/-- The label that a label in ASCII stands for. -/
def readLabel (label : Text) : Except NameFault Text := do
  let small := label.map CodePoint.toLower
  let meant ←
    if asciiPrefix.isPrefixOf small then
      let rest := small.drop asciiPrefix.length
      if rest.isEmpty then .error (.form .nothingWritten)
      else if rest.getLast? = some '-' then .error (.form .endsWithHyphen)
      else
        match Punycode.decode? rest with
        | some meant => .ok meant
        | none => .error (.form .unreadable)
    else .ok small
  checkLabel meant
  return meant

/-- The most characters of a label in ASCII. -/
def labelLimit : Nat := 63

/-- A label in ASCII. -/
def writeLabel (label : Text) : Except NameFault Text := do
  let written ←
    if Text.isAscii label then do
      let _ ← readLabel label
      pure label
    else do
      checkLabel label
      pure (asciiPrefix ++ Punycode.encode label)
  if labelLimit < written.length then .error (.form .longLabel) else .ok written

end TimeReports.Address

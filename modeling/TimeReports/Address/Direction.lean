import TimeReports.Address.DirectionTable
import TimeReports.Text.Quoted

set_option autoImplicit false

namespace TimeReports.Address

/-- How a character of a label is written. -/
inductive Direction where
  /-- From left to right. -/
  | left
  /-- From right to left. -/
  | right
  /-- From right to left, as a letter of Arabic. -/
  | arabic
  | digit
  | arabicDigit
  /-- Like what it stands on. -/
  | mark
  | neutral
  deriving DecidableEq, Repr

namespace Direction

/-- How a character of a label is written, if that is known. -/
def of? (c : CodePoint) : Option Direction :=
  if Text.inRanges unknownRanges c then none
  else if Text.inRanges rightRanges c then some right
  else if Text.inRanges arabicRanges c then some arabic
  else if Text.inRanges digitRanges c then some digit
  else if Text.inRanges arabicDigitRanges c then some arabicDigit
  else if Text.inRanges markedRanges c then some mark
  else if Text.inRanges neutralRanges c then some neutral
  else some left

/-- Whether a letter is written from right to left. -/
def isRight (direction : Direction) : Bool := direction == right || direction == arabic

/-- Whether a character makes a label one in which the order of its characters is in question. -/
def asksForOrder (direction : Direction) : Bool :=
  direction.isRight || direction == arabicDigit

def isDigit (direction : Direction) : Bool := direction == digit || direction == arabicDigit

end Direction

/-- What is wrong with the directions in a label. -/
inductive DirectionFault where
  | unknown (label : Text) (position : Nat)
  | badStart (label : Text)
  | leftInRight (position : Nat)
  | rightInLeft (position : Nat)
  | mixedDigits
  | badEnd
  deriving DecidableEq, Repr

def DirectionFault.message : DirectionFault → Text
  | .unknown label position =>
    "Unknown directionality in label ".text ++ Text.quoted label ++ " at position ".text
      ++ Text.natDigits position
  | .badStart label =>
    "First codepoint in label ".text ++ Text.quoted label
      ++ " must be directionality L, R or AL".text
  | .leftInRight position =>
    "Invalid direction for codepoint at position ".text ++ Text.natDigits position
      ++ " in a right-to-left label".text
  | .rightInLeft position =>
    "Invalid direction for codepoint at position ".text ++ Text.natDigits position
      ++ " in a left-to-right label".text
  | .mixedDigits => "Can not mix numeral types in a right-to-left label".text
  | .badEnd => "Label ends with illegal codepoint directionality".text

def directions (label : Text) : Nat → Text → Except DirectionFault (List Direction)
  | _, [] => .ok []
  | position, c :: rest =>
    match Direction.of? c with
    | none => .error (.unknown label position)
    | some direction => (directions label (position + 1) rest).map (direction :: ·)

/-- Whether a label may end behind a character, given whether it may end before it. -/
def endsWell (mayEnd : Bool) : Direction → Bool
  | .mark => mayEnd
  | .neutral => false
  | _ => true

def checkLeft (mayEnd : Bool) : Nat → List Direction → Except DirectionFault Unit
  | _, [] => if mayEnd then .ok () else .error .badEnd
  | position, direction :: rest =>
    if direction.asksForOrder then .error (.rightInLeft position)
    else checkLeft (endsWell mayEnd direction) (position + 1) rest

/-- Checks a label from right to left, from a position on, given the kind of digits in front. -/
def checkRight (mayEnd : Bool) (kind : Option Direction) :
    Nat → List Direction → Except DirectionFault Unit
  | _, [] => if mayEnd then .ok () else .error .badEnd
  | position, direction :: rest =>
    if direction = .left then .error (.leftInRight position)
    else if direction.isDigit && kind.any (· ≠ direction) then .error .mixedDigits
    else
      checkRight (endsWell mayEnd direction) (if direction.isDigit then some direction else kind)
        (position + 1) rest

def checkDirections (label : Text) : Except DirectionFault Unit := do
  let found ← directions label 1 label
  if !found.any Direction.asksForOrder then .ok ()
  else if found.head?.any Direction.isRight then checkRight false none 1 found
  else if found.head? = some .left then checkLeft false 1 found
  else .error (.badStart label)

end TimeReports.Address

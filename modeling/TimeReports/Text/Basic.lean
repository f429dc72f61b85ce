import TimeReports.Text.CodePoint

set_option autoImplicit false

namespace TimeReports

namespace Text

/-- Whether a character's code point lies in one of the ranges, ends included. -/
def inRanges (ranges : List (Nat × Nat)) (c : CodePoint) : Bool :=
  ranges.any fun (first, last) => first ≤ c.toNat && c.toNat ≤ last

/-- The pieces of a text between the marks: one more than there are marks. -/
def pieces (mark : CodePoint) : Text → List Text
  | [] => [[]]
  | c :: rest =>
    if c = mark then [] :: pieces mark rest
    else
      match pieces mark rest with
      | [] => [[c]]
      | piece :: others => (c :: piece) :: others

/-- Texts one after another with a separator between neighbours. -/
def join (separator : Text) : List Text → Text
  | [] => []
  | [text] => text
  | text :: rest => text ++ separator ++ join separator rest

def occurs (pattern : Text) : Text → Bool
  | [] => pattern.isEmpty
  | c :: rest => pattern.isPrefixOf (c :: rest) || occurs pattern rest

/-- Substitution of the occurrences of a pattern, leftmost first and without overlap, where the
next `inside` characters belong to an occurrence already substituted. -/
def substituteFrom (pattern replacement : Text) : Nat → Text → Text
  | _, [] => []
  | inside + 1, _ :: rest => substituteFrom pattern replacement inside rest
  | 0, c :: rest =>
    if pattern.isPrefixOf (c :: rest) then
      replacement ++ substituteFrom pattern replacement (pattern.length - 1) rest
    else
      c :: substituteFrom pattern replacement 0 rest

def substitute (pattern replacement text : Text) : Text :=
  substituteFrom pattern replacement 0 text

/-- Spaces behind a text that is narrower than `width`. -/
def padRight (width : Nat) (text : Text) : Text :=
  text ++ List.replicate (width - text.length) (.char ' ')

/-- Spaces in front of a text that is narrower than `width`. -/
def padLeft (width : Nat) (text : Text) : Text :=
  List.replicate (width - text.length) (.char ' ') ++ text

/-- The order of texts by code points, as a Boolean. -/
def atMost : Text → Text → Bool
  | [], _ => true
  | _ :: _, [] => false
  | a :: left, b :: right =>
    if a.toNat < b.toNat then true
    else if b.toNat < a.toNat then false
    else atMost left right

/-- Whether a text is in ASCII. -/
def isAscii (text : Text) : Bool := text.all fun c => c.toNat < 0x80

def withoutLineFeed (text : Text) : Text :=
  if text.getLast? = some '\n' then text.dropLast else text

/-- The text before the first mark and the text behind it. -/
def cutAt? (mark : CodePoint) : Text → Option (Text × Text)
  | [] => none
  | c :: rest =>
    if c = mark then some ([], rest)
    else (cutAt? mark rest).map fun (before, after) => (c :: before, after)

end Text

end TimeReports

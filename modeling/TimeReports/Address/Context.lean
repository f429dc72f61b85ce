import TimeReports.Address.DirectionTable
import TimeReports.Address.JoiningTable
import TimeReports.Address.LabelTable
import TimeReports.Text.MarkTable
import TimeReports.Text.Composed

set_option autoImplicit false

namespace TimeReports.Address

/-- Whether a character is a mark that takes the vowel from a consonant. -/
def isVowelKiller (c : CodePoint) : Bool := Text.combiningClass c == 9

/-- Whether a character is one of the two invisible joiners: the one that keeps its neighbours
apart, and the one that joins them. -/
def isJoiner (c : CodePoint) : Bool := c == '\u200C' || c == '\u200D'

/-- Whether what stands beside a place, nearest character first, joins towards it. -/
def joinsFrom (oneSided : List (Nat × Nat)) (side : Text) : Bool :=
  (side.dropWhile (Text.inRanges skippedRanges)).head?.any fun c =>
    Text.inRanges oneSided c || Text.inRanges joiningRanges c

/-- Whether a joiner may stand between a text, nearest character first, and another one. -/
def joinerFits (joiner : CodePoint) (before behind : Text) : Bool :=
  match before with
  | [] => false
  | last :: _ =>
    isVowelKiller last
      || (joiner == '\u200C' && !Text.inRanges unknownRanges last
        && joinsFrom joiningLeftRanges before && joinsFrom joiningRightRanges behind)

/-- Whether a character is an Arabic digit of the western kind. -/
def isArabicDigit (c : CodePoint) : Bool := '\u0660' ≤ c && c ≤ '\u0669'

/-- Whether a character is an Arabic digit of the eastern kind. -/
def isEasternDigit (c : CodePoint) : Bool := '\u06F0' ≤ c && c ≤ '\u06F9'

/-- Whether a character may stand in a label between a text, nearest character first, and another
one, if it is a character that asks for company: a point between two `l`, a Greek or Hebrew sign
beside a letter of its script, a Japanese point beside characters of Japanese, and Arabic digits of
one kind. -/
def companyFits? (label before behind : Text) (c : CodePoint) : Option Bool :=
  if c = '\u00B7' then some (before.head? == some 'l' && behind.head? == some 'l')
  else if c = '\u0375' then some (behind.head?.any (Text.inRanges greekRanges))
  else if c = '\u05F3' ∨ c = '\u05F4' then some (before.head?.any (Text.inRanges hebrewRanges))
  else if c = '\u30FB' then some (label.any (Text.inRanges japaneseRanges))
  else if isArabicDigit c then some (!label.any isEasternDigit)
  else if isEasternDigit c then some (!label.any isArabicDigit)
  else none

end TimeReports.Address

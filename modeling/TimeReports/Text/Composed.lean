import TimeReports.Text.Basic
import TimeReports.Text.CompositionTable
import TimeReports.Text.MarkTable

set_option autoImplicit false

namespace TimeReports.Text

/-- The combining class of a character. What is no mark has class zero, and so do marks that keep
their place. -/
def combiningClass (c : CodePoint) : Nat :=
  ((combiningRanges.find? fun (first, last, _) => first ≤ c.toNat && c.toNat ≤ last).map
    fun (_, _, order) => order).getD 0

/-- The two characters that a Korean syllable stands for: an open syllable and the consonant that
closes it, or the two sounds of an open syllable. -/
def syllableParts? (code : Nat) : Option (Nat × Nat) :=
  if 0xAC00 ≤ code && code ≤ 0xD7A3 then
    let index := code - 0xAC00
    if index % 28 = 0 then some (0x1100 + index / 588, 0x1161 + index / 28 % 21)
    else some (code - index % 28, 0x11A7 + index % 28)
  else none

/-- The Korean syllable that two characters give. -/
def syllable? (first second : Nat) : Option Nat :=
  if 0x1100 ≤ first && first ≤ 0x1112 && 0x1161 ≤ second && second ≤ 0x1175 then
    some (0xAC00 + 588 * (first - 0x1100) + 28 * (second - 0x1161))
  else if 0xAC00 ≤ first && first ≤ 0xD7A3 && (first - 0xAC00) % 28 == 0
      && 0x11A8 ≤ second && second ≤ 0x11C2 then
    some (first + (second - 0x11A7))
  else none

/-- The two characters that a character stands for. -/
def parts? (code : Nat) : Option (Nat × Nat) :=
  (syllableParts? code).or ((compositions.find? fun (whole, _) => whole == code).map Prod.snd)

/-- The character that stands for two. -/
def whole? (first second : CodePoint) : Option CodePoint :=
  ((syllable? first.toNat second.toNat).or
    ((compositions.find? fun (_, parts) => parts == (first.toNat, second.toNat)).map Prod.fst)).map
      CodePoint.ofNat

/-- How often a character can be taken apart; no character has more marks than this. -/
def partDepth : Nat := 4

/-- A character taken apart as far as it goes, at most as often as `depth` says. -/
def takenApart : Nat → Nat → List Nat
  | 0, code => [code]
  | depth + 1, code =>
    match parts? code with
    | some (first, second) => takenApart depth first ++ [second]
    | none => [code]

/-- Puts a character in front of a text whose marks are in order. It moves behind the marks of a
smaller class. -/
def putInOrder (c : CodePoint) : Text → Text
  | [] => [c]
  | mark :: rest =>
    if 0 < combiningClass mark && combiningClass mark < combiningClass c then
      mark :: putInOrder c rest
    else c :: mark :: rest

/-- Joins what joins, given the last character of class zero and the marks that stay behind it. A
mark joins that character unless one of its own class or a greater one stays between them. -/
def joined (base : Option CodePoint) (marks : Text) : Text → Text
  | [] => base.toList ++ marks
  | c :: rest =>
    let isBlocked := marks.getLast?.any fun mark => combiningClass c ≤ combiningClass mark
    match if isBlocked then none else base.bind (whole? · c) with
    | some whole => joined (some whole) marks rest
    | none =>
      if combiningClass c = 0 then base.toList ++ marks ++ joined (some c) [] rest
      else joined base (marks ++ [c]) rest

/-- A text composed. The characters that other ones take the place of are left as they are. -/
def composed (text : Text) : Text :=
  let apart := text.flatMap fun c => (takenApart partDepth c.toNat).map CodePoint.ofNat
  joined none [] (apart.foldr putInOrder [])

def isComposed (text : Text) : Bool :=
  !text.any (inRanges uncomposedRanges) && composed text == text

end TimeReports.Text

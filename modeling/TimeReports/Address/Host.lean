import TimeReports.Number.Read
import TimeReports.Text.Encoding

set_option autoImplicit false

namespace TimeReports.Address

/-- Whether a host has the form of four runs of digits with points between them. -/
def looksFourPart (host : Text) : Bool :=
  let parts := Text.pieces '.' host
  parts.length == 4 && parts.all fun part => !part.isEmpty && part.all CodePoint.isDigit

/-- Whether a part is a number up to 255, written without needless zeros. -/
def isPart (part : Text) : Bool :=
  !part.isEmpty && part.all CodePoint.isDigit && part.length ≤ 3
    && (part.length == 1 || part.head? != some '0') && Text.numeralValue part ≤ 255

def isFourPart (host : Text) : Bool :=
  let parts := Text.pieces '.' host
  parts.length == 4 && parts.all isPart

def looksBracketed (host : Text) : Bool :=
  2 ≤ host.length && host.head? == some '[' && host.getLast? == some ']'

/-- Whether a group is one to four hexadecimal digits. -/
def isGroup (group : Text) : Bool :=
  !group.isEmpty && group.length ≤ 4 && group.all fun c => (Text.hexValue? c).isSome

/-- Groups with four decimal parts at the end taken for two groups. -/
def splitTail? (groups : List Text) : Option (List Text) :=
  match groups.reverse with
  | last :: others =>
    if last.contains '.' then
      if isFourPart last then some (others.reverse ++ [[.char '0'], [.char '0']]) else none
    else some groups
  | [] => some groups

/-- How many groups stand on one side of a gap; an empty text stands for none. -/
def groupCount? (side : List Text) : Option Nat :=
  if side = [[]] then some 0 else if side.all isGroup then some side.length else none

/-- Whether groups are eight, or fewer on both sides of a gap. -/
def areGroups (groups : List Text) : Bool :=
  let inner := (groups.drop 1).dropLast
  match inner.filter List.isEmpty with
  | [] => groups.length == 8 && groups.all isGroup
  | [_] =>
    let before := groups.take (1 + (inner.takeWhile fun group => !group.isEmpty).length)
    match groupCount? before, groupCount? (groups.drop (before.length + 1)) with
    | some left, some right => left + right < 8
    | _, _ => false
  | _ => false

/-- Whether the inside of brackets is groups, with the name of a zone behind a percent sign. -/
def isGrouped (inside : Text) : Bool :=
  let zone := (inside.dropWhile (· ≠ .char '%')).drop 1
  let groups := Text.pieces ':' (inside.takeWhile (· ≠ '%'))
  (!inside.contains '%' || (!zone.isEmpty && !zone.contains '%'))
    && 3 ≤ groups.length
    && match splitTail? groups with
      | some groups => groups.length ≤ 9 && areGroups groups
      | none => false

end TimeReports.Address

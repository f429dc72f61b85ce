import TimeReports.Json.Value
import TimeReports.Number.Read
import TimeReports.Text.Quoted

set_option autoImplicit false

namespace TimeReports.Json

mutual

def shown : Json → Text
  | .null => "None".text
  | .bool value => (if value then "True" else "False").text
  | .int value => Text.intDigits value
  | .float value => Number.shortest value
  | .string value => Text.quoted value
  | .array items => .char '[' :: Text.join ", ".text (shownItems items) ++ "]".text
  | .object members => .char '\x7b' :: Text.join ", ".text (shownMembers members) ++ "\x7d".text

def shownItems : List Json → List Text
  | [] => []
  | item :: rest => shown item :: shownItems rest

/-- The members of an object inside a message. -/
def shownMembers : List (Text × Json) → List Text
  | [] => []
  | (name, value) :: rest => (Text.quoted name ++ ": ".text ++ shown value) :: shownMembers rest

end

/-- What keeps a value from being shown. -/
inductive ShowFault where
  /-- A whole number has more digits than are written. -/
  | tooLong
  /-- Containers stand within too many others. -/
  | tooDeep
  deriving DecidableEq, Repr

/-- What is said of a value that cannot be shown. -/
def ShowFault.message : ShowFault → Text
  | .tooLong => Number.unwrittenMessage
  | .tooDeep => "maximum recursion depth exceeded while getting the repr of an object".text

mutual

/-- What keeps a value from being shown within which `depth` containers may stand within each
other. -/
def showFault? (depth : Nat) : Json → Option ShowFault
  | .int value =>
    if Number.digitLimit < (Text.natDigits value.natAbs).length then some .tooLong else none
  | .array items => if depth = 0 then some .tooDeep else itemsFault? (depth - 1) items
  | .object members => if depth = 0 then some .tooDeep else membersFault? (depth - 1) members
  | _ => none

def itemsFault? (depth : Nat) : List Json → Option ShowFault
  | [] => none
  | item :: rest => (showFault? depth item).or (itemsFault? depth rest)

def membersFault? (depth : Nat) : List (Text × Json) → Option ShowFault
  | [] => none
  | (_, value) :: rest => (showFault? depth value).or (membersFault? depth rest)

end

def asMessage : Json → Text
  | .string value => value
  | value => value.shown

end TimeReports.Json

import TimeReports.Json.Value
import TimeReports.Number.Written
import TimeReports.Text.Quoted

set_option autoImplicit false

namespace TimeReports.Json

def writtenChar (c : CodePoint) : Text :=
  if c = '"' then ['\\', '"']
  else if c = '\\' then ['\\', '\\']
  else if c.toNat < 32 || c.isSurrogate then '\\' :: 'u' :: Text.paddedHex 4 c.toNat
  else [c]

def writtenText (text : Text) : Text := .char '"' :: text.flatMap writtenChar ++ "\"".text

/-- A double; the infinite and undefined ones stand as names. -/
def writtenFloat (x : Float) : Text :=
  match Number.shape x with
  | .nan => "NaN".text
  | .infinite negative => (if negative then "-Infinity" else "Infinity").text
  | .finite _ _ _ => Number.shortest x

/-- Whether a text can be sent: it holds no surrogate. -/
def isSendableText (text : Text) : Bool := !text.any CodePoint.isSurrogate

mutual

/-- Whether a value can be sent: no number in it is infinite or undefined, and all texts in it can
be sent. -/
def isSendable : Json → Bool
  | .float x => x.isFinite
  | .string value => isSendableText value
  | .array items => areSendable items
  | .object members => membersSendable members
  | _ => true

def areSendable : List Json → Bool
  | [] => true
  | item :: rest => isSendable item && areSendable rest

def membersSendable : List (Text × Json) → Bool
  | [] => true
  | (name, value) :: rest => isSendableText name && isSendable value && membersSendable rest

end

mutual

/-- A value as JSON text. -/
def written : Json → Text
  | .null => "null".text
  | .bool value => (if value then "true" else "false").text
  | .int value => Text.intDigits value
  | .float value => writtenFloat value
  | .string value => writtenText value
  | .array items => .char '[' :: Text.join [.char ','] (writtenItems items) ++ "]".text
  | .object members => .char '\x7b' :: Text.join [.char ','] (writtenMembers members) ++ "\x7d".text

/-- The items of a list as JSON texts. -/
def writtenItems : List Json → List Text
  | [] => []
  | item :: rest => written item :: writtenItems rest

/-- The members of an object as JSON texts. -/
def writtenMembers : List (Text × Json) → List Text
  | [] => []
  | (name, value) :: rest => (writtenText name ++ .char ':' :: written value) :: writtenMembers rest

end

end TimeReports.Json

import TimeReports.Display.Fields
import TimeReports.Record.Fault
import TimeReports.Text.Digit

set_option autoImplicit false

namespace TimeReports.Service

open Display (fields texts)

inductive ErrorCode where
  | invalidRequest
  | unauthorized
  | harvestApiError
  | noRunningTimer
  | noTasks
  | internalError
  deriving DecidableEq, Repr

def ErrorCode.name : ErrorCode → Text
  | .invalidRequest => "INVALID_REQUEST".text
  | .unauthorized => "UNAUTHORIZED".text
  | .harvestApiError => "HARVEST_API_ERROR".text
  | .noRunningTimer => "NO_RUNNING_TIMER".text
  | .noTasks => "NO_TASKS".text
  | .internalError => "INTERNAL_ERROR".text

structure Problem where
  status : Nat
  error : Text
  code : ErrorCode
  details : List Text
  deriving DecidableEq, Repr

def Problem.toJson (problem : Problem) : Json :=
  fields [("error", .string problem.error), ("code", .string problem.code.name),
    ("details", texts problem.details)]

def internalProblem : Problem := ⟨500, "Internal server error".text, .internalError, []⟩

inductive Answer where
  | content (status : Nat) (body : Json)
  | problem (problem : Problem)
  /-- The request met a failure that no handler expected. -/
  | crashed
  | refused (faults : List Record.Fault)
  | unreadableBody
  | unknownPath
  | wrongMethod
  /-- The path is known without, or with, the slash at its end. -/
  | movedTo (path : Text)
  /-- What the service says of itself. -/
  | description

def Answer.status : Answer → Nat
  | .content status _ => status
  | .problem met => met.status
  | .crashed => 500
  | .refused _ => 422
  | .unreadableBody => 400
  | .unknownPath => 404
  | .wrongMethod => 405
  | .movedTo _ => 307
  | .description => 200

/-- A step on the way to a fault, as a value. -/
def placeJson : Record.Place → Json
  | .field name => .string name
  | .item index => .int index

def faultJson (fault : Record.Fault) : Json :=
  fields [("loc", .array (fault.place.map placeJson)), ("type", .string fault.kind.tag)]

def remark (text : String) : Json := fields [("detail", .string text.text)]

def Answer.body : Answer → Json
  | .content _ body => body
  | .problem met => fields [("detail", met.toJson)]
  | .crashed => internalProblem.toJson
  | .refused faults => fields [("detail", .array (faults.map faultJson))]
  | .unreadableBody => remark "There was an error parsing the body"
  | .unknownPath => remark "Not Found"
  | .wrongMethod => remark "Method Not Allowed"
  | .movedTo _ => .null
  | .description => .null

/-- Whether an answer has a body when the method is not HEAD. -/
def Answer.hasBody : Answer → Bool
  | .movedTo _ => false
  | .description => false
  | _ => true

mutual

/-- A value in which infinite and undefined numbers are null. -/
def finite : Json → Json
  | .float x => if x.isFinite then .float x else .null
  | .array items => .array (finiteItems items)
  | .object members => .object (finiteMembers members)
  | value => value

def finiteItems : List Json → List Json
  | [] => []
  | item :: rest => finite item :: finiteItems rest

/-- The members of an object, without infinite and undefined numbers. -/
def finiteMembers : List (Text × Json) → List (Text × Json)
  | [] => []
  | (name, value) :: rest => (name, finite value) :: finiteMembers rest

end

def success (body : Json) : Answer := .content 200 (finite body)

end TimeReports.Service

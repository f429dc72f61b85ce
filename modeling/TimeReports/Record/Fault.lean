import TimeReports.Json.Value

set_option autoImplicit false

namespace TimeReports.Record

/-- One step on the way to a fault. -/
inductive Place where
  | field (name : Text)
  | item (index : Nat)
  deriving DecidableEq, Repr

inductive FaultKind where
  | missing
  | notRecord
  | notObject
  | notList
  | notInt
  | intForm
  | intSize
  | intFraction
  | notFinite
  | notFloat
  | floatForm
  | tooSmall
  | notText
  | notBool
  | boolForm
  | notDate
  | dateYear
  | dateForm
  | dateTime
  | malformed
  deriving DecidableEq, Repr

def FaultKind.tag : FaultKind → Text
  | .missing => "missing".text
  | .notRecord => "model_type".text
  | .notObject => "model_attributes_type".text
  | .notList => "list_type".text
  | .notInt => "int_type".text
  | .intForm => "int_parsing".text
  | .intSize => "int_parsing_size".text
  | .intFraction => "int_from_float".text
  | .notFinite => "finite_number".text
  | .notFloat => "float_type".text
  | .floatForm => "float_parsing".text
  | .tooSmall => "greater_than_equal".text
  | .notText => "string_type".text
  | .notBool => "bool_type".text
  | .boolForm => "bool_parsing".text
  | .notDate => "date_type".text
  | .dateYear => "date_parsing".text
  | .dateForm => "date_from_datetime_parsing".text
  | .dateTime => "date_from_datetime_inexact".text
  | .malformed => "json_invalid".text

structure Fault where
  place : List Place
  kind : FaultKind
  deriving DecidableEq, Repr

/-- A fault seen from one step further out. -/
def Fault.inside (step : Place) (fault : Fault) : Fault :=
  { fault with place := step :: fault.place }

/-- A value, or everything that is wrong with it. -/
abbrev Checked := Except (List Fault)

namespace Checked

def fail {α : Type} (kind : FaultKind) : Checked α := .error [⟨[], kind⟩]

def inside {α : Type} (step : Place) (value : Checked α) : Checked α :=
  value.mapError fun faults => faults.map (Fault.inside step)

/-- A function of a further value, with the faults of both. -/
def apply {α β : Type} (f : Checked (α → β)) (value : Checked α) : Checked β :=
  match f, value with
  | .ok f, .ok value => .ok (f value)
  | .ok _, .error faults => .error faults
  | .error faults, .ok _ => .error faults
  | .error left, .error right => .error (left ++ right)

end Checked

abbrev Reader (α : Type) := Json → Checked α

def orNull {α : Type} (reader : Reader α) : Reader (Option α)
  | .null => .ok none
  | value => (reader value).map some

def itemsFrom {α : Type} (reader : Reader α) : Nat → List Json → Checked (List α)
  | _, [] => .ok []
  | index, value :: rest =>
    Checked.apply (((reader value).inside (.item index)).map List.cons)
      (itemsFrom reader (index + 1) rest)

def listOf {α : Type} (reader : Reader α) : Reader (List α)
  | .array values => itemsFrom reader 0 values
  | _ => .fail .notList

def required {α : Type} (members : List (Text × Json)) (name : String) (reader : Reader α) :
    Checked α :=
  Checked.inside (.field name.text) <|
    match Json.member? members name.text with
    | some value => reader value
    | none => .fail .missing

def optional {α : Type} (members : List (Text × Json)) (name : String) (reader : Reader α)
    (absent : α) : Checked α :=
  match Json.member? members name.text with
  | some value => (reader value).inside (.field name.text)
  | none => .ok absent

def ofMembers {α : Type} (reader : List (Text × Json) → Checked α) : Reader α
  | .object members => reader members
  | _ => .fail .notRecord

end TimeReports.Record

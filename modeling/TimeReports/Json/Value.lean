import TimeReports.Text.Basic

set_option autoImplicit false

namespace TimeReports

/-- A JSON value. -/
inductive Json where
  | null
  | bool (value : Bool)
  | int (value : Int)
  | float (value : Float)
  | string (value : Text)
  | array (items : List Json)
  | object (members : List (Text × Json))
  deriving Inhabited

namespace Json

/-- Members with one of them set: a name that is there keeps its place and takes the new value. -/
def setMember (name : Text) (value : Json) : List (Text × Json) → List (Text × Json)
  | [] => [(name, value)]
  | (other, old) :: rest =>
    if other = name then (other, value) :: rest else (other, old) :: setMember name value rest

def member? (members : List (Text × Json)) (name : Text) : Option Json :=
  members.lookup name

/-- Whether a value counts as something: no null, no zero and nothing empty. -/
def isSomething : Json → Bool
  | null => false
  | bool value => value
  | int value => value != 0
  | float value => value != 0
  | string value => !value.isEmpty
  | array items => !items.isEmpty
  | object members => !members.isEmpty

/-- How many containers may stand within each other where a value is read or shown. -/
def depthLimit : Nat := 960

end Json
end TimeReports

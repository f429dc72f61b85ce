import TimeReports.Address.Label

set_option autoImplicit false

namespace TimeReports.Address

/-- The most characters of a name without a dot at its end. -/
def nameLimit : Nat := 253

def isDot (c : CodePoint) : Bool :=
  c == '.' || c == '\u3002' || c == '\uFF0E' || c == '\uFF61'

/-- The labels of a name, and whether a dot stands at its end. -/
def labelsOf (name : Text) : Except NameFault (List Text × Bool) :=
  if nameLimit + 1 < name.length then .error (.form .longName)
  else
    let labels := Text.pieces '.' (name.map fun c => if isDot c then .char '.' else c)
    if labels = [[]] then .error (.form .emptyName)
    else if labels.getLast? = some [] then .ok (labels.dropLast, true)
    else .ok (labels, false)

def nameOf (labels : List Text) (hasEndDot : Bool) : Text :=
  Text.join ['.'] labels ++ (if hasEndDot then "." else "").text

/-- A name in ASCII. -/
def writeName (name : Text) : Except NameFault Text := do
  let (labels, hasEndDot) ← labelsOf name
  let written := nameOf (← labels.mapM writeLabel) hasEndDot
  if (if hasEndDot then nameLimit + 1 else nameLimit) < written.length then
    .error (.form .longName)
  else .ok written

/-- The name that a name in ASCII stands for. -/
def readName (name : Text) : Except NameFault Text := do
  let (labels, hasEndDot) ← labelsOf name
  return nameOf (← labels.mapM readLabel) hasEndDot

end TimeReports.Address

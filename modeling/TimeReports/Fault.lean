import TimeReports.Address.Basic
import TimeReports.Display.Tree
import TimeReports.Json.Shown
import TimeReports.Query.Fault
import TimeReports.Record.Fault
import TimeReports.Vault.Basic

set_option autoImplicit false

namespace TimeReports

/-- A failure that the time tracking service reported or that kept it from being reached. -/
structure ApiFailure where
  message : Text
  /-- The status of the answer, when there was one. -/
  status : Option Int
  deriving DecidableEq, Repr

/-- The kinds of breakdown that are no failures of communication. -/
inductive BreakdownKind where
  | runtime
  | value
  /-- An answer holds containers within too many others. -/
  | depth
  deriving DecidableEq, Repr

def BreakdownKind.name : BreakdownKind → Text
  | .runtime => "RuntimeError".text
  | .value => "ValueError".text
  | .depth => "RecursionError".text

inductive Fault where
  | query (fault : QueryFault)
  | days (fault : Calendar.DayFault)
  | date (fault : Calendar.DateFault)
  | harvest (failure : ApiFailure)
  /-- The entries of a report could not be fetched. -/
  | fetch (failure : ApiFailure)
  | records (faults : List Record.Fault)
  | document (fault : Vault.DocumentFault)
  | storage (fault : Vault.StorageFault)
  /-- The directory of the documents is left open. -/
  | noDirectory
  | display (fault : Display.Fault)
  /-- A text that a workbook cannot hold. -/
  | cell (text : Text)
  /-- A line that the console refuses. -/
  | console (found : Text.Unencodable)
  | breakdown (kind : BreakdownKind) (message : Text)
  | address (fault : Address.Fault)
  /-- An address whose host has a name that cannot be read. -/
  | name (fault : Address.NameFault)
  deriving DecidableEq, Repr

namespace Fault

def message : Fault → Text
  | query fault => fault.message
  | days fault => fault.message
  | date fault => fault.message
  | harvest failure => failure.message
  | fetch failure => failure.message
  | records _ => []
  | document fault => fault.message
  | storage fault => fault.message
  | noDirectory => "expected str, bytes or os.PathLike object, not list".text
  | display fault => fault.message
  | cell text => text ++ " cannot be used in worksheets.".text
  | console found => found.message
  | breakdown _ message => message
  | address fault => fault.message
  | name fault => fault.message

/-- Where a reference leads, if the name of its host can be read. -/
def reached (base reference : Text) : Except Fault Address.Target := do
  let target ← (Address.resolve base reference).mapError address
  target.checkName.mapError name
  return target

def apiFailure? : Fault → Option ApiFailure
  | harvest failure => some failure
  | fetch failure => some failure
  | _ => none

def ofParse : ParseFault → Fault
  | .malformed fault => query fault
  | .days fault => days fault

/-- The fault of a message that would show a value. -/
def ofShow (fault : Json.ShowFault) : Fault :=
  match fault with
  | .tooLong => breakdown .value fault.message
  | .tooDeep => breakdown .depth fault.message

def ofVault : Vault.Fault → Fault
  | .document fault => document fault
  | .storage fault => storage fault

end Fault
end TimeReports

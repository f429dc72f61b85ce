import TimeReports.Display.Markup
import TimeReports.Display.Render
import TimeReports.Document.Frozen
import TimeReports.Execution.Desk

set_option autoImplicit false

namespace TimeReports

namespace Execution

inductive State where
  | parseFailed
  | fetchFailed
  | replaceFailed
  | done
  deriving DecidableEq, Repr

def State.name : State → Text
  | .parseFailed => "parse_failed".text
  | .fetchFailed => "fetch_failed".text
  | .replaceFailed => "rewrite_failed".text
  | .done => "done".text

/-- Where a block stands: its document and the lines of its fences. -/
structure Location where
  document : Text
  first : Int
  last : Int
  deriving DecidableEq, Repr

structure Result where
  state : State
  display : Display.Tree
  query : Option Query
  /-- The report as it was to be written into the document. -/
  markup : Option Text
  replaced : Bool
  entryCount : Nat
  totalHours : Float

def Result.failed (result : Result) : Bool := result.state != .done

/-- The result of an execution that fetched no entries. -/
def failure (state : State) (message : Text) (query : Option Query) : Result where
  state
  display := .message message "harvest-error"
  query
  markup := none
  replaced := false
  entryCount := 0
  totalHours := 0

/-- What is said while entries are fetched. -/
def loadingMessage : Text := "Loading Harvest report...".text

/-- What is shown while entries are fetched. -/
def loadingDisplay : Display.Tree := .message loadingMessage "harvest-loading"

/-- What is shown when entries could not be fetched. -/
def fetchFailedMessage : Text := "Failed to fetch Harvest report.".text

/-- How the message about a malformed query starts. -/
def parseFailedStart : Text := "Error processing Harvest query: ".text

def parseFailedMessage (fault : QueryFault) : Text := parseFailedStart ++ fault.message

/-- How the message about a block that could not be replaced starts. -/
def replaceFailedStart : Text := "Failed to freeze Harvest report: ".text

/-- What is shown when a block could not be replaced. -/
def replaceFailedMessage (fault : Vault.DocumentFault) : Text :=
  replaceFailedStart ++ fault.message

/-- What fetches the time entries on days of a range. -/
abbrev Fetcher (σ : Type) := Date → Date → Program σ (List TimeEntry)

/-- What replaces lines of a document, from one to another, by those of a text. -/
abbrev Rewriter (σ : Type) := Text → Int → Int → Text → Program σ Unit

variable {σ : Type} [Console]

/-- Replaces the block by its report, and shows a failure to do so. -/
def freezeInto (replace : Rewriter σ) (location : Option Location) (source : Text)
    (result : Result) : Program σ Result := do
  let markup ← Program.ofExcept Fault.display result.display.markup
  let written := { result with markup := some markup }
  let replacing : Program σ Unit :=
    match location with
    | none => .fail (.document .unknownLocation)
    | some location =>
      replace location.document location.first location.last
        (Document.frozenBlock source markup)
  match ← replacing.attempt with
  | .ok () => return { written with replaced := true }
  | .error (.document fault) =>
    return { written with
      state := .replaceFailed
      display := .message (replaceFailedMessage fault) "harvest-error" }
  | .error fault => .fail fault

def report (query : Query) (entries : List TimeEntry) : Result where
  state := .done
  display := Display.render (Report.aggregate entries query.kind)
  query := some query
  markup := none
  replaced := false
  entryCount := entries.length
  totalHours := Report.totalHours entries

/-- Fetches the entries of a query and shows them. -/
def fetchReport (fetch : Fetcher σ) (query : Query) : Program σ Result := do
  Program.tell (.fetching query.range) (.done ())
  match ← (fetch query.range.first query.range.last).attempt with
  | .ok entries => return report query entries
  | .error (.fetch failure) =>
    Program.say ("  Fetch failed for ".text ++ query.range.first.iso ++ "..".text
      ++ query.range.last.iso ++ ": ".text ++ failure.message)
    return Execution.failure .fetchFailed fetchFailedMessage (some query)
  | .error fault => .fail fault

/-- Executes a block. A block with the static flag is replaced by its report at its location. -/
def evaluate (source : Text) (fetch : Fetcher σ) (replace : Rewriter σ)
    (location : Option Location) (today : Date) (onLoading : Display.Tree → Program σ Unit) :
    Program σ Result := do
  let text := Query.withoutFlag source
  match Query.parse text today with
  | .error (.malformed fault) =>
    return Execution.failure .parseFailed (parseFailedMessage fault) none
  | .error (.days fault) => .fail (.days fault)
  | .ok query =>
    onLoading loadingDisplay
    let result ← fetchReport fetch query
    if Query.isStatic source && result.state == .done then
      freezeInto replace location text result
    else return result

end Execution

open Execution in
/-- Executes a block of a document of the vault. -/
def execute [Console] (source : Text) (fetch : Fetcher Desk) (location : Option Location)
    (today : Date) (onLoading : Display.Tree → Program Desk Unit) : Program Desk Result :=
  evaluate source fetch Desk.replaceLines location today onLoading

end TimeReports

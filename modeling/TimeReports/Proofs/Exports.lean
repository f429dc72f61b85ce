import TimeReports.Command.Basic
import TimeReports.Proofs.Blame

set_option autoImplicit false

namespace TimeReports

namespace Workbook

open Report

variable {α β : Type}

/-- A fault of what a sheet cannot hold: a text, or a row. -/
inductive Unheld : Fault → Prop
  | text (text : Text) : Unheld (.cell text)
  | row (row : Nat) : Unheld (.breakdown .value (rowMessage row))

/-- Whether what a sheet cannot hold is all that can be wrong. -/
def OnlyCells (result : Except Fault α) : Prop := ∀ fault, result = .error fault → Unheld fault

theorem OnlyCells.bind {result : Except Fault α} {next : α → Except Fault β}
    (first : OnlyCells result) (later : ∀ value, OnlyCells (next value)) :
    OnlyCells (result >>= next) := by
  cases result with
  | ok value => exact later value
  | error fault =>
    intro other same
    cases same
    exact first fault rfl

end Workbook

namespace Execution

open Program

variable {σ : Type} [Console] {source : Text} {query : Query}

/-- What an execution without a location makes of what its fetch ended with. -/
inductive Follows (source : Text) (query : Query) : Outcome (List TimeEntry) → Outcome Result → Prop
  | live {entries : List TimeEntry} (live : Query.isStatic source = false) :
    Follows source query (.returned entries) (.returned (report query entries))
  | unplaced {entries : List TimeEntry} {markup : Text} (flag : Query.isStatic source = true)
    (written : (report query entries).display.markup = .ok markup) :
    Follows source query (.returned entries)
      (.returned ((report query entries).kept markup .unknownLocation))
  | unfetched {failure : ApiFailure} (takes : Console.Takes (fetchFailedLine query failure)) :
    Follows source query (.failed (.fetch failure)) (.returned (unfetched query))
  /-- The console refuses what is said of the failure. -/
  | unreported {failure : ApiFailure} {found : Text.Unencodable}
    (refused : Console.refusal? (fetchFailedLine query failure) = some found) :
    Follows source query (.failed (.fetch failure)) (.failed (.console found))
  | escaped {fault : Fault} (other : ∀ failure, fault ≠ .fetch failure) :
    Follows source query (.failed fault) (.failed fault)
  | spent : Follows source query .spent .spent

variable {fetch : SessionFetcher} {today : Date} {desk : Desk} {replies : List Harvest.Reply}

end Execution

namespace Command

open Execution Harvest Program

def OfReport (fault : Fault) : Prop :=
  (∃ inner, fault = .query inner) ∨ ∃ failure, fault = .fetch failure

section

variable [Console]

/-- What an export says of the workbook that it saved. -/
def savedLine (output : Vault.Given) : Text := "Saved Excel report to: ".text ++ output.toText

/-- The end of an export whose workbook is saved, whether or not the line about it is refused. -/
def concluding (output : Vault.Given) (saved : Option (Vault.Path × Workbook.Sheet)) :
    Program Desk Finished :=
  reporting isBadInput saved ((say (savedLine output)).bind fun _ => done ⟨0, saved⟩)

def saving (surroundings : Surroundings) (option : Setting) :
    Query × Report.View → Program Desk Finished
  | (query, view) => do
    let sheet ← Program.ofExcept id (Workbook.ofView view query)
    let output := outputOf surroundings option query
    makeFile surroundings output
    concluding output (some (output.seenFrom surroundings.directory, sheet))

/-- An export of which no fault is reported yet, but for one of its last line. -/
def exporting (surroundings : Surroundings) (arguments : Arguments) : Program Desk Finished :=
  (exportView arguments.subject surroundings.today).bind (saving surroundings arguments.option)

theorem exportReport_eq (surroundings : Surroundings) (arguments : Arguments) :
    exportReport surroundings arguments =
      reporting (fun fault => isBadInput fault || isFetch fault) none
        (exporting surroundings arguments) :=
  rfl

section Views

variable {source : Text} {today : Date} {query : Query} {desk : Desk} {replies : List Reply}

end Views

section Reading

variable {α : Type} {reader : Record.Reader α} {what : String} {reply : Reply}

end Reading

/-- What an export makes of a source, and what an execution of it does. -/
inductive Alike (source : Text) (today : Date) :
    Outcome (Query × Report.View) → Outcome Result → Prop
  | malformed {fault : QueryFault} {result : Result} (state : result.state = .parseFailed) :
    Alike source today (.failed (.query fault)) (.returned result)
  | unfetched {failure : ApiFailure} {result : Result} (state : result.state = .fetchFailed) :
    Alike source today (.failed (.fetch failure)) (.returned result)
  | unreported {query : Query} {failure : ApiFailure} {found : Text.Unencodable}
    (reads : Reads source today query)
    (refused : Console.refusal? (fetchFailedLine query failure) = some found) :
    Alike source today (.failed (.fetch failure)) (.failed (.console found))
  | escaped {fault : Fault} (apart : ¬ OfReport fault) :
    Alike source today (.failed fault) (.failed fault)
  | spent : Alike source today .spent .spent
  | shown {query : Query} {view : Report.View} {result : Result}
    (asked : result.query = some query) (live : Query.isStatic source = false)
    (state : result.state = .done) (display : result.display = Display.render view) :
    Alike source today (.returned (query, view)) (.returned result)
  | written {query : Query} {view : Report.View} {result : Result} {markup : Text}
    (asked : result.query = some query) (flag : Query.isStatic source = true)
    (state : result.state = .replaceFailed) (markup_eq : result.markup = some markup)
    (display : (Display.render view).markup = .ok markup) :
    Alike source today (.returned (query, view)) (.returned result)

namespace Alike

variable {source : Text} {today : Date} {viewing : Outcome (Query × Report.View)}
  {ended : Outcome Result}

theorem spent_iff (alike : Alike source today viewing ended) :
    viewing = .spent ↔ ended = .spent := by
  cases alike <;> simp

end Alike

section Sources

variable {source : Text} {today : Date} {query : Query} {desk : Desk} {replies : List Reply}

end Sources

section Runs

variable {surroundings : Surroundings} {option : Setting}
  {viewing : Run Desk (Query × Report.View)}

end Runs

end

end Command
end TimeReports

import TimeReports.Command.Arguments
import TimeReports.Execution.Freeze
import TimeReports.Settings
import TimeReports.Workbook.Report

set_option autoImplicit false

namespace TimeReports.Command

structure Surroundings where
  today : Date
  /-- The directory that relative paths start from. -/
  directory : Vault.Path
  outputDirectory : Text
  databasePath : Text

/-- How a command ended: its exit code, and the workbook that it saved. -/
structure Finished where
  exit : Nat
  saved : Option (Vault.Path × Workbook.Sheet)

/-- A command that ended without saving anything. -/
def Finished.with (exit : Nat) : Finished := ⟨exit, none⟩

def isBadInput : Fault → Bool
  | .query _ => true
  | .days (.tooManyDigits _) => true
  | .date _ => true
  | .records _ => true
  | .document _ => true
  | .storage .zeroInPath => true
  | .storage (.unencodable _) => true
  | .console _ => true
  | .display .undefinedBar => true
  | .breakdown .value _ => true
  | _ => false

def isFetch : Fault → Bool
  | .fetch _ => true
  | _ => false

def isOfDocument : Fault → Bool
  | .document _ => true
  | _ => false

variable [Console]

/-- A command that reports some faults and then ends with code one, with what it had saved. -/
def reporting (isReported : Fault → Bool) (saved : Option (Vault.Path × Workbook.Sheet))
    (program : Program Desk Finished) : Program Desk Finished :=
  program.recover fun fault =>
    if isReported fault then do
      Program.say ("\nError: ".text ++ fault.message)
      return ⟨1, saved⟩
    else .fail fault

/-- The day that a command looks from. -/
def anchor (surroundings : Surroundings) (option : Setting) : Program Desk Date :=
  match option with
  | .absent => return surroundings.today
  | .emptied => return surroundings.today
  | .given [] => return surroundings.today
  | .given text => Program.ofExcept Fault.date (Calendar.readDate text)

def plain (tree : Display.Tree) : Program Desk Text :=
  Program.ofExcept Fault.display tree.plain

/-- Evaluates a query and prints its report. -/
def runQuery (surroundings : Surroundings) (arguments : Arguments) : Program Desk Finished :=
  reporting isBadInput none do
    let today ← anchor surroundings arguments.option
    let result ← execute arguments.subject Desk.fetchEntries none today fun tree => do
      Program.say (← plain tree)
    match result.query with
    | some query =>
      Program.say ("Report for ".text ++ query.range.first.iso ++ " to ".text
        ++ query.range.last.iso ++ "\n".text)
    | none => pure ()
    Program.say (← plain result.display)
    return .with (if result.failed then 1 else 0)

/-- The place of a workbook when none is given. -/
def defaultOutput (surroundings : Surroundings) (query : Query) : Text :=
  surroundings.outputDirectory ++ "/reports/harvest_".text
    ++ query.kind.keyword.map CodePoint.toLower
    ++ .char '_' :: query.range.first.iso ++ .char '_' :: query.range.last.iso ++ ".xlsx".text

def exportView (source : Text) (today : Date) : Program Desk (Query × Report.View) := do
  let query ← Program.ofExcept Fault.ofParse (Query.parse (Query.withoutFlag source) today)
  Program.say ("Exporting ".text ++ query.kind.keyword ++ " report for ".text
    ++ query.range.first.iso ++ " to ".text ++ query.range.last.iso)
  let entries ← Desk.fetchEntries query.range.first query.range.last
  Program.say ("Found ".text ++ Text.natDigits entries.length ++ " time entries".text)
  return (query, Report.aggregate entries query.kind)

def outputOf (surroundings : Surroundings) (option : Setting) (query : Query) : Vault.Given :=
  match option with
  | .given text => .ofText text
  | _ => .ofText (defaultOutput surroundings query)

def makeFile (surroundings : Surroundings) (output : Vault.Given) : Program Desk Unit := do
  let desk ← Program.get
  let (vault, outcome) := desk.vault.makeFile surroundings.directory output
  Program.modify fun desk => { desk with vault }
  Program.ofExcept Fault.storage outcome

/-- Exports a report as a workbook. The line about it comes when the workbook is there, which stays
and is what the command saved even where that line is refused. -/
def exportReport (surroundings : Surroundings) (arguments : Arguments) :
    Program Desk Finished :=
  reporting (fun fault => isBadInput fault || isFetch fault) none do
    let (query, view) ← exportView arguments.subject surroundings.today
    let sheet ← Program.ofExcept id (Workbook.ofView view query)
    let output := outputOf surroundings arguments.option query
    makeFile surroundings output
    let saved := some (output.seenFrom surroundings.directory, sheet)
    reporting isBadInput saved do
      Program.say ("Saved Excel report to: ".text ++ output.toText)
      return ⟨0, saved⟩

/-- A program that looks documents up from another directory. -/
def inDirectory {α : Type} (root : Vault.Path) (program : Program Desk α) : Program Desk α := do
  let home := (← Program.get).vault.root
  program.zoom (fun desk => { desk with vault := { desk.vault with root } })
    fun _ desk => { desk with vault := { desk.vault with root := home } }

/-- The directory that a command looks documents up from. -/
def vaultOf (surroundings : Surroundings) (home : Vault.Path) (arguments : Arguments) :
    Except Fault Vault.Path :=
  match arguments.option with
  | .absent => .ok home
  | .emptied => .error .noDirectory
  | .given text =>
    if text.contains '\x00' then .error (.storage .zeroInPath)
    else .ok (Vault.follow surroundings.directory text)

def freezeDocument (surroundings : Surroundings) (arguments : Arguments) :
    Program Desk Finished :=
  reporting isOfDocument none do
    let home := (← Program.get).vault.root
    let root ← Program.ofExcept id (vaultOf surroundings home arguments)
    let failures ← inDirectory root
      (Execution.freezeDocument arguments.subject surroundings.today)
    return .with (if failures = 0 then 0 else 1)

def initLog (surroundings : Surroundings) : Program Desk Finished := do
  Program.say ("Database created successfully at: ".text ++ surroundings.databasePath)
  return .with 0

def withArguments (option : String) (arguments : List Text)
    (command : Arguments → Program Desk Finished) : Program Desk Finished :=
  match readArguments option arguments with
  | .ok arguments => command arguments
  | .error .help => return .with 0
  | .error .usage => return .with 2

def run? (surroundings : Surroundings) (name : Text) (arguments : List Text) :
    Option (Program Desk Finished) :=
  if name = "run_query".text then
    some (withArguments "--date" arguments (runQuery surroundings))
  else if name = "export_report".text then
    some (withArguments "--output" arguments (exportReport surroundings))
  else if name = "freeze_document".text then
    some (withArguments "--vault" arguments (freezeDocument surroundings))
  else if name = "init_db".text then some (initLog surroundings)
  else none

/-- The file that a command works on, if it is one that works on a file. -/
def file? (surroundings : Surroundings) (home : Vault.Path) (name : Text)
    (arguments : List Text) : Option Vault.Path :=
  if name = "freeze_document".text then
    match readArguments "--vault" arguments with
    | .ok arguments =>
      match vaultOf surroundings home arguments with
      | .ok root => some (Vault.follow root arguments.subject)
      | .error _ => none
    | .error _ => none
  else none

end TimeReports.Command

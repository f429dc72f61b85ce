import TimeReports.Command.Basic
import TimeReports.Display.Fields
import TimeReports.Json.Writer

set_option autoImplicit false

/- The command line: the day it is, the name of a command and its arguments. Settings come from the
environment. A request to the service is written as a line of JSON to the standard error stream, and
the reply is read as a line of JSON from standard input: an object with the `status` and the `body`
of the answer. -/
namespace TimeReports.Command

/-- The names of the variables of the environment that decide something. -/
def variableNames : List String :=
  ["HQL_DB_PATH", "HQL_VAULT_DIR", "HARVEST_ACCESS_TOKEN", "HARVEST_ACCOUNT_ID",
    "HARVEST_API_URL", "HARVEST_TIMEOUT_SECONDS", "POLLING_INTERVAL_MINUTES", "HQL_API_KEY",
    "API_HOST", "API_PORT", "API_DEBUG"]

/-- How many pages of a listing are asked for at most. -/
def pageBudget : Nat := 100000

def requestJson (request : Harvest.Request) : Json :=
  Display.fields [("method", .string request.method), ("path", .string request.path),
    ("query", .string request.query), ("body", request.body.getD .null)]

/-- The reply that a line gives. A line that gives none stands for a failure of communication. -/
def replyOf (line : Text) : Harvest.Reply :=
  match Json.ofText line with
  | .ok (.object members) =>
    match Json.member? members "status".text, Json.member? members "body".text with
    | some (.int status), some (.string body) =>
      .answered ⟨status, Harvest.standardPhrase status, Text.utf8 body⟩
    | _, _ => .unreachable "no answer".text
  | _ => .unreachable "no reply".text

/-- The environment, as far as it decides something. -/
def environment : IO (List (Text × Text)) := do
  let found ← variableNames.mapM fun name => return (name, ← IO.getEnv name)
  return found.filterMap fun (name, value) => value.map fun value => (name.text, value.text)

/-- Shows what a program gives notice of. -/
def present : Notice → IO Unit
  | .line text => IO.println (Text.string text)
  | .display _ => return ()
  | .fetching _ => return ()

/-- Runs a program against the service. -/
def perform {σ α : Type} : Program σ α → σ → IO (Outcome α × σ)
  | .done value, state => return (.returned value, state)
  | .fail fault, state => return (.failed fault, state)
  | .spent, state => return (.spent, state)
  | .look next, state => perform (next state) state
  | .put state next, _ => perform next state
  | .tell notice next, state => do
    present notice
    perform next state
  | .ask request next, state => do
    IO.eprintln (Text.string (requestJson request).written)
    let line ← (← IO.getStdin).getLine
    perform (next (replyOf line.text)) state

def written (path : Vault.Path) : String := Text.string (Vault.rooted path)

def readFile? (path : Vault.Path) : IO (Option Text.Bytes) :=
  try return some (← IO.FS.readBinFile (written path)).toList
  catch _ => return none

/-- Makes the directories of storage that are new and writes the files that differ from what they
were. -/
def writeFiles (before after : Vault) : IO Unit := do
  after.directories.forM fun path =>
    if before.directories.contains path then return ()
    else IO.FS.createDirAll (written path)
  after.files.forM fun (path, bytes) =>
    if before.bytesAt? path = some bytes then return ()
    else IO.FS.writeBinFile (written path) ⟨bytes.toArray⟩

/-- Ends a command: saves its workbook, one line for each cell, and gives its exit code. -/
def finish : Outcome Finished → IO UInt32
  | .returned finished => do
    match finished.saved with
    | some (path, sheet) =>
      IO.FS.writeFile (written path)
        (Text.string (Text.join ['\n'] (sheet.cells.map (·.line))))
    | none => pure ()
    return finished.exit.toUInt32
  | .failed fault => do
    IO.eprintln (Text.string fault.message)
    return 1
  | .spent => do
    IO.eprintln "A listing has too many pages."
    return 1

def runNamed (today : Date) (settings : Settings) (directory : Vault.Path) (name : Text)
    (arguments : List Text) : IO UInt32 := do
  let surroundings : Surroundings :=
    ⟨today, directory, settings.outputDirectory, settings.databasePath⟩
  let root := Vault.follow directory settings.vaultDirectory
  match run? surroundings name arguments with
  | none => do
    IO.eprintln "There is no such command."
    return 2
  | some program => do
    let files ← (file? surroundings root name arguments).toList.filterMapM fun path => do
      return (← readFile? path).map fun bytes => (path, bytes)
    let vault : Vault := ⟨root, [root, directory], files, .none⟩
    let client := settings.client pageBudget none
    let (outcome, desk) ← perform program ⟨Session.start client none, vault⟩
    writeFiles vault desk.vault
    finish outcome

end TimeReports.Command

open TimeReports

/-- Runs the command that the arguments name. -/
def main (arguments : List String) : IO UInt32 := do
  let directory := (← IO.currentDir).toString.text
  match Settings.load directory (← Command.environment), arguments.map String.text with
  | .error fault, _ => do
    IO.eprintln (Text.string fault.message)
    return 1
  | .ok settings, today :: name :: rest =>
    match Calendar.readDate today with
    | .ok today => Command.runNamed today settings (Vault.follow [] directory) name rest
    | .error fault => do
      IO.eprintln (Text.string fault.message)
      return 2
  | .ok _, _ => do
    IO.eprintln "The day and a command are needed."
    return 2

import TimeReports.Execution.Basic
import TimeReports.RequestLog.Basic
import TimeReports.Service.Incoming
import TimeReports.Session.Poller
import TimeReports.Settings

set_option autoImplicit false

namespace TimeReports

structure Service where
  desk : Desk
  log : RequestLog.Tables

namespace Service

open Display (fields)

variable [Console]

def inSession {α : Type} (program : SessionProgram α) : Program Service α :=
  (Desk.inSession program).zoom (·.desk) fun service desk => { service with desk }

def inDesk {α : Type} (program : Program Desk α) : Program Service α :=
  program.zoom (·.desk) fun service desk => { service with desk }

def session : Program Service Session := do return (← Program.get).desk.session

def health : Program Service Answer := do
  let configured := (← session).client.hasCredentials
  let state (status : String) (error : Json) : Json :=
    fields [("status", .string status.text), ("version", .string Settings.version),
      ("credentials_configured", .bool configured), ("error", error)]
  if configured then return .content 200 (state "healthy" .null)
  else
    return .content 503
      (state "unhealthy" (.string "Harvest API credentials are not set".text))

/-- The problem of a failure of the time tracking service. -/
def harvestProblem (failure : ApiFailure) : Problem where
  status := 502
  error := failure.message
  code := .harvestApiError
  details :=
    match failure.status with
    | none => []
    | some 0 => []
    | some status => ["Harvest status: ".text ++ Text.intDigits status]

def answering {α : Type} (program : SessionProgram α) (next : α → Program Service Answer) :
    Program Service Answer := do
  match ← (inSession program).attempt with
  | .ok value => next value
  | .error fault =>
    match fault.apiFailure? with
    | some failure => return .problem (harvestProblem failure)
    | none => return .crashed

def entryJson (entry : TimeEntry) : Json :=
  fields [("id", .int entry.id), ("project", .string entry.project.name),
    ("task", .string entry.task.name), ("spent_date", .string entry.spentDate.iso),
    ("hours", .float entry.hours), ("is_running", .bool entry.isRunning)]

/-- What a request did to the timer. -/
inductive Action where
  | started
  | stopped
  | selectProject
  deriving DecidableEq, Repr

def Action.name : Action → Text
  | .started => "started".text
  | .stopped => "stopped".text
  | .selectProject => "select_project".text

/-- The running timer as the service shows it. -/
def timerAnswer (session : Session) (action : Option Action) : Answer :=
  success (fields [("running", .bool session.runningTimer.isSome),
    ("status_text", .string session.statusText),
    ("entry", session.runningTimer.elim .null entryJson),
    ("action", action.elim .null fun action => .string action.name)])

def getTimer : Program Service Answer :=
  answering Session.refreshRunningTimer fun _ => do return timerAnswer (← session) none

def startTimer (request : StartRequest) (today : Date) : Program Service Answer :=
  answering (Session.startTimer request.project request.task today) fun _ => do
    return timerAnswer (← session) (some .started)

/-- The problem of stopping where nothing runs. -/
def noRunningTimer : Problem :=
  ⟨409, "No timer is currently running.".text, .noRunningTimer, []⟩

def stopTimer : Program Service Answer :=
  answering Session.toggleTimer fun stopped => do
    if stopped.isSome then return timerAnswer (← session) (some .stopped)
    else return .problem noRunningTimer

/-- Stops the running timer, or says that a project is to be picked. -/
def toggleTimer : Program Service Answer :=
  answering Session.toggleTimer fun stopped => do
    return timerAnswer (← session) (some (if stopped.isSome then .stopped else .selectProject))

def projectJson (project : Project) : Json :=
  fields [("id", .int project.id), ("name", .string project.name),
    ("client_name", .string (project.client.elim "No Client".text (·.name)))]

def listProjects (refresh : Bool) (today : Date) : Program Service Answer :=
  answering (Session.refreshProjects refresh today) fun projects =>
    return success (.array (projects.map projectJson))

def taskJson (assignment : TaskAssignment) : Json :=
  fields [("id", .int assignment.task.id), ("name", .string assignment.task.name)]

def noTasks : Problem := ⟨404, "No tasks found for this project.".text, .noTasks, []⟩

def listTasks (project : Int) (today : Date) : Program Service Answer :=
  answering (Session.projectTasks project today) fun tasks =>
    if tasks.isEmpty then return .problem noTasks
    else return success (.array (tasks.map taskJson))

end Service
end TimeReports

import TimeReports.Harvest.Listing
import TimeReports.Text.LowerCase

set_option autoImplicit false

namespace TimeReports

open Harvest

structure Session where
  client : Client
  user : Option Int
  projects : List Project
  runningTimer : Option TimeEntry

/-- A session in which nothing is known yet. -/
def Session.start (client : Client) (user : Option Int) : Session := ⟨client, user, [], none⟩

abbrev SessionProgram := Program Session

namespace Session

variable [Console]

/-- Looks up the user; a failed lookup is reported and forgets the user. -/
def refreshUser : SessionProgram (Option Int) := do
  let session ← Program.get
  match ← session.client.currentUser.attempt with
  | .ok user =>
    Program.modify fun session => { session with user := some user.id }
    return some user.id
  | .error fault =>
    match fault.apiFailure? with
    | some failure =>
      Program.say ("Could not retrieve Harvest User ID: ".text ++ failure.message)
      Program.modify fun session => { session with user := none }
      return none
    | none => .fail fault

def userUnknown : ApiFailure :=
  ⟨"Harvest User ID not found. Cannot fetch your time entries.".text, none⟩

/-- The user, looked up when not yet known. -/
def ensureUser : SessionProgram Int := do
  if (← Program.get).user.isNone then
    let _ ← refreshUser
  match (← Program.get).user with
  | some user => return user
  | none => .fail (.harvest userUnknown)

/-- The user's time entries on days of a range, for a report. -/
def fetchEntries (first last : Date) : SessionProgram (List TimeEntry) := do
  let user ← ensureUser.recover fun fault =>
    match fault.apiFailure? with
    | some failure => .fail (.fetch failure)
    | none => .fail fault
  (← Program.get).client.entriesOn user first last

/-- Projects with one more: a project with its number is replaced where it stands. -/
def setProject (project : Project) : List Project → List Project
  | [] => [project]
  | other :: rest =>
    if other.id = project.id then project :: rest else other :: setProject project rest

/-- Projects with one more, unless one with its number is there. -/
def addProject (projects : List Project) (project : Project) : List Project :=
  if projects.any (·.id == project.id) then projects else projects ++ [project]

/-- Projects by name, in small letters; equal names keep their order. -/
def byName (projects : List Project) : List Project :=
  projects.mergeSort fun left right => Text.atMost (Text.lower left.name) (Text.lower right.name)

/-- Asks for the projects to pick from: those that the user manages and those tracked recently. -/
def collectProjects (today : Date) : SessionProgram (List Project) := do
  let managed ← (← Program.get).client.managedProjects
  let listed := managed.foldl (fun projects project => setProject project projects) []
  if (← Program.get).user.isNone then
    let _ ← refreshUser
  let session ← Program.get
  match session.user with
  | none => return byName listed
  | some user =>
    let recent ← session.client.recentProjects user today
    return byName (recent.foldl addProject listed)

/-- The projects to pick from, asked for when there are none yet or when it is demanded. -/
def refreshProjects (force : Bool) (today : Date) : SessionProgram (List Project) := do
  let session ← Program.get
  if !session.projects.isEmpty && !force then return session.projects
  else
    let projects ← collectProjects today
    Program.modify fun session => { session with projects }
    return projects

/-- The project with a number, among those to pick from. -/
def findProject? (session : Session) (project : Int) : Option Project :=
  session.projects.find? (·.id == project)

def projectTasks (project : Int) (today : Date) : SessionProgram (List TaskAssignment) := do
  if ((← Program.get).findProject? project).isNone then
    let _ ← refreshProjects false today
  let session ← Program.get
  session.client.tasksOf ((session.findProject? project).getD ⟨project, [], none, none, none⟩)

/-- Asks for the running timer, when the user is known. -/
def refreshRunningTimer : SessionProgram (Option TimeEntry) := do
  let session ← Program.get
  match session.user with
  | none => return none
  | some user =>
    let running ← session.client.runningEntries user
    Program.modify fun session => { session with runningTimer := running.head? }
    return running.head?

/-- The running timer in words. -/
def statusText (session : Session) : Text :=
  match session.runningTimer with
  | none => "Harvest: No timer running".text
  | some timer =>
    "Harvest: ".text ++ timer.project.name ++ " - ".text ++ timer.task.name ++ " (".text
      ++ Number.fixed 2 timer.hours ++ "h)".text

/-- Starts a timer: restarts the first entry of today for the project and task, or else creates
one. -/
def startTimer (project task : Int) (today : Date) : SessionProgram TimeEntry := do
  let user ← ensureUser
  let client := (← Program.get).client
  let entries ← client.entriesOn user today today
  let entry ←
    match entries.find? fun entry => entry.project.id == project && entry.task.id == task with
    | some existing => do
      let entry ← client.restartEntry existing.id
      Program.say "Harvest timer restarted!".text
      pure entry
    | none => do
      let entry ← client.createEntry project task today
      Program.say "Harvest timer started!".text
      pure entry
  let _ ← refreshRunningTimer
  return entry

def stopTimer : SessionProgram (Option TimeEntry) := do
  let session ← Program.get
  match session.runningTimer with
  | none => return none
  | some timer =>
    let entry ← session.client.stopEntry timer.id
    Program.say "Harvest timer stopped.".text
    let _ ← refreshRunningTimer
    return some entry

/-- Stops the timer that the service says is running, if there is one. -/
def toggleTimer : SessionProgram (Option TimeEntry) := do
  let _ ← refreshRunningTimer
  stopTimer

end Session
end TimeReports

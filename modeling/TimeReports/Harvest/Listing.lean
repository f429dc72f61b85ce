import TimeReports.Harvest.Client
import TimeReports.Record.Basic

set_option autoImplicit false

namespace TimeReports.Harvest

variable {σ α : Type} [Console]

/-- Narrows a body to a record. The line about one that is none goes on with what is wrong, in
characters that every console takes. -/
def narrow (reader : Record.Reader α) (what : String) (body : Json) : Program σ α :=
  match reader body with
  | .ok value => .done value
  | .error _ =>
    .tell (.line ("  Unexpected ".text ++ what.text ++ " payload:".text))
      (.fail (.harvest
        ⟨"Unexpected ".text ++ what.text ++ " response from Harvest API.".text, none⟩))

/-- The items of a listing from a page on, within a budget of pages. -/
def pagesFrom (page : Nat → Program σ (Page α)) (endsWhenEmpty : Bool) :
    Nat → Nat → Program σ (List α)
  | 0, _ => .spent
  | budget + 1, number => do
    let result ← page number
    if result.totalPages ≤ number || (endsWhenEmpty && result.items.isEmpty) then
      return result.items
    else
      let others ← pagesFrom page endsWhenEmpty budget (number + 1)
      return result.items ++ others

namespace Client

/-- The most time entries that a page holds. -/
def entriesPerPage : Nat := 2000

/-- A page of time entries. Its number and size are fields of their own behind the filters, which
have none of these names. -/
def entryPage (client : Client) (filters : List (Text × Json)) (number : Nat) :
    Program σ (Page TimeEntry) := do
  let body ← client.get "time_entries".text
    (filters ++ [("page".text, .int number), ("per_page".text, .int entriesPerPage)])
  narrow Page.entries "time entry" body

def entries (client : Client) (filters : List (Text × Json)) : Program σ (List TimeEntry) :=
  pagesFrom (client.entryPage filters) true client.pageBudget 1

/-- The user whose credentials are in use. -/
def currentUser (client : Client) : Program σ User := do
  let body ← client.get "users/me".text []
  narrow User.ofJson "user" body

def asFetchFault : Fault → Fault
  | .harvest failure => .fetch failure
  | fault => fault

def entriesOn (client : Client) (user : Int) (first last : Date) : Program σ (List TimeEntry) :=
  (client.entries
    [("from".text, .string first.iso), ("to".text, .string last.iso),
      ("user_id".text, .int user)]).recover
    fun fault => .fail (asFetchFault fault)

def runningEntries (client : Client) (user : Int) : Program σ (List TimeEntry) :=
  client.entries [("is_running".text, .string "true".text), ("user_id".text, .int user)]

def projectPage (client : Client) (number : Nat) : Program σ (Page Project) := do
  let body ← client.get "projects".text
    [("is_active".text, .string "true".text), ("page".text, .int number)]
  narrow Page.projects "project" body

def managedProjects (client : Client) : Program σ (List Project) :=
  pagesFrom client.projectPage false client.pageBudget 1

def projectOf (entry : TimeEntry) : Project :=
  ⟨entry.project.id, entry.project.name, none, entry.client, none⟩

/-- The projects of entries, each as its first entry tells. -/
def projectsOf (entries : List TimeEntry) : List Project :=
  entries.foldl (fun projects entry =>
    if projects.any (·.id == entry.project.id) then projects
    else projects ++ [projectOf entry]) []

/-- How many days ago a project counts as recent. -/
def recentDays : Nat := 30

def recentProjects (client : Client) (user : Int) (today : Date) : Program σ (List Project) :=
  match today.addDays? (-(recentDays : Int)) with
  | none => .fail (.days .outsideCalendar)
  | some since => do
    let entries ← client.entries
      [("from".text, .string since.iso), ("user_id".text, .int user)]
    return projectsOf entries

def taskPage (client : Client) (project : Int) (number : Nat) :
    Program σ (Page TaskAssignment) := do
  let body ← client.get
    ("projects/".text ++ Text.intDigits project ++ "/task_assignments".text)
    [("page".text, .int number)]
  narrow Page.tasks "task assignment" body

/-- The active tasks of a project: those that it came with, or else those that are listed. -/
def tasksOf (client : Client) (project : Project) : Program σ (List TaskAssignment) :=
  match project.tasks with
  | some (task :: others) => return (task :: others).filter (·.isActive)
  | _ => do
    let tasks ← pagesFrom (client.taskPage project.id) false client.pageBudget 1
    return tasks.filter (·.isActive)

def createEntry (client : Client) (project task : Int) (day : Date) : Program σ TimeEntry := do
  let body ← client.send "POST".text (Client.targetOf "time_entries".text [])
    (some (.object [("project_id".text, .int project), ("task_id".text, .int task),
      ("spent_date".text, .string day.iso)]))
  narrow TimeEntry.ofJson "time entry" body

def changeEntry (client : Client) (entry : Int) (change : String) : Program σ TimeEntry := do
  let body ← client.send "PATCH".text
    (Client.targetOf ("time_entries/".text ++ Text.intDigits entry ++ .char '/' :: change.text) [])
    none
  narrow TimeEntry.ofJson "time entry" body

def restartEntry (client : Client) (entry : Int) : Program σ TimeEntry :=
  client.changeEntry entry "restart"

def stopEntry (client : Client) (entry : Int) : Program σ TimeEntry :=
  client.changeEntry entry "stop"

end Client
end TimeReports.Harvest

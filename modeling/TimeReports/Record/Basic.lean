import TimeReports.Record.DateField

set_option autoImplicit false

namespace TimeReports

open Record

/-- Something with a number and a name: a project, a task or a client. -/
structure NamedRef where
  id : Int
  name : Text
  deriving DecidableEq, Repr

/-- A span of tracked work. -/
structure TimeEntry where
  id : Int
  spentDate : Date
  hours : Float
  project : NamedRef
  task : NamedRef
  client : Option NamedRef
  notes : Option Text
  isRunning : Bool
  hours_nonneg : 0 ≤ hours

structure TaskAssignment where
  id : Int
  task : NamedRef
  isActive : Bool
  deriving DecidableEq, Repr

/-- A project that time can be tracked on. -/
structure Project where
  id : Int
  name : Text
  code : Option Text
  client : Option NamedRef
  tasks : Option (List TaskAssignment)
  deriving DecidableEq, Repr

/-- The user whose credentials are in use. -/
structure User where
  id : Int
  firstName : Text
  lastName : Text
  email : Option Text
  deriving DecidableEq, Repr

structure Page (α : Type) where
  items : List α
  totalPages : Int
  number : Int
  deriving DecidableEq, Repr

def NamedRef.ofJson : Reader NamedRef := ofMembers fun members =>
  ((Checked.apply (.ok NamedRef.mk) (required members "id" int)).apply
    (required members "name" text))

namespace TimeEntry

/-- Narrows to hours, which are neither negative nor undefined. -/
def hoursField : Reader { x : Float // 0 ≤ x } := fun value => do
  let x ← float value
  if h : 0 ≤ x then .ok ⟨x, h⟩ else .fail .tooSmall

def ofJson : Reader TimeEntry := ofMembers fun members =>
  let entry (id : Int) (spentDate : Date) (hours : { x : Float // 0 ≤ x }) (project task : NamedRef)
      (client : Option NamedRef) (notes : Option Text) (isRunning : Bool) : TimeEntry :=
    ⟨id, spentDate, hours.val, project, task, client, notes, isRunning, hours.property⟩
  (((((((Checked.apply (.ok entry) (required members "id" int)).apply
    (required members "spent_date" date)).apply
    (required members "hours" hoursField)).apply
    (required members "project" NamedRef.ofJson)).apply
    (required members "task" NamedRef.ofJson)).apply
    (optional members "client" (orNull NamedRef.ofJson) none)).apply
    (optional members "notes" (orNull text) none)).apply
    (optional members "is_running" bool false)

end TimeEntry

def TaskAssignment.ofJson : Reader TaskAssignment := ofMembers fun members =>
  ((Checked.apply (.ok TaskAssignment.mk) (required members "id" int)).apply
    (required members "task" NamedRef.ofJson)).apply
    (optional members "is_active" bool true)

def Project.ofJson : Reader Project := ofMembers fun members =>
  ((((Checked.apply (.ok Project.mk) (required members "id" int)).apply
    (required members "name" text)).apply
    (optional members "code" (orNull text) none)).apply
    (optional members "client" (orNull NamedRef.ofJson) none)).apply
    (optional members "task_assignments" (orNull (listOf TaskAssignment.ofJson)) none)

def User.ofJson : Reader User := ofMembers fun members =>
  (((Checked.apply (.ok User.mk) (required members "id" int)).apply
    (optional members "first_name" text [])).apply
    (optional members "last_name" text [])).apply
    (optional members "email" (orNull text) none)

/-- Narrows to a page whose items are in the member of that name. -/
def Page.ofJson {α : Type} (name : String) (item : Reader α) : Reader (Page α) :=
  ofMembers fun members =>
    ((Checked.apply (.ok Page.mk) (optional members name (listOf item) [])).apply
      (optional members "total_pages" int 1)).apply
      (optional members "page" int 1)

def Page.entries : Reader (Page TimeEntry) := Page.ofJson "time_entries" TimeEntry.ofJson

def Page.projects : Reader (Page Project) := Page.ofJson "projects" Project.ofJson

def Page.tasks : Reader (Page TaskAssignment) :=
  Page.ofJson "task_assignments" TaskAssignment.ofJson

end TimeReports

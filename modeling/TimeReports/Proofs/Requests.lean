import TimeReports.Harvest.Listing
import TimeReports.Proofs.Forms
import TimeReports.Proofs.Literals
import TimeReports.Proofs.Moments

set_option autoImplicit false

namespace TimeReports.Harvest

open Text

/-- A field of the query of a request, read as a form. -/
def Request.field? (request : Request) (name : String) : Option Text :=
  (formFields request.query).lookup name.text

def Request.readsEntries (request : Request) : Prop :=
  request.method = "GET".text ∧ request.path = "/v2/time_entries".text

instance (request : Request) : Decidable request.readsEntries :=
  inferInstanceAs (Decidable (_ ∧ _))

/-- What a request asks for. Pages of listings are told by their number as it is written. -/
inductive Subject where
  /-- The user whose credentials are in use. -/
  | user
  /-- A page of the projects that the user manages. -/
  | managed (page : Option Text)
  /-- A page of the running time entries. -/
  | running (page : Option Text)
  /-- A page of the time entries since a day. -/
  | recent (page : Option Text)
  | other
  deriving DecidableEq

/-- What a request asks for, by its method, its path and the fields of its query. -/
def Request.subject (request : Request) : Subject :=
  if request.readsEntries then
    if request.field? "is_running" = some "true".text then .running (request.field? "page")
    else if request.field? "to" = none then .recent (request.field? "page")
    else .other
  else if request.method = "GET".text ∧ request.path = "/v2/users/me".text then .user
  else if request.method = "GET".text ∧ request.path = "/v2/projects".text then
    .managed (request.field? "page")
  else .other

namespace Client

def reading (endpoint : Text) (params : List (Text × Json)) : Request :=
  ⟨"GET".text, (targetOf endpoint params).shownPath, (targetOf endpoint params).shownQuery, none⟩

def readingEntries (filters : List (Text × Json)) (number : Nat) : Request :=
  reading "time_entries".text
    (filters ++ [("page".text, .int number), ("per_page".text, .int entriesPerPage)])

def runningFilters (user : Int) : List (Text × Json) :=
  [("is_running".text, .string "true".text), ("user_id".text, .int user)]

/-- The filters of the time entries of a user since a day. -/
def recentFilters (since : Date) (user : Int) : List (Text × Json) :=
  [("from".text, .string since.iso), ("user_id".text, .int user)]

/-- The filters of the time entries of a user on days of a range. -/
def rangeFilters (first last : Date) (user : Int) : List (Text × Json) :=
  [("from".text, .string first.iso), ("to".text, .string last.iso), ("user_id".text, .int user)]

/-- The request for the user whose credentials are in use. -/
def readingUser : Request := reading "users/me".text []

/-- The request for a page of the projects that the user manages. -/
def readingManaged (number : Nat) : Request :=
  reading "projects".text
    [("is_active".text, .string "true".text), ("page".text, .int number)]

def readingTasks (project : Int) (number : Nat) : Request :=
  reading ("projects/".text ++ intDigits project ++ "/task_assignments".text)
    [("page".text, .int number)]

theorem whole_iso (date : Date) : Whole date.iso := by
  intro c member
  rcases Calendar.mem_iso member with rfl | ⟨digit, rfl⟩
  · rfl
  · have each : ∀ n < 10, (digitChar n).isSurrogate = false := by decide
    have one := each (digit % 10) (Nat.mod_lt _ (by decide))
    simpa only [digitChar, Nat.mod_mod] using one

theorem path_reading {endpoint : Text} (whole : Whole endpoint) (plain : .char '%' ∉ endpoint)
    (params : List (Text × Json)) : (reading endpoint params).path = basePath ++ endpoint := by
  have base : Whole basePath ∧ .char '%' ∉ basePath ∧ basePath ≠ [] := by
    refine ⟨whole_text _, ?_, ?_⟩ <;> decide
  simp only [reading, targetOf, Address.Target.shownPath, List.isEmpty_iff,
    List.append_eq_nil_iff, base.2.2, false_and, ↓reduceIte]
  exact percentDecode_of_not_mem (whole_append base.1 whole)
    (fun inside => (List.mem_append.mp inside).elim base.2.1 plain)

theorem field?_reading {endpoint : Text} {params : List (Text × Json)}
    (some_field : fields params ≠ [])
    (whole : ∀ field ∈ fields params, Whole field.1 ∧ Whole field.2) (name : String) :
    (reading endpoint params).field? name = (fields params).lookup name.text := by
  rw [Request.field?, show (reading endpoint params).query = formQuery (fields params) from rfl,
    formFields_formQuery some_field whole]

variable {filters : List (Text × Json)} {number : Nat} {user : Int} {first last since : Date}

theorem readsEntries_readingEntries : (readingEntries filters number).readsEntries :=
  ⟨rfl, path_reading (whole_text _) (by decide) _⟩

theorem field?_readingEntries
    (whole : ∀ field ∈ fields filters, Whole field.1 ∧ Whole field.2) (name : String) :
    (readingEntries filters number).field? name =
      (fields filters ++ [("page".text, natDigits number), ("per_page".text, "2000".text)]).lookup
        name.text := by
  have written : fields (filters ++ [("page".text, .int number),
      ("per_page".text, .int entriesPerPage)]) =
        fields filters ++ [("page".text, natDigits number), ("per_page".text, "2000".text)] := by
    rw [fields, List.flatMap_append]
    rfl
  rw [readingEntries, field?_reading, written]
  · simp [written]
  · rw [written]
    refine List.forall_mem_append.mpr ⟨whole, ?_⟩
    simp only [List.forall_mem_cons, whole_text, whole_natDigits, and_self, List.not_mem_nil,
      false_implies, implies_true]

theorem whole_runningFilters : ∀ field ∈ fields (runningFilters user),
    Whole field.1 ∧ Whole field.2 := by
  change ∀ field ∈ [("is_running".text, "true".text), ("user_id".text, intDigits user)], _
  simp only [List.forall_mem_cons, whole_text, whole_intDigits, and_self, List.not_mem_nil,
    false_implies, implies_true]

theorem whole_recentFilters : ∀ field ∈ fields (recentFilters since user),
    Whole field.1 ∧ Whole field.2 := by
  change ∀ field ∈ [("from".text, since.iso), ("user_id".text, intDigits user)], _
  simp only [List.forall_mem_cons, whole_text, whole_iso, whole_intDigits, and_self,
    List.not_mem_nil, false_implies, implies_true]

theorem whole_rangeFilters : ∀ field ∈ fields (rangeFilters first last user),
    Whole field.1 ∧ Whole field.2 := by
  change ∀ field ∈
    [("from".text, first.iso), ("to".text, last.iso), ("user_id".text, intDigits user)], _
  simp only [List.forall_mem_cons, whole_text, whole_iso, whole_intDigits, and_self,
    List.not_mem_nil, false_implies, implies_true]

theorem subject_running : (readingEntries (runningFilters user) number).subject =
    .running (some (natDigits number)) := by
  rw [Request.subject, if_pos readsEntries_readingEntries]
  simp only [field?_readingEntries whole_runningFilters]
  rfl

theorem subject_recent : (readingEntries (recentFilters since user) number).subject =
    .recent (some (natDigits number)) := by
  rw [Request.subject, if_pos readsEntries_readingEntries]
  simp only [field?_readingEntries whole_recentFilters]
  rfl

theorem subject_range : (readingEntries (rangeFilters first last user) number).subject =
    .other := by
  rw [Request.subject, if_pos readsEntries_readingEntries]
  simp only [field?_readingEntries whole_rangeFilters]
  rfl

theorem user_running : (readingEntries (runningFilters user) number).field? "user_id" =
    some (intDigits user) := by
  rw [field?_readingEntries whole_runningFilters]
  rfl

theorem user_recent : (readingEntries (recentFilters since user) number).field? "user_id" =
    some (intDigits user) := by
  rw [field?_readingEntries whole_recentFilters]
  rfl

theorem user_range : (readingEntries (rangeFilters first last user) number).field? "user_id" =
    some (intDigits user) := by
  rw [field?_readingEntries whole_rangeFilters]
  rfl

/-- A path that is not that of the time entries. -/
theorem not_readsEntries {request : Request} (other : request.path ≠ "/v2/time_entries".text) :
    ¬ request.readsEntries :=
  fun reads => other reads.2

theorem path_user : readingUser.path = "/v2/users/me".text :=
  path_reading (whole_text _) (by decide) _

theorem readsEntries_user : ¬ readingUser.readsEntries :=
  not_readsEntries (by rw [path_user]; decide)

theorem subject_user : readingUser.subject = .user := by
  rw [Request.subject, if_neg readsEntries_user, if_pos ⟨rfl, path_user⟩]

theorem ne_readingUser {request : Request} (other : request.subject ≠ .user) :
    request ≠ readingUser :=
  fun same => other (same ▸ subject_user)

theorem readingEntries_ne_readingUser {filters : List (Text × Json)} :
    readingEntries filters number ≠ readingUser :=
  fun same => readsEntries_user (same ▸ readsEntries_readingEntries)

theorem path_managed : (readingManaged number).path = "/v2/projects".text :=
  path_reading (whole_text _) (by decide) _

theorem readsEntries_managed : ¬ (readingManaged number).readsEntries :=
  not_readsEntries (by rw [path_managed]; decide)

theorem subject_managed : (readingManaged number).subject =
    .managed (some (natDigits number)) := by
  have written : fields [("is_active".text, .string "true".text), ("page".text, .int number)] =
      [("is_active".text, "true".text), ("page".text, natDigits number)] := rfl
  have page : (readingManaged number).field? "page" = some (natDigits number) := by
    rw [readingManaged, field?_reading]
    · rw [written]
      rfl
    · rw [written]
      exact List.cons_ne_nil _ _
    · rw [written]
      simp only [List.forall_mem_cons, whole_text, whole_natDigits, and_self, List.not_mem_nil,
        false_implies, implies_true]
  rw [Request.subject, if_neg readsEntries_managed,
    if_neg (by rw [path_managed]; exact fun both => absurd both.2 (by decide)),
    if_pos ⟨rfl, path_managed⟩, page]

theorem path_tasks {project : Int} : (readingTasks project number).path =
    "/v2/projects/".text ++ intDigits project ++ "/task_assignments".text := by
  have base : basePath ++ "projects/".text = "/v2/projects/".text := by decide
  rw [readingTasks, path_reading, ← base, List.append_assoc, List.append_assoc, List.append_assoc]
  · exact whole_append (whole_append (whole_text _) (whole_intDigits _)) (whole_text _)
  · simp only [List.mem_append, not_or]
    exact ⟨⟨by decide, percent_not_mem_intDigits project⟩, by decide⟩

theorem readingManaged_ne_readingUser : readingManaged number ≠ readingUser :=
  ne_readingUser (subject_managed ▸ nofun)

/-- The path of the tasks of a project is longer than the paths that a subject has. -/
theorem path_tasks_ne {project : Int} {path : Text} (short : path.length < 30) :
    (readingTasks project number).path ≠ path := by
  intro same
  have long := congrArg List.length same
  have first : "/v2/projects/".text.length = 13 := by decide
  have last : "/task_assignments".text.length = 17 := by decide
  rw [path_tasks, List.length_append, List.length_append, first, last] at long
  omega

theorem readsEntries_tasks {project : Int} : ¬ (readingTasks project number).readsEntries :=
  not_readsEntries (path_tasks_ne (by decide))

theorem subject_tasks {project : Int} : (readingTasks project number).subject = .other := by
  rw [Request.subject, if_neg readsEntries_tasks,
    if_neg fun both => path_tasks_ne (by decide) both.2,
    if_neg fun both => path_tasks_ne (by decide) both.2]

theorem readingTasks_ne_readingUser {project : Int} :
    readingTasks project number ≠ readingUser :=
  ne_readingUser (subject_tasks ▸ nofun)

/-- Only requests that read have a subject of their own. -/
theorem subject_of_method {request : Request} (writes : request.method ≠ "GET".text) :
    ¬ request.readsEntries ∧ request.subject = .other := by
  have noEntries : ¬ request.readsEntries := fun reads => writes reads.1
  refine ⟨noEntries, ?_⟩
  rw [Request.subject, if_neg noEntries, if_neg fun both => writes both.1,
    if_neg fun both => writes both.1]

theorem ne_readingUser_of_method {request : Request} (writes : request.method ≠ "GET".text) :
    request ≠ readingUser :=
  ne_readingUser ((subject_of_method writes).2 ▸ nofun)

end Client

section Replies

open Program

variable [Console] {σ α : Type} {reader : Record.Reader α} {what : String} {reply : Reply}
  {holds : List Exchange → σ → Prop} {post : Outcome α → List Exchange → σ → Prop}
  {past : List Exchange} {state : σ}

def readAs (reader : Record.Reader α) (what : String) (reply : Reply) : Outcome α :=
  (((Client.received reply).bind (narrow reader what) : Program Unit α).run () []).outcome

theorem assures_received : ((Client.received reply).bind (narrow reader what)).Assures holds post
    past state ↔ post (readAs reader what reply) past state := by
  have narrowed (body : Json) : (narrow reader what body : Program σ α).Assures holds post past
      state ↔ post ((narrow reader what body : Program Unit α).run () []).outcome past state := by
    unfold narrow
    cases reader body <;> rfl
  rw [readAs, run_bind]
  cases reply with
  | answered response =>
    simp only [Client.received, Client.bodyOf, Client.valueOf]
    cases Json.ofBytes response.body with
    | ok value =>
      cases response.isSuccess
      · rfl
      · exact narrowed value
    | error fault =>
      cases fault <;> cases response.isSuccess <;> rfl
  | timedOut => rfl
  | unreachable message =>
    simp only [Client.received, say]
    cases Console.refusal? _ <;> rfl
  | broke fault => rfl

theorem readAs_ne_spent (reply : Reply) :
    readAs reader what reply ≠ .spent := by
  have narrowed (body : Json) :
      ((narrow reader what body : Program Unit α).run () []).outcome ≠ .spent := by
    unfold narrow
    cases reader body with
    | ok record =>
      intro same
      cases same
    | error faults => exact Outcome.failed_ne_spent _
  rw [readAs]
  cases reply with
  | answered response =>
    simp only [Client.received, Client.bodyOf, Client.valueOf]
    cases Json.ofBytes response.body with
    | ok value =>
      cases response.isSuccess with
      | false => exact Outcome.failed_ne_spent _
      | true => exact narrowed value
    | error fault => cases fault <;> cases response.isSuccess <;> exact Outcome.failed_ne_spent _
  | timedOut => exact Outcome.failed_ne_spent _
  | unreachable message =>
    simp only [Client.received, say]
    cases Console.refusal? _ <;> exact Outcome.failed_ne_spent _
  | broke fault => exact Outcome.failed_ne_spent _

/-- The failure of a request without credentials. -/
def noCredentials : Fault := .harvest ⟨"Harvest API credentials are not set.".text, none⟩

/-- Whether a program, when there are credentials, sends a request and ends as `read` says of the
reply, and without them fails at once. It leaves the state alone. -/
def Sends (credentials : Bool) (request : Request) (read : Reply → Outcome α)
    (program : Program σ α) : Prop :=
  ∀ (holds : List Exchange → σ → Prop) (post : Outcome α → List Exchange → σ → Prop) past state,
    program.Assures holds post past state ↔
      if credentials then
        holds past state ∧ ∀ reply, post (read reply) (past ++ [⟨request, reply⟩]) state
      else post (.failed noCredentials) past state

theorem sends_send (client : Client) (method : Text) (target : Address.Target)
    (body : Option Json) (reader : Record.Reader α) (what : String) :
    Sends client.hasCredentials ⟨method, target.shownPath, target.shownQuery, body⟩
      (readAs reader what) ((client.send method target body : Program σ Json).bind
        (narrow reader what)) := by
  intro holds post past state
  unfold Client.send
  split
  · simp only [Program.bind, assures_ask, assures_received]
  · rfl

theorem sends_currentUser (client : Client) : Sends client.hasCredentials
    Client.readingUser (readAs User.ofJson "user")
    (client.currentUser : Program σ User) :=
  sends_send client _ _ none User.ofJson "user"

theorem sends_entryPage (client : Client) (filters : List (Text × Json)) (number : Nat) :
    Sends client.hasCredentials (Client.readingEntries filters number)
      (readAs Page.entries "time entry")
      (client.entryPage filters number : Program σ (Page TimeEntry)) :=
  sends_send client _ _ none Page.entries "time entry"

theorem sends_projectPage (client : Client) (number : Nat) : Sends client.hasCredentials
    (Client.readingManaged number) (readAs Page.projects "project")
    (client.projectPage number : Program σ (Page Project)) :=
  sends_send client _ _ none Page.projects "project"

theorem sends_taskPage (client : Client) (project : Int) (number : Nat) :
    Sends client.hasCredentials (Client.readingTasks project number)
      (readAs Page.tasks "task assignment")
      (client.taskPage project number : Program σ (Page TaskAssignment)) :=
  sends_send client _ _ none Page.tasks "task assignment"

end Replies
end TimeReports.Harvest

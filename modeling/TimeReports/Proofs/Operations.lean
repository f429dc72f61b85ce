import TimeReports.Proofs.Console
import TimeReports.Proofs.Pages
import TimeReports.Session.Poller

set_option autoImplicit false

namespace TimeReports.Session

open Harvest Program

/-- The user of a session, or the failure of an operation that needs one. -/
def knownUser : SessionProgram Int := do
  match (← Program.get).user with
  | some user => return user
  | none => .fail (.harvest userUnknown)

theorem assures_knownUser {holds settled : List Exchange → Session → Prop} {past : List Exchange}
    {session : Session} (kept : settled past session) : knownUser.Assures holds
      (fun outcome past session => settled past session ∧
        ∀ user, outcome = .returned user → session.user = some user) past session := by
  rw [knownUser, bind_eq, assures_bind, assures_get]
  dsimp only [thenPost]
  cases found : session.user with
  | some user =>
    refine ⟨kept, fun other same => ?_⟩
    cases same
    exact found
  | none => exact ⟨kept, nofun⟩

/-- A request that decides nothing of what a session knows. When it reads time entries, they are
those of the user. -/
structure Passing (user : Option Int) (request : Request) : Prop where
  other : request.subject = .other
  owned : request.readsEntries →
    ∃ id, user = some id ∧ request.field? "user_id" = some (Text.intDigits id)

theorem passing_range {user : Option Int} {id : Int} (known : user = some id)
    {first last : Date} {number : Nat} :
    Passing user (Client.readingEntries (Client.rangeFilters first last id) number) :=
  ⟨Client.subject_range, fun _ => ⟨id, known, Client.user_range⟩⟩

theorem passing_tasks {user : Option Int} {project : Int} {number : Nat} :
    Passing user (Client.readingTasks project number) :=
  ⟨Client.subject_tasks, fun reads => absurd reads Client.readsEntries_tasks⟩

theorem passing_of_method {request : Request} (writes : request.method ≠ "GET".text)
    (user : Option Int) : Passing user request :=
  ⟨(Client.subject_of_method writes).2,
    fun reads => absurd reads (Client.subject_of_method writes).1⟩

variable [Console]

def lookupFailedLine (failure : ApiFailure) : Text :=
  "Could not retrieve Harvest User ID: ".text ++ failure.message

/-- Whether the failure of a lookup can be reported, if a reply makes it fail. -/
def Reportable (reply : Reply) : Prop :=
  ∀ fault failure, readAs User.ofJson "user" reply = .failed fault →
    fault.apiFailure? = some failure → Console.Takes (lookupFailedLine failure)

/-- How a lookup ends for a reply. A failure of the service is reported; the lookup breaks off with
it only where it cannot be. -/
def lookedUp (reply : Reply) : Outcome (Option Int) :=
  match readAs User.ofJson "user" reply with
  | .returned user => .returned (some user.id)
  | .failed fault =>
    match fault.apiFailure? with
    | none => .failed fault
    | some failure =>
      match Console.refusal? (lookupFailedLine failure) with
      | none => .returned none
      | some found => .failed (.console found)
  | .spent => .spent

/-- What a reply to a lookup decides about the user, if it decides anything. -/
def decided? (reply : Reply) : Option (Option Int) :=
  match lookedUp reply with
  | .returned user => some user
  | _ => none

/-- How a lookup ends, by what is read off its reply. -/
inductive LookupEnd (reply : Reply) : Outcome (Option Int) → Prop
  | found {user : User} (read : readAs User.ofJson "user" reply = .returned user) :
    LookupEnd reply (.returned (some user.id))
  | forgotten {fault : TimeReports.Fault} {failure : ApiFailure}
    (read : readAs User.ofJson "user" reply = .failed fault)
    (reported : fault.apiFailure? = some failure)
    (takes : Console.Takes (lookupFailedLine failure)) : LookupEnd reply (.returned none)
  | refused {fault : TimeReports.Fault} {failure : ApiFailure} {found : Text.Unencodable}
    (read : readAs User.ofJson "user" reply = .failed fault)
    (reported : fault.apiFailure? = some failure)
    (refused : Console.refusal? (lookupFailedLine failure) = some found) :
    LookupEnd reply (.failed (.console found))
  | escaped {fault : TimeReports.Fault} (read : readAs User.ofJson "user" reply = .failed fault)
    (unreported : fault.apiFailure? = none) : LookupEnd reply (.failed fault)

theorem lookupEnd (reply : Reply) : LookupEnd reply (lookedUp reply) := by
  unfold lookedUp
  cases read : readAs User.ofJson "user" reply with
  | returned user => exact .found read
  | spent => exact absurd read (readAs_ne_spent reply)
  | failed fault =>
    cases reported : fault.apiFailure? with
    | none => simpa only [reported] using LookupEnd.escaped read reported
    | some failure =>
      cases refused : Console.refusal? (lookupFailedLine failure) with
      | none => simpa only [reported, refused] using LookupEnd.forgotten read reported refused
      | some found => simpa only [reported, refused] using LookupEnd.refused read reported refused

theorem lookupEnd_of {reply : Reply} {outcome : Outcome (Option Int)}
    (looked : lookedUp reply = outcome) : LookupEnd reply outcome :=
  looked ▸ lookupEnd reply

theorem decided?_eq_some_iff {reply : Reply} {user : Option Int} :
    decided? reply = some user ↔ lookedUp reply = .returned user := by
  unfold decided?
  cases lookedUp reply <;> simp

/-- A user who is found is read off the reply. -/
theorem exists_user_of_decided {reply : Reply} {id : Int}
    (found : decided? reply = some (some id)) :
    ∃ user, readAs User.ofJson "user" reply = .returned user ∧ user.id = id := by
  cases lookupEnd_of (decided?_eq_some_iff.mp found) with
  | found read => exact ⟨_, read, rfl⟩

/-- A lookup that fails does so with a fault that is no failure of the service. -/
theorem apiFailure?_of_lookedUp {reply : Reply} {fault : TimeReports.Fault}
    (failed : lookedUp reply = .failed fault) : fault.apiFailure? = none := by
  cases lookupEnd_of failed with
  | refused => rfl
  | escaped _ unreported => exact unreported

theorem decided?_of_not_reportable {reply : Reply} (unreportable : ¬ Reportable reply) :
    decided? reply = none := by
  unfold Reportable at unreportable
  push Not at unreportable
  obtain ⟨fault, failure, failed, found, refused⟩ := unreportable
  obtain ⟨reason, refused⟩ := Option.ne_none_iff_exists'.mp refused
  simp only [decided?, lookedUp, failed, found, refused]

def forgetUser (failure : ApiFailure) : SessionProgram (Option Int) := do
  Program.say (lookupFailedLine failure)
  Program.modify fun session => { session with user := none }
  return none

theorem assures_forgetUser (holds : List Exchange → Session → Prop)
    {post : Outcome (Option Int) → List Exchange → Session → Prop} {past : List Exchange}
    {session : Session} {failure : ApiFailure}
    (reported : Console.Takes (lookupFailedLine failure) →
      post (.returned none) past { session with user := none })
    (unreported : ∀ found, Console.refusal? (lookupFailedLine failure) = some found →
      post (.failed (.console found)) past session) :
    (forgetUser failure).Assures holds post past session := by
  simp only [forgetUser, bind_eq, pure_eq, assures_bind, assures_say, said]
  cases refused : Console.refusal? (lookupFailedLine failure) with
  | none => exact reported refused
  | some found => exact unreported found refused

/-- The failure of a request without credentials can always be reported. -/
theorem takes_noCredentials :
    Console.Takes (lookupFailedLine ⟨"Harvest API credentials are not set.".text, none⟩) :=
  Console.takes_of_whole (Text.whole_append (Text.whole_text _) (Text.whole_text _))

/-- What a lookup of the user assures. Without credentials it fails before anything is sent. -/
theorem assures_refreshUser {holds : List Exchange → Session → Prop}
    {post : Outcome (Option Int) → List Exchange → Session → Prop} {past : List Exchange}
    {session : Session}
    (asking : session.client.hasCredentials = true → holds past session)
    (decided : session.client.hasCredentials = true → ∀ reply user, decided? reply = some user →
      post (.returned user) (past ++ [⟨Client.readingUser, reply⟩])
        { session with user })
    (undecided : session.client.hasCredentials = true → ∀ reply fault, decided? reply = none →
      lookedUp reply = .failed fault →
        post (.failed fault) (past ++ [⟨Client.readingUser, reply⟩]) session)
    (offline : session.client.hasCredentials = false →
      post (.returned none) past { session with user := none }) :
    refreshUser.Assures holds post past session := by
  simp only [refreshUser, bind_eq, pure_eq, assures_bind, assures_get, thenPost, assures_attempt]
  rw [sends_currentUser]
  split
  · next online =>
    refine ⟨asking online, fun reply => ?_⟩
    have whenDecided := decided online reply
    have whenUndecided := undecided online reply
    unfold decided? lookedUp at whenDecided whenUndecided
    cases read : readAs User.ofJson "user" reply with
    | returned user =>
      simp only [read] at whenDecided
      exact whenDecided _ rfl
    | failed fault =>
      simp only [attemptPost, thenPost]
      cases found : fault.apiFailure? with
      | some failure =>
        simp only [read, found] at whenDecided whenUndecided
        exact assures_forgetUser _
          (fun takes => whenDecided none (by rw [show Console.refusal? _ = none from takes]))
          fun found refused => whenUndecided _ (by rw [refused]) (by rw [refused])
      | none =>
        simp only [read, found] at whenUndecided
        exact whenUndecided fault trivial rfl
    | spent => exact absurd read (readAs_ne_spent reply)
  · next noCredentials =>
    exact assures_forgetUser holds (fun _ => offline (Bool.not_eq_true _ ▸ noCredentials))
      fun found refused => absurd takes_noCredentials (Console.not_takes_of_refusal refused)

theorem ensureUser_eq : ensureUser = Program.get.bind fun session =>
    if session.user.isNone = true then refreshUser.bind fun _ => knownUser else knownUser :=
  rfl

/-- A condition on sessions between operations that the refreshes and the requests in between
uphold, while `holds` is true at each request. -/
structure Upheld (client : Client) (holds settled : List Exchange → Session → Prop) : Prop where
  same : ∀ {past session}, settled past session → session.client = client
  shown : client.hasCredentials = true → ∀ {past session}, settled past session →
    holds past session
  passing : client.hasCredentials = true → ∀ {past session request} reply,
    settled past session → Passing session.user request →
      settled (past ++ [⟨request, reply⟩]) session
  lookup : ∀ {past session}, settled past session → session.user = none →
    refreshUser.Assures holds (fun _ => settled) past session
  timer : refreshRunningTimer.Keeps holds settled
  projects : ∀ force today, (refreshProjects force today).Keeps holds settled

namespace Upheld

variable {client : Client} {holds settled : List Exchange → Session → Prop}
  {past : List Exchange} {session : Session}

/-- Changes to time entries and other requests that stand alone. -/
theorem sends (upheld : Upheld client holds settled) {α : Type} {request : Request}
    {read : Reply → Outcome α} {program : SessionProgram α}
    (sent : Sends client.hasCredentials request read program)
    (passing : ∀ user, Passing user request) : program.Keeps holds settled := by
  intro past session kept
  rw [sent]
  split
  · next online =>
    exact ⟨upheld.shown online kept,
      fun reply => upheld.passing online reply kept (passing _)⟩
  · exact kept

theorem pages (upheld : Upheld client holds settled) {α : Type} {request : Nat → Request}
    {read : Reply → Outcome (Page α)} {page : Nat → SessionProgram (Page α)}
    (sent : ∀ number, Sends client.hasCredentials (request number) read (page number))
    (passing : ∀ number, Passing session.user (request number)) (endsWhenEmpty : Bool)
    (budget number : Nat) (kept : settled past session) :
    (pagesFrom page endsWhenEmpty budget number).Assures holds
      (fun _ => settled) past session := by
  refine assures_pages_kept (fun past => settled past session) sent
    (fun number reply online kept => ?_) (fun online kept => ?_) (fun outcome kept => kept)
    endsWhenEmpty budget number kept
  · exact upheld.passing online reply kept (passing number)
  · exact upheld.shown online kept

/-- The user of a session after it was asked for. -/
theorem ensureUser (upheld : Upheld client holds settled) (kept : settled past session) :
    Session.ensureUser.Assures holds (fun outcome past session => settled past session ∧
      ∀ user, outcome = .returned user → session.user = some user) past session := by
  rw [ensureUser_eq, assures_bind, assures_get]
  dsimp only [thenPost]
  split
  · have unknown : session.user = none := Option.isNone_iff_eq_none.mp ‹_›
    rw [assures_bind]
    refine (upheld.lookup kept unknown).imp fun outcome past session kept => ?_
    cases outcome with
    | returned found => exact assures_knownUser kept
    | failed fault => exact ⟨kept, nofun⟩
    | spent => exact ⟨kept, nofun⟩
  · exact assures_knownUser kept

theorem entriesOn (upheld : Upheld client holds settled) (kept : settled past session)
    {user : Int} (known : session.user = some user) (first last : Date) :
    (client.entriesOn user first last).Assures holds (fun _ => settled) past session := by
  have pages : (client.entries (Client.rangeFilters first last user)).Assures holds
      (fun _ => settled) past session :=
    upheld.pages (sends_entryPage client _) (fun _ => passing_range known) _ _ _ kept
  refine assures_recover.mpr (pages.imp fun outcome past session kept => ?_)
  cases outcome <;> exact kept

theorem fetchEntries (upheld : Upheld client holds settled) (first last : Date) :
    (Session.fetchEntries first last).Keeps holds settled := by
  intro past session kept
  rw [Session.fetchEntries, bind_eq, assures_bind, assures_recover]
  refine (upheld.ensureUser kept).imp fun outcome past session ⟨kept, known⟩ => ?_
  cases outcome with
  | returned user =>
    simp only [orElsePost, thenPost, bind_eq, assures_bind, assures_get, upheld.same kept]
    exact upheld.entriesOn kept (known user rfl) first last
  | failed fault =>
    dsimp only [orElsePost]
    split <;> exact kept
  | spent => exact kept

theorem tasksOf (upheld : Upheld client holds settled) (project : Project) :
    (client.tasksOf project : SessionProgram _).Keeps holds settled := by
  intro past session kept
  unfold Client.tasksOf
  split
  · exact kept
  · have pages := upheld.pages (sends_taskPage client project.id) (fun _ => passing_tasks) false
      client.pageBudget 1 kept
    exact pages.bind fun _ => keeps_done

theorem projectTasks (upheld : Upheld client holds settled) (project : Int) (today : Date) :
    (Session.projectTasks project today).Keeps holds settled := by
  have tasks : (Program.get.bind fun session : Session =>
      session.client.tasksOf
        ((session.findProject? project).getD ⟨project, [], none, none, none⟩)).Keeps
        holds settled := by
    intro past session kept
    simp only [assures_bind, assures_get, thenPost, upheld.same kept]
    exact upheld.tasksOf _ kept
  intro past session kept
  simp only [Session.projectTasks, bind_eq]
  rw [assures_bind, assures_get]
  dsimp only [thenPost]
  split
  · exact (upheld.projects false today kept).bind fun _ => tasks
  · exact tasks kept

theorem changeEntry (upheld : Upheld client holds settled) (entry : Int) (change : String) :
    (client.changeEntry entry change : SessionProgram _).Keeps holds settled :=
  upheld.sends (sends_send client _ _ none TimeEntry.ofJson "time entry")
    (passing_of_method (by decide : "PATCH".text ≠ "GET".text))

theorem createEntry (upheld : Upheld client holds settled) (project task : Int) (day : Date) :
    (client.createEntry project task day : SessionProgram _).Keeps holds settled :=
  upheld.sends (sends_send client _ _ _ TimeEntry.ofJson "time entry")
    (passing_of_method (by decide : "POST".text ≠ "GET".text))

theorem startTimer (upheld : Upheld client holds settled) (project task : Int) (today : Date) :
    (Session.startTimer project task today).Keeps holds settled := by
  intro past session kept
  rw [Session.startTimer, bind_eq, assures_bind]
  refine (upheld.ensureUser kept).imp fun outcome past session ⟨kept, known⟩ => ?_
  cases outcome with
  | returned user =>
    simp only [thenPost, bind_eq, pure_eq]
    rw [assures_bind, assures_get]
    dsimp only [thenPost]
    rw [upheld.same kept]
    refine (upheld.entriesOn kept (known user rfl) today today).bind fun entries => ?_
    split
    · exact (upheld.changeEntry _ _).bind fun _ => keeps_say.bind fun _ => keeps_done.bind fun _ =>
        upheld.timer.bind fun _ => keeps_done
    · exact (upheld.createEntry _ _ _).bind fun _ => keeps_say.bind fun _ =>
        keeps_done.bind fun _ => upheld.timer.bind fun _ => keeps_done
  | failed fault => exact kept
  | spent => exact kept

theorem stopTimer (upheld : Upheld client holds settled) :
    Session.stopTimer.Keeps holds settled := by
  intro past session kept
  rw [Session.stopTimer, bind_eq, assures_bind, assures_get]
  dsimp only [thenPost]
  rw [upheld.same kept]
  split
  · exact kept
  · exact ((upheld.changeEntry _ _).bind fun _ => keeps_say.bind fun _ => upheld.timer.bind fun _ =>
      keeps_done) kept

theorem toggleTimer (upheld : Upheld client holds settled) :
    Session.toggleTimer.Keeps holds settled :=
  upheld.timer.bind fun _ => upheld.stopTimer

theorem pollOnce (upheld : Upheld client holds settled) :
    Session.pollOnce.Keeps holds settled := by
  refine upheld.timer.attempt.bind fun attempted => ?_
  split
  · exact keeps_done
  · split <;> exact keeps_say

end Upheld
end TimeReports.Session

import TimeReports.Proofs.Answers

set_option autoImplicit false

namespace TimeReports.Session

open Harvest Program

theorem lookup_not_closes {α : Type} {listing : Listing α}
    (other : ∀ page, Subject.user ≠ listing.subject page) (reply : Reply) :
    ¬ listing.Closes ⟨Client.readingUser, reply⟩ :=
  Listing.not_closes_of_subject fun page => by
    rw [Client.subject_user]
    exact other page

section

variable [Console]

/-- What holds of a session between operations. While the user is not known, no listing of managed
projects has just been received, so that a lookup that fails ends no collection; and without
credentials there are no exchanges. -/
structure Settled (known : Option Int) (client : Client) (past : List Exchange)
    (session : Session) : Prop extends Follows known past session where
  same : session.client = client
  between : session.user = none → ¬ ManagedListed past
  offline : client.hasCredentials = false → past = []

/-- Whether a condition holds wherever a session follows the exchanges. It is asked for at requests
only, so it is enough that it holds when there are credentials. -/
def Shown (known : Option Int) (client : Client) (holds : List Exchange → Session → Prop) : Prop :=
  client.hasCredentials = true →
    ∀ past session, Follows known past session → holds past session

section Refreshes

variable {known : Option Int} {client : Client} {past segment : List Exchange} {session : Session}
  {exchange : Exchange} {reply : Reply} {holds : List Exchange → Session → Prop}

theorem Settled.step (settled : Settled known client past session)
    (online : client.hasCredentials = true) (quiet : Quiet exchange)
    (open_end : session.user = none → ¬ managed.Closes exchange) :
    Settled known client (past ++ [exchange]) session where
  toFollows := settled.toFollows.step quiet
  same := settled.same
  between := fun unknown => not_managedListed (open_end unknown)
  offline := fun offline => nomatch online.symm.trans offline

theorem Settled.through (settled : Settled known client past session)
    (online : client.hasCredentials = true) (quiet : ∀ exchange ∈ segment, Quiet exchange)
    (open_end : session.user = none → ∀ exchange ∈ segment, ¬ managed.Closes exchange) :
    Settled known client (past ++ segment) session := by
  induction segment generalizing past with
  | nil => simpa using settled
  | cons exchange segment ih =>
    rw [List.append_cons]
    exact ih (settled.step online (quiet exchange (by simp)) fun unknown =>
        open_end unknown exchange (by simp))
      (fun other inside => quiet other (by simp [inside]))
      (fun unknown other inside => open_end unknown other (by simp [inside]))

/-- For a user who is known it is enough to follow the exchanges. -/
theorem Follows.settled (follows : Follows known past session) (same : session.client = client)
    (online : client.hasCredentials = true) {user : Int} (found : session.user = some user) :
    Settled known client past session where
  toFollows := follows
  same := same
  between := fun unknown => nomatch found.symm.trans unknown
  offline := fun offline => nomatch online.symm.trans offline

/-- A listing between operations, during which the session does not change. -/
theorem Settled.pages (settled : Settled known client past session) {α : Type}
    (listing : Listing α) {request : Nat → Request} {page : Nat → SessionProgram (Page α)}
    {post : Outcome (List α) → List Exchange → Session → Prop} (shown : Shown known client holds)
    (sends : ∀ number, Sends client.hasCredentials (request number) listing.read (page number))
    (asks : ∀ number, listing.Asks number (request number))
    (quiet : ∀ {number exchange}, listing.Asks number exchange.request →
      ¬ listing.Closes exchange → Quiet exchange)
    (open_end : ∀ {number exchange}, listing.Asks number exchange.request →
      ¬ listing.Closes exchange → session.user = none → ¬ managed.Closes exchange)
    (received : client.hasCredentials = true → ∀ {segment items},
      listing.Received segment items → post (.returned items) (past ++ segment) session)
    (broken : ∀ {past outcome}, outcome.Breaks → Settled known client past session →
      post outcome past session) (budget : Nat) :
    (pagesFrom page listing.endsWhenEmpty budget 1).Assures holds post past session := by
  refine Listing.assures_pages listing sends asks (fun online => ?_)
    (fun _ outcome breaks => broken breaks settled) budget
  have begun {number : Nat} {segment : List Exchange} {items : List α}
      (begun : listing.Begun number segment items) :
      Settled known client (past ++ segment) session :=
    settled.through online
      (fun exchange inside => have ⟨⟨_, asked⟩, goesOn⟩ := begun.of_mem inside; quiet asked goesOn)
      (fun unknown exchange inside =>
        have ⟨⟨_, asked⟩, goesOn⟩ := begun.of_mem inside
        open_end asked goesOn unknown)
  refine ⟨fun started => shown online _ _ (begun started).toFollows, received online,
    fun started asked breaks outcome fails => ?_, fun started => broken trivial (begun started)⟩
  have goesOn := Listing.not_closes_of_breaks breaks
  rw [← List.append_assoc]
  exact broken fails ((begun started).step online (quiet asked goesOn) (open_end asked goesOn))

theorem lookup_not_timerListed {timer : Option TimeEntry} :
    ¬ TimerListed (past ++ [⟨Client.readingUser, reply⟩]) timer :=
  not_timerListed (lookup_not_closes (fun _ => by nofun) reply) timer

/-- A collection that ends with a lookup is one whose lookup found no user. -/
theorem ProjectsCollected.lookup {projects : List Project}
    (collected : ProjectsCollected known (past ++ [⟨Client.readingUser, reply⟩]) projects) :
    decided? reply = some none ∧ ∃ before listing listed, past = before ++ listing ∧
      managed.Received listing listed ∧ Latest UserDecided known before none := by
  rcases collected.last with closes | ⟨-, refused, behind⟩
  · exact absurd closes (lookup_not_closes (fun _ => by nofun) reply)
  · exact ⟨refused, behind⟩

/-- A lookup that decides nothing. -/
theorem Follows.undecided (follows : Follows known past session)
    (undecided : decided? reply = none) :
    Follows known (past ++ [⟨Client.readingUser, reply⟩]) session where
  user := .unchanged follows.user fun _ decided =>
    nomatch undecided.symm.trans decided.last.2
  projects := .unchanged follows.projects fun _ collected =>
    nomatch undecided.symm.trans collected.lookup.1
  timer := .unchanged follows.timer fun _ => lookup_not_timerListed

/-- A lookup leaves the timer and, unless it ends a collection, the projects as they were. -/
theorem Follows.lookup (follows : Follows known past session) {user : Option Int}
    (decides : decided? reply = some user)
    (silent : user = none → ∀ projects,
      ¬ ProjectsCollected known (past ++ [⟨Client.readingUser, reply⟩]) projects) :
    Follows known (past ++ [⟨Client.readingUser, reply⟩]) { session with user } where
  user := .decided (.lookup Client.subject_user decides)
  projects := by
    refine .unchanged follows.projects fun projects collected => ?_
    have none_found := Option.some.inj (decides.symm.trans collected.lookup.1)
    exact silent none_found projects collected
  timer := .unchanged follows.timer fun _ => lookup_not_timerListed

/-- A lookup that fails behind a listing of managed projects ends the collection with them. -/
theorem Follows.refused (follows : Follows known past session)
    (decides : decided? reply = some none) {projects : List Project}
    (ended : ProjectsCollected known (past ++ [⟨Client.readingUser, reply⟩]) projects) :
    Follows known (past ++ [⟨Client.readingUser, reply⟩])
      { session with user := none, projects } where
  user := .decided (.lookup Client.subject_user decides)
  projects := .decided ended
  timer := .unchanged follows.timer fun _ => lookup_not_timerListed

/-- After a lookup it is enough to follow the exchanges. -/
theorem Follows.settled_of_lookup
    (follows : Follows known (past ++ [⟨Client.readingUser, reply⟩]) session)
    (same : session.client = client) (online : client.hasCredentials = true) :
    Settled known client (past ++ [⟨Client.readingUser, reply⟩]) session where
  toFollows := follows
  same := same
  between := fun _ => not_managedListed (lookup_not_closes (fun _ => by nofun) reply)
  offline := fun offline => nomatch online.symm.trans offline

/-- A lookup between operations ends no collection of projects. -/
theorem Settled.not_collected (settled : Settled known client past session)
    (projects : List Project) :
    ¬ ProjectsCollected known (past ++ [⟨Client.readingUser, reply⟩]) projects := by
  intro collected
  obtain ⟨-, before, listing, listed, rfl, received, unknown⟩ := collected.lookup
  have still := unknown.user_through received fun _ => by nofun
  exact settled.between (settled.user.unique UserDecided.unique still) ⟨_, _, _, rfl, received⟩

theorem Settled.refreshUser (settled : Settled known client past session)
    (shown : Shown known client holds)
    (harmless : client.hasCredentials = false → session.user = none) :
    Session.refreshUser.Assures holds (fun _ => Settled known client) past session := by
  have same := settled.same
  refine assures_refreshUser (fun online => ?_) (fun online reply user decides => ?_)
    (fun online reply fault undecided _ => ?_) (fun offline => ?_)
  · exact shown (same ▸ online) _ _ settled.toFollows
  · have follows := settled.toFollows.lookup decides fun _ => settled.not_collected
    exact follows.settled_of_lookup same (same ▸ online)
  · exact (settled.toFollows.undecided undecided).settled_of_lookup same (same ▸ online)
  · have unknown := harmless (same ▸ offline)
    rw [← unknown]
    exact settled

/-- Running entries that have been received decide the timer and nothing else. -/
theorem Follows.timerListed (follows : Follows known past session) {entries : List TimeEntry}
    (received : running.Received segment entries) :
    Follows known (past ++ segment) { session with runningTimer := entries.head? } where
  user := follows.user.user_through received fun _ => by nofun
  projects := follows.projects.through fun exchange inside past projects collected => by
    obtain ⟨number, asked⟩ := received.of_mem inside
    have subject : exchange.request.subject = .running _ := asked
    rcases collected.last with closes | ⟨asksUser, -⟩
    · exact Listing.not_closes_of_subject (fun page => by rw [subject]; nofun) closes
    · rw [subject] at asksUser
      cases asksUser
  timer := .of_received received (.listing received)

/-- The running timer, asked for between operations. -/
theorem Settled.refreshRunningTimer (settled : Settled known client past session)
    (shown : Shown known client holds) :
    Session.refreshRunningTimer.Assures holds (fun _ => Settled known client) past session := by
  rw [Session.refreshRunningTimer, bind_eq, assures_bind, assures_get]
  dsimp only [thenPost]
  split
  · exact settled
  next user found =>
  rw [settled.same, bind_eq, assures_bind]
  refine settled.pages running shown (sends_entryPage client _)
    (fun _ => Client.subject_running) quiet_running (fun _ _ unknown => ?_)
    (fun online segment entries received => ?_)
    (fun breaks settled => thenPost_of_breaks breaks fun _ _ => settled) _
  · exact nomatch found.symm.trans unknown
  · exact (settled.toFollows.timerListed received).settled settled.same online found

/-- What a collection leaves: the projects that it gives are those that the exchanges decided. -/
def collected (known : Option Int) (client : Client) :
    Outcome (List Project) → List Exchange → Session → Prop
  | .returned projects, past, session => Settled known client past { session with projects }
  | _, past, session => Settled known client past session

theorem collected_of_breaks {outcome : Outcome (List Project)} (breaks : outcome.Breaks)
    (settled : Settled known client past session) :
    collected known client outcome past session := by
  cases outcome with
  | returned projects => exact breaks.elim
  | failed fault => exact settled
  | spent => exact settled

/-- Entries since a day that have been received decide no more than the projects. -/
theorem Follows.tracked (follows : Follows known past session) {entries : List TimeEntry}
    {projects : List Project} (received : recent.Received segment entries)
    (collected : ProjectsCollected known (past ++ segment) projects) :
    Follows known (past ++ segment) { session with projects } where
  user := follows.user.user_through received fun _ => by nofun
  projects := .of_received received collected
  timer := follows.timer.through fun exchange inside past => not_timerListed (by
    obtain ⟨number, asked⟩ := received.of_mem inside
    have subject : exchange.request.subject = .recent _ := asked
    exact Listing.not_closes_of_subject fun page => by rw [subject]; nofun)

/-- What a collection does once the user was asked for: it adds the projects of entries since a day,
if there is a user. -/
def finishCollection (listed : List Project) (today : Date) : SessionProgram (List Project) := do
  let listed := listed.foldl (fun projects project => setProject project projects) []
  let session ← Program.get
  match session.user with
  | none => return byName listed
  | some user =>
    let recent ← session.client.recentProjects user today
    return byName (recent.foldl addProject listed)

theorem collectProjects_eq (today : Date) : Session.collectProjects today =
    Program.get.bind fun session => session.client.managedProjects.bind fun listed =>
      Program.get.bind fun session =>
        if session.user.isNone = true then
          Session.refreshUser.bind fun _ => finishCollection listed today
        else finishCollection listed today :=
  rfl

/-- The end of a collection for a user. -/
theorem Settled.finishCollection (settled : Settled known client past session) {user : Int}
    (found : session.user = some user) (shown : Shown known client holds) {listed : List Project}
    (decides : ∀ {segment tracked}, recent.Received segment tracked →
      ProjectsCollected known (past ++ segment) (merged listed tracked)) (today : Date) :
    (Session.finishCollection listed today).Assures holds (collected known client) past
      session := by
  rw [Session.finishCollection, bind_eq, assures_bind, assures_get]
  dsimp only [thenPost]
  rw [found, settled.same]
  dsimp only
  rw [bind_eq, assures_bind, Client.recentProjects]
  split
  · exact settled
  next since _ =>
  rw [bind_eq, assures_bind]
  refine settled.pages recent shown (sends_entryPage client _)
    (fun _ => Client.subject_recent) quiet_recent (fun _ _ unknown => ?_)
    (fun online segment entries received => ?_)
    (fun breaks settled => thenPost_of_breaks breaks fun _ breaks =>
      thenPost_of_breaks breaks fun _ breaks => collected_of_breaks breaks settled) _
  · exact nomatch found.symm.trans unknown
  · exact (settled.toFollows.tracked received (decides received)).settled settled.same online found

/-- The part of a collection behind the listing of managed projects, when the user is not known. -/
theorem Settled.lookupInCollection (settled : Settled known client past session)
    (unknown : session.user = none) (online : client.hasCredentials = true)
    (shown : Shown known client holds) {listed : List Project}
    (received : managed.Received segment listed) (today : Date) :
    (Session.refreshUser.bind fun _ => Session.finishCollection listed today).Assures holds
      (collected known client) (past ++ segment) session := by
  have same := settled.same
  have follows := settled.toFollows.through (quiet_of_managed received)
  have notKnown : Latest UserDecided known past none := unknown ▸ settled.user
  rw [assures_bind]
  refine assures_refreshUser (fun _ => shown online _ _ follows) (fun _ reply user decides => ?_)
    (fun _ reply fault undecided _ => ?_)
    (fun offline => nomatch (same ▸ online).symm.trans offline)
  · cases user with
    | none =>
      have ended := ProjectsCollected.forNone notKnown received Client.subject_user decides
      exact (follows.refused decides ended).settled_of_lookup same online
    | some user =>
      have found := (follows.lookup decides nofun).settled_of_lookup same online
      exact found.finishCollection rfl shown
        (fun tracked => .forFound notKnown received Client.subject_user decides tracked) today
  · exact (follows.undecided undecided).settled_of_lookup same online

theorem Settled.collectProjects (settled : Settled known client past session)
    (shown : Shown known client holds) (today : Date) :
    (Session.collectProjects today).Assures holds (collected known client) past session := by
  rw [collectProjects_eq, assures_bind, assures_get]
  dsimp only [thenPost]
  rw [settled.same, assures_bind]
  refine settled.pages managed shown (sends_projectPage client)
    (fun _ => Client.subject_managed) (fun asked _ => quiet_managed asked)
    (fun _ goesOn _ => goesOn)
    (fun online segment listed received => ?_)
    (fun breaks settled => thenPost_of_breaks breaks fun _ breaks =>
      collected_of_breaks breaks settled) _
  dsimp only [thenPost]
  rw [assures_bind, assures_get]
  dsimp only [thenPost]
  cases found : session.user with
  | none =>
    rw [if_pos (by rfl)]
    exact settled.lookupInCollection found online shown received today
  | some user =>
    rw [if_neg (by simp)]
    have follows := settled.toFollows.through (quiet_of_managed received)
    exact (follows.settled settled.same online found).finishCollection found shown
      (fun tracked => .forKnown (found ▸ settled.user) received tracked) today

theorem Settled.refreshProjects (settled : Settled known client past session)
    (shown : Shown known client holds) (force : Bool) (today : Date) :
    (Session.refreshProjects force today).Assures holds (fun _ => Settled known client) past
      session := by
  rw [Session.refreshProjects, bind_eq, assures_bind, assures_get]
  dsimp only [thenPost]
  split
  · exact settled
  · rw [bind_eq, assures_bind]
    refine (settled.collectProjects shown today).imp fun outcome past session kept => ?_
    cases outcome <;> exact kept

end Refreshes

inductive Operation where
  | refreshUser
  | fetchEntries (first last : Date)
  | refreshProjects (force : Bool) (today : Date)
  | projectTasks (project : Int) (today : Date)
  | refreshRunningTimer
  | startTimer (project task : Int) (today : Date)
  | stopTimer
  | toggleTimer
  | pollOnce

def Operation.program : Operation → SessionProgram Unit
  | refreshUser => do let _ ← Session.refreshUser
  | fetchEntries first last => do let _ ← Session.fetchEntries first last
  | refreshProjects force today => do let _ ← Session.refreshProjects force today
  | projectTasks project today => do let _ ← Session.projectTasks project today
  | refreshRunningTimer => do let _ ← Session.refreshRunningTimer
  | startTimer project task today => do let _ ← Session.startTimer project task today
  | stopTimer => do let _ ← Session.stopTimer
  | toggleTimer => do let _ ← Session.toggleTimer
  | pollOnce => Session.pollOnce

/-- Operations one after another, each from where the one before it ended or broke off. -/
def performed : List Operation → SessionProgram Unit
  | [] => return ()
  | operation :: later => do
    operation.program.toEnd
    performed later

/-- Whether an operation is a lookup of the user, which is made even when the user is known. -/
def Operation.looksUp : Operation → Bool
  | refreshUser => true
  | _ => false

section Runs

variable {known user : Option Int} {client : Client} {past : List Exchange} {session : Session}
  {holds settled : List Exchange → Session → Prop}

/-- Every operation but a lookup of a user who is known upholds what the refreshes uphold. -/
theorem Upheld.operation (upheld : Upheld client holds settled) {operation : Operation}
    (lookup : operation.looksUp = true → Session.refreshUser.Keeps holds settled) :
    operation.program.Keeps holds settled := by
  cases operation with
  | refreshUser => exact (lookup rfl).bind fun _ => keeps_done
  | fetchEntries first last => exact (upheld.fetchEntries first last).bind fun _ => keeps_done
  | refreshProjects force today => exact (upheld.projects force today).bind fun _ => keeps_done
  | projectTasks project today =>
    exact (upheld.projectTasks project today).bind fun _ => keeps_done
  | refreshRunningTimer => exact upheld.timer.bind fun _ => keeps_done
  | startTimer project task today =>
    exact (upheld.startTimer project task today).bind fun _ => keeps_done
  | stopTimer => exact upheld.stopTimer.bind fun _ => keeps_done
  | toggleTimer => exact upheld.toggleTimer.bind fun _ => keeps_done
  | pollOnce => exact upheld.pollOnce

/-- Without credentials nothing is ever learnt. -/
theorem Settled.eq_start (settled : Settled known client past session)
    (offline : client.hasCredentials = false) :
    past = [] ∧ session = Session.start client known := by
  obtain rfl := settled.offline offline
  refine ⟨rfl, ?_⟩
  have held : session =
      ⟨session.client, session.user, session.projects, session.runningTimer⟩ := rfl
  rw [held, settled.same, settled.user.of_nil, settled.projects.of_nil, settled.timer.of_nil]
  rfl

end Runs

end

def successWith (body : String) : Reply := .answered ⟨200, [], Text.utf8 body.text⟩

/-- Replies to a lookup and to two listings of running entries, the second of which breaks off. -/
def timerReplies : List Reply :=
  [successWith "\x7b\"id\": 7\x7d",
    successWith ("\x7b\"time_entries\": [\x7b\"id\": 1, \"spent_date\": \"2025-01-15\", "
      ++ "\"hours\": 1.5, \"project\": \x7b\"id\": 1, \"name\": \"P\"\x7d, "
      ++ "\"task\": \x7b\"id\": 2, \"name\": \"T\"\x7d\x7d]\x7d"),
    .timedOut]

end TimeReports.Session

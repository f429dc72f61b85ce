import TimeReports.Proofs.Operations

set_option autoImplicit false

namespace TimeReports.Session

open Harvest

/-- The value that was decided last, or `first` when none was. `Decides past value` says that the
last exchange of `past` decides it. -/
inductive Latest {β : Type} (Decides : List Exchange → β → Prop) (first : β) :
    List Exchange → β → Prop
  | start : Latest Decides first [] first
  | decided {past : List Exchange} {exchange : Exchange} {value : β}
    (decides : Decides (past ++ [exchange]) value) :
    Latest Decides first (past ++ [exchange]) value
  | unchanged {past : List Exchange} {exchange : Exchange} {value : β}
    (latest : Latest Decides first past value)
    (silent : ∀ other, ¬ Decides (past ++ [exchange]) other) :
    Latest Decides first (past ++ [exchange]) value

/-- The projects to pick from: those that the user manages and those of the entries since a day, by
name. A number that is listed twice counts once. -/
def merged (listed : List Project) (tracked : List TimeEntry) : List Project :=
  byName ((Client.projectsOf tracked).foldl addProject
    (listed.foldl (fun projects project => setProject project projects) []))

variable {past segment : List Exchange} {exchange : Exchange}

theorem Latest.unique {β : Type} {Decides : List Exchange → β → Prop} {first one other : β}
    (same : ∀ {past exchange one other}, Decides (past ++ [exchange]) one →
      Decides (past ++ [exchange]) other → one = other)
    (latest : Latest Decides first past one) (latest' : Latest Decides first past other) :
    one = other := by
  generalize past_eq : past = whole at latest'
  induction latest generalizing whole with
  | start =>
    cases latest' with
    | start => rfl
    | decided => simp at past_eq
    | unchanged => simp at past_eq
  | decided decides =>
    cases latest' with
    | start => simp at past_eq
    | decided decides' => exact same decides (past_eq ▸ decides')
    | unchanged _ silent => exact absurd (past_eq ▸ decides) (silent _)
  | unchanged latest silent ih =>
    cases latest' with
    | start => simp at past_eq
    | decided decides' => exact absurd (past_eq ▸ decides') (silent _)
    | unchanged latest' _ =>
      obtain ⟨rfl, -⟩ := snoc_inj past_eq
      exact ih _ rfl latest'

theorem Latest.of_nil {β : Type} {Decides : List Exchange → β → Prop} {first value : β}
    (latest : Latest Decides first [] value) : value = first := by
  generalize nil_eq : [] = past at latest
  cases latest with
  | start => rfl
  | decided => simp at nil_eq
  | unchanged => simp at nil_eq

/-- What a listing that was received decides with its last page. -/
theorem Latest.of_received {α β : Type} {listing : Listing α} {segment : List Exchange}
    {items : List α} {Decides : List Exchange → β → Prop} {first value : β}
    (received : listing.Received segment items) (decides : Decides (past ++ segment) value) :
    Latest Decides first (past ++ segment) value := by
  cases received with
  | last begun asked read ends =>
    rw [← List.append_assoc] at decides ⊢
    exact .decided decides

theorem subject_of_received {α : Type} {listing : Listing α} {before segment : List Exchange}
    {items : List α} (received : listing.Received segment items)
    (same : past ++ [exchange] = before ++ segment) :
    ∃ page, exchange.request.subject = listing.subject page :=
  have ⟨_, _, asked, _⟩ := received.closes same
  ⟨_, asked⟩

theorem Latest.through {β : Type} {Decides : List Exchange → β → Prop} {first value : β}
    (latest : Latest Decides first past value)
    (silent : ∀ exchange ∈ segment, ∀ past other, ¬ Decides (past ++ [exchange]) other) :
    Latest Decides first (past ++ segment) value := by
  induction segment generalizing past with
  | nil => simpa using latest
  | cons exchange segment ih =>
    rw [List.append_cons]
    exact ih (.unchanged latest (silent exchange (by simp) past))
      fun other inside => silent other (by simp [inside])

variable [Console]

def running : Listing TimeEntry where
  subject := .running
  subject_inj := Subject.running.inj
  read := readAs Page.entries "time entry"
  endsWhenEmpty := true

def recent : Listing TimeEntry where
  subject := .recent
  subject_inj := Subject.recent.inj
  read := readAs Page.entries "time entry"
  endsWhenEmpty := true

def managed : Listing Project where
  subject := .managed
  subject_inj := Subject.managed.inj
  read := readAs Page.projects "project"
  endsWhenEmpty := false

/-- The exchanges end with a lookup that succeeded, or that failed with a failure of the service
which was reported. -/
inductive UserDecided : List Exchange → Option Int → Prop
  | lookup {before : List Exchange} {request : Request} {reply : Reply} {user : Option Int}
    (asked : request.subject = .user) (decides : decided? reply = some user) :
    UserDecided (before ++ [⟨request, reply⟩]) user

/-- The exchanges end with a listing of running entries, of which the first one is the timer. -/
inductive TimerListed : List Exchange → Option TimeEntry → Prop
  | listing {before segment : List Exchange} {entries : List TimeEntry}
    (received : running.Received segment entries) :
    TimerListed (before ++ segment) entries.head?

/-- The exchanges end with a listing of the projects that the user manages. -/
def ManagedListed (past : List Exchange) : Prop :=
  ∃ before segment projects, past = before ++ segment ∧ managed.Received segment projects

/-- The exchanges end with a collection of projects: the listing of those that the user manages,
then a lookup if the user was not known, then, for a user, the listing of entries since a day. -/
inductive ProjectsCollected (known : Option Int) : List Exchange → List Project → Prop
  | forKnown {before listing tracking : List Exchange} {listed : List Project}
    {tracked : List TimeEntry} {user : Int}
    (user_known : Latest UserDecided known before (some user))
    (listed_received : managed.Received listing listed)
    (tracked_received : recent.Received tracking tracked) :
    ProjectsCollected known (before ++ listing ++ tracking) (merged listed tracked)
  | forFound {before listing tracking : List Exchange} {request : Request} {reply : Reply}
    {listed : List Project} {tracked : List TimeEntry} {user : Int}
    (unknown : Latest UserDecided known before none)
    (listed_received : managed.Received listing listed)
    (asked : request.subject = .user) (found : decided? reply = some (some user))
    (tracked_received : recent.Received tracking tracked) :
    ProjectsCollected known (before ++ listing ++ [⟨request, reply⟩] ++ tracking)
      (merged listed tracked)
  | forNone {before listing : List Exchange} {request : Request} {reply : Reply}
    {listed : List Project} (unknown : Latest UserDecided known before none)
    (listed_received : managed.Received listing listed)
    (asked : request.subject = .user) (refused : decided? reply = some none) :
    ProjectsCollected known (before ++ listing ++ [⟨request, reply⟩]) (merged listed [])

/-- A session holds what the exchanges decided last, and what it began with where they decided
nothing: the user that is `known`, no timer and no projects. -/
structure Follows (known : Option Int) (past : List Exchange) (session : Session) : Prop where
  user : Latest UserDecided known past session.user
  projects : Latest (ProjectsCollected known) [] past session.projects
  timer : Latest TimerListed none past session.runningTimer

section Uniqueness

variable {known : Option Int}

theorem UserDecided.last {user : Option Int} (decided : UserDecided (past ++ [exchange]) user) :
    exchange.request.subject = .user ∧ decided? exchange.reply = some user := by
  generalize past_eq : past ++ [exchange] = whole at decided
  cases decided with
  | lookup asked decides =>
    cases (snoc_inj past_eq).2
    exact ⟨asked, decides⟩

theorem UserDecided.unique {one other : Option Int} (decided : UserDecided (past ++ [exchange]) one)
    (decided' : UserDecided (past ++ [exchange]) other) : one = other :=
  Option.some.inj (decided.last.2.symm.trans decided'.last.2)

theorem TimerListed.exists {timer : Option TimeEntry} (listed : TimerListed past timer) :
    ∃ before segment entries, past = before ++ segment ∧ running.Received segment entries ∧
      timer = entries.head? := by
  cases listed with
  | listing received => exact ⟨_, _, _, rfl, received, rfl⟩

theorem TimerListed.unique {one other : Option TimeEntry} (listed : TimerListed past one)
    (listed' : TimerListed past other) : one = other := by
  obtain ⟨before, segment, entries, rfl, received, rfl⟩ := listed.exists
  obtain ⟨before', segment', entries', same, received', rfl⟩ := listed'.exists
  rw [(received.unique received' same).2.2]

/-- A collection ends with the last page of the entries since a day, or with a lookup that found no
user. -/
theorem ProjectsCollected.last {projects : List Project}
    (collected : ProjectsCollected known (past ++ [exchange]) projects) :
    recent.Closes exchange ∨ exchange.request.subject = .user ∧
      decided? exchange.reply = some none ∧
        ∃ before listing listed, past = before ++ listing ∧ managed.Received listing listed ∧
          Latest UserDecided known before none := by
  generalize past_eq : past ++ [exchange] = whole at collected
  cases collected with
  | forKnown user_known listed_received tracked_received =>
    exact Or.inl (tracked_received.closes past_eq)
  | forFound unknown listed_received asked found tracked_received =>
    exact Or.inl (tracked_received.closes past_eq)
  | forNone unknown listed_received asked refused =>
    obtain ⟨rfl, rfl⟩ := snoc_inj past_eq
    exact Or.inr ⟨asked, refused, _, _, _, rfl, listed_received, unknown⟩

/-- Exchanges end with at most one collection of projects. -/
theorem ProjectsCollected.unique {one other : List Project}
    (collected : ProjectsCollected known past one)
    (collected' : ProjectsCollected known past other) :
    one = other := by
  -- What stands in front of the entries since a day, a listing or a lookup, tells the cases apart.
  generalize past_eq : past = whole at collected'
  cases collected with
  | forKnown user_known listed_received tracked_received =>
    cases collected' with
    | forKnown user_known' listed_received' tracked_received' =>
      obtain ⟨front, -, rfl⟩ := tracked_received.unique tracked_received' past_eq
      rw [(listed_received.unique listed_received' front).2.2]
    | forFound unknown listed_received' asked found tracked_received' =>
      obtain ⟨front, -, -⟩ := tracked_received.unique tracked_received' past_eq
      obtain ⟨page, subject⟩ := subject_of_received listed_received front.symm
      rw [asked] at subject
      cases subject
    | forNone unknown listed_received' asked refused =>
      obtain ⟨page, subject⟩ := subject_of_received tracked_received past_eq.symm
      rw [asked] at subject
      cases subject
  | forFound unknown listed_received asked found tracked_received =>
    cases collected' with
    | forKnown user_known' listed_received' tracked_received' =>
      obtain ⟨front, -, -⟩ := tracked_received.unique tracked_received' past_eq
      obtain ⟨page, subject⟩ := subject_of_received listed_received' front
      rw [asked] at subject
      cases subject
    | forFound unknown' listed_received' asked' found' tracked_received' =>
      obtain ⟨front, -, rfl⟩ := tracked_received.unique tracked_received' past_eq
      rw [(listed_received.unique listed_received' (snoc_inj front).1).2.2]
    | forNone unknown' listed_received' asked' refused =>
      obtain ⟨page, subject⟩ := subject_of_received tracked_received past_eq.symm
      rw [asked'] at subject
      cases subject
  | forNone unknown listed_received asked refused =>
    cases collected' with
    | forKnown user_known' listed_received' tracked_received' =>
      obtain ⟨page, subject⟩ := subject_of_received tracked_received' past_eq
      rw [asked] at subject
      cases subject
    | forFound unknown' listed_received' asked' found tracked_received' =>
      obtain ⟨page, subject⟩ := subject_of_received tracked_received' past_eq
      rw [asked] at subject
      cases subject
    | forNone unknown' listed_received' asked' refused' =>
      rw [(listed_received.unique listed_received' (snoc_inj past_eq).1).2.2]

/-- The exchanges leave no choice of what a session holds. -/
theorem Follows.unique {one other : Session} (follows : Follows known past one)
    (follows' : Follows known past other) : one.user = other.user ∧ one.projects = other.projects ∧
      one.runningTimer = other.runningTimer :=
  ⟨follows.user.unique UserDecided.unique follows'.user,
    follows.projects.unique ProjectsCollected.unique follows'.projects,
    follows.timer.unique TimerListed.unique follows'.timer⟩

end Uniqueness

section Steps

variable {known : Option Int} {session : Session}

/-- Whether an exchange decides nothing, whatever came before it. -/
structure Quiet (exchange : Exchange) : Prop where
  user : exchange.request.subject ≠ .user
  running : ¬ running.Closes exchange
  recent : ¬ recent.Closes exchange

theorem not_userDecided (other : exchange.request.subject ≠ .user) (user : Option Int) :
    ¬ UserDecided (past ++ [exchange]) user :=
  fun decided => other decided.last.1

theorem not_timerListed (open_end : ¬ running.Closes exchange) (timer : Option TimeEntry) :
    ¬ TimerListed (past ++ [exchange]) timer := by
  intro listed
  obtain ⟨before, segment, entries, same, received, -⟩ := listed.exists
  exact open_end (received.closes same)

theorem not_managedListed (open_end : ¬ managed.Closes exchange) :
    ¬ ManagedListed (past ++ [exchange]) :=
  fun ⟨_, _, _, same, received⟩ => open_end (received.closes same)

theorem Quiet.not_projectsCollected (quiet : Quiet exchange) (projects : List Project) :
    ¬ ProjectsCollected known (past ++ [exchange]) projects :=
  fun collected => collected.last.elim quiet.recent fun ended => quiet.user ended.1

theorem Latest.user_through {α : Type} {listing : Listing α} {items : List α} {user : Option Int}
    (latest : Latest UserDecided known past user) (received : listing.Received segment items)
    (other : ∀ page, listing.subject page ≠ .user) :
    Latest UserDecided known (past ++ segment) user :=
  latest.through fun _ inside _ =>
    have ⟨_, asked⟩ := received.of_mem inside
    not_userDecided (asked ▸ other _)

theorem Follows.through (follows : Follows known past session)
    (quiet : ∀ exchange ∈ segment, Quiet exchange) : Follows known (past ++ segment) session where
  user := follows.user.through fun exchange inside _ => not_userDecided (quiet exchange inside).user
  projects := follows.projects.through fun exchange inside _ =>
    (quiet exchange inside).not_projectsCollected
  timer := follows.timer.through fun exchange inside _ =>
    not_timerListed (quiet exchange inside).running

theorem Follows.step (follows : Follows known past session) (quiet : Quiet exchange) :
    Follows known (past ++ [exchange]) session :=
  follows.through fun _ inside => List.mem_singleton.mp inside ▸ quiet

theorem quiet_managed {number : Nat} (asked : managed.Asks number exchange.request) :
    Quiet exchange := by
  have subject : exchange.request.subject = .managed _ := asked
  refine ⟨by rw [subject]; nofun, ?_, ?_⟩ <;>
    exact Listing.not_closes_of_subject fun page => by rw [subject]; nofun

theorem quiet_of_managed {projects : List Project} (received : managed.Received segment projects) :
    ∀ exchange ∈ segment, Quiet exchange :=
  fun _ inside =>
    have ⟨_, asked⟩ := received.of_mem inside
    quiet_managed asked

theorem quiet_running {number : Nat} (asked : running.Asks number exchange.request)
    (open_end : ¬ running.Closes exchange) : Quiet exchange := by
  have subject : exchange.request.subject = .running _ := asked
  exact ⟨by rw [subject]; nofun, open_end,
    Listing.not_closes_of_subject fun page => by rw [subject]; nofun⟩

theorem quiet_recent {number : Nat} (asked : recent.Asks number exchange.request)
    (open_end : ¬ recent.Closes exchange) : Quiet exchange := by
  have subject : exchange.request.subject = .recent _ := asked
  exact ⟨by rw [subject]; nofun,
    Listing.not_closes_of_subject fun page => by rw [subject]; nofun, open_end⟩

end Steps

end TimeReports.Session

import TimeReports.Proofs.Listings

set_option autoImplicit false

namespace TimeReports

namespace Harvest

open Program

variable {σ : Type}

namespace Client

def creating (project task : Int) (day : Date) : Request :=
  ⟨"POST".text, (targetOf "time_entries".text []).shownPath,
    (targetOf "time_entries".text []).shownQuery,
    some (.object [("project_id".text, .int project), ("task_id".text, .int task),
      ("spent_date".text, .string day.iso)])⟩

def changing (entry : Int) (change : String) : Request :=
  let target := targetOf ("time_entries/".text ++ Text.intDigits entry ++ .char '/' :: change.text)
    []
  ⟨"PATCH".text, target.shownPath, target.shownQuery, none⟩

theorem method_creating {project task : Int} {day : Date} :
    (creating project task day).method ≠ "GET".text := by
  change "POST".text ≠ "GET".text
  decide

theorem method_changing {entry : Int} {change : String} :
    (changing entry change).method ≠ "GET".text := by
  change "PATCH".text ≠ "GET".text
  decide

end Client

theorem sends_createEntry [Console] (client : Client) (project task : Int) (day : Date) :
    Sends client.hasCredentials (Client.creating project task day)
      (readAs TimeEntry.ofJson "time entry")
      (client.createEntry project task day : Program σ TimeEntry) :=
  sends_send client _ _ _ TimeEntry.ofJson "time entry"

theorem sends_changeEntry [Console] (client : Client) (entry : Int) (change : String) :
    Sends client.hasCredentials (Client.changing entry change)
      (readAs TimeEntry.ofJson "time entry")
      (client.changeEntry entry change : Program σ TimeEntry) :=
  sends_send client _ _ none TimeEntry.ofJson "time entry"

def OnlyReads (exchanges : List Exchange) : Prop :=
  ∀ exchange ∈ exchanges, exchange.request.method = "GET".text

theorem Source.Gives.onlyReads [Console] {filters : List (Text × Json)} {budget number : Nat}
    {exchanges : List Exchange} {outcome : Outcome (List TimeEntry)}
    (gives : (Source.entries filters).Gives budget number exchanges outcome) :
    OnlyReads exchanges := by
  intro exchange member
  obtain ⟨number, asked⟩ := gives.request_of_mem exchange member
  rw [asked]
  rfl

/-- The requests among exchanges that do more than read. -/
def changes (exchanges : List Exchange) : List Request :=
  (exchanges.map (·.request)).filter fun request => request.method ≠ "GET".text

theorem changes_append (front back : List Exchange) :
    changes (front ++ back) = changes front ++ changes back := by
  rw [changes, List.map_append, List.filter_append]
  rfl

theorem OnlyReads.changes_eq {exchanges : List Exchange} (reads : OnlyReads exchanges) :
    changes exchanges = [] := by
  apply List.filter_eq_nil_iff.mpr
  intro request member
  obtain ⟨exchange, happened, rfl⟩ := List.mem_map.mp member
  simp [reads exchange happened]

theorem OnlyReads.changes_behind {behind : List Exchange} {request : Request} {reply : Reply}
    (reads : OnlyReads behind) (method : request.method ≠ "GET".text) :
    changes (⟨request, reply⟩ :: behind) = [request] := by
  have front : changes [⟨request, reply⟩] = [request] := by simp [changes, method]
  rw [← List.singleton_append, changes_append, reads.changes_eq, front, List.append_nil]

def CreatesNone (exchanges : List Exchange) : Prop :=
  ∀ exchange ∈ exchanges, exchange.request.method ≠ "POST".text

theorem createsNone_of_onlyReads {exchanges : List Exchange} (reads : OnlyReads exchanges) :
    CreatesNone exchanges := by
  intro exchange member
  rw [reads exchange member]
  decide

theorem CreatesNone.append {front back : List Exchange} (first : CreatesNone front)
    (others : CreatesNone back) : CreatesNone (front ++ back) := by
  intro exchange member
  rcases List.mem_append.mp member with among | among
  · exact first exchange among
  · exact others exchange among

end Harvest

namespace Session

open Harvest Program

def entryFor? (project task : Int) (entries : List TimeEntry) : Option TimeEntry :=
  entries.find? fun entry => entry.project.id == project && entry.task.id == task

theorem onlyReads_of_lookup {lookup : List Exchange}
    (asked : ∀ exchange ∈ lookup, exchange.request = Client.readingUser) : OnlyReads lookup := by
  intro exchange member
  rw [asked exchange member]
  rfl

variable [Console]

/-- What the start of a timer sends, and which requests among it do more than read. -/
inductive Started (session : Session) (project task : Int) (today : Date) :
    List Exchange → List Request → Prop
  /-- The listing was completed, without an entry for the project and the task. -/
  | created {lookup listing behind : List Exchange} {user : Int} {entries : List TimeEntry}
    {reply : Reply} (resolved : Resolved session.user lookup user)
    (gives : (Source.range today today user).Gives session.client.pageBudget 1 listing
      (.returned entries))
    (absent : entryFor? project task entries = none) (reads : OnlyReads behind) :
    Started session project task today
      (lookup ++ (listing ++ (⟨Client.creating project task today, reply⟩ :: behind)))
      [Client.creating project task today]
  /-- The listing was completed, and an entry was the first one for the project and the task. -/
  | restarted {lookup listing behind : List Exchange} {user : Int} {entries : List TimeEntry}
    {entry : TimeEntry} {reply : Reply} (resolved : Resolved session.user lookup user)
    (gives : (Source.range today today user).Gives session.client.pageBudget 1 listing
      (.returned entries))
    (found : entryFor? project task entries = some entry) (reads : OnlyReads behind) :
    Started session project task today
      (lookup ++ (listing ++ (⟨Client.changing entry.id "restart", reply⟩ :: behind)))
      [Client.changing entry.id "restart"]
  /-- The listing broke off. -/
  | unlisted {lookup listing : List Exchange} {user : Int} {outcome : Outcome (List TimeEntry)}
    (resolved : Resolved session.user lookup user)
    (gives : (Source.range today today user).Gives session.client.pageBudget 1 listing outcome)
    (breaks : outcome.Breaks) : Started session project task today (lookup ++ listing) []
  /-- Nothing was asked for, except perhaps for the user. -/
  | unasked {lookup : List Exchange}
    (asked : ∀ exchange ∈ lookup, exchange.request = Client.readingUser) :
    Started session project task today lookup []

theorem Resolved.asked {known : Option Int} {lookup : List Exchange} {user : Int}
    (resolved : Resolved known lookup user) :
    ∀ exchange ∈ lookup, exchange.request = Client.readingUser := by
  cases resolved with
  | known =>
    intro exchange member
    cases member
  | found decides =>
    intro exchange member
    rw [List.mem_singleton.mp member]

theorem Started.changes_eq {session : Session} {project task : Int} {today : Date}
    {exchanges : List Exchange} {changed : List Request}
    (started : Started session project task today exchanges changed) :
    changes exchanges = changed := by
  cases started with
  | created resolved gives absent reads =>
    rw [changes_append, changes_append, (onlyReads_of_lookup resolved.asked).changes_eq,
      gives.onlyReads.changes_eq, List.nil_append, List.nil_append]
    exact reads.changes_behind Client.method_creating
  | restarted resolved gives found reads =>
    rw [changes_append, changes_append, (onlyReads_of_lookup resolved.asked).changes_eq,
      gives.onlyReads.changes_eq, List.nil_append, List.nil_append]
    exact reads.changes_behind Client.method_changing
  | unlisted resolved gives breaks =>
    rw [changes_append, (onlyReads_of_lookup resolved.asked).changes_eq,
      gives.onlyReads.changes_eq]
    rfl
  | unasked asked => exact (onlyReads_of_lookup asked).changes_eq

/-- A line for whoever runs the program, and then the running timer as it is now. -/
def announced {α : Type} (text : String) (value : α) : SessionProgram α :=
  (Program.say text.text).bind fun _ => refreshRunningTimer.bind fun _ => .done value

def startFor (project task : Int) (today : Date) (user : Int) : SessionProgram TimeEntry :=
  Program.get.bind fun session =>
    (session.client.entriesOn user today today).bind fun entries =>
      match entryFor? project task entries with
      | some existing => (session.client.changeEntry existing.id "restart").bind
          (announced "Harvest timer restarted!")
      | none => (session.client.createEntry project task today).bind
          (announced "Harvest timer started!")

theorem startTimer_eq (project task : Int) (today : Date) :
    startTimer project task today = ensureUser.bind (startFor project task today) :=
  rfl

theorem stopTimer_eq : stopTimer = Program.get.bind fun session =>
    match session.runningTimer with
    | none => .done none
    | some timer => (session.client.changeEntry timer.id "stop").bind fun entry =>
        announced "Harvest timer stopped." (some entry) :=
  rfl

variable {α : Type} {past : List Exchange} {session : Session}
  {post : Outcome α → List Exchange → Session → Prop}

/-- What a refresh of the running timer comes to. Without a user nothing is asked for; a listing
that is completed gives the timer; one that breaks off leaves the timer that there was. -/
inductive Refreshed (session : Session) :
    List Exchange → Outcome (Option TimeEntry) → Session → Prop
  | unknown (unknown : session.user = none) : Refreshed session [] (.returned none) session
  | listed {listing : List Exchange} {user : Int} {entries : List TimeEntry}
    (known : session.user = some user)
    (gives : (Source.entries (Client.runningFilters user)).Gives session.client.pageBudget 1
      listing (.returned entries)) :
    Refreshed session listing (.returned entries.head?)
      { session with runningTimer := entries.head? }
  | unlisted {listing : List Exchange} {outcome : Outcome (Option TimeEntry)}
    (reads : OnlyReads listing) (breaks : outcome.Breaks) :
    Refreshed session listing outcome session

theorem Refreshed.onlyReads {session session' : Session} {exchanges : List Exchange}
    {outcome : Outcome (Option TimeEntry)}
    (refreshed : Refreshed session exchanges outcome session') : OnlyReads exchanges := by
  cases refreshed with
  | unknown =>
    intro exchange member
    cases member
  | listed known gives => exact gives.onlyReads
  | unlisted reads breaks => exact reads

theorem Refreshed.exists_timer {session session' : Session} {exchanges : List Exchange}
    {outcome : Outcome (Option TimeEntry)}
    (refreshed : Refreshed session exchanges outcome session') :
    ∃ timer, session' = { session with runningTimer := timer } := by
  cases refreshed with
  | unknown => exact ⟨session.runningTimer, rfl⟩
  | listed known gives => exact ⟨_, rfl⟩
  | unlisted reads breaks => exact ⟨session.runningTimer, rfl⟩

theorem assures_refreshRunningTimer
    {post : Outcome (Option TimeEntry) → List Exchange → Session → Prop}
    (ended : ∀ exchanges outcome session', Refreshed session exchanges outcome session' →
      post outcome (past ++ exchanges) session') :
    refreshRunningTimer.Assures (fun _ _ => True) post past session := by
  rw [refreshRunningTimer, bind_eq, assures_bind, assures_get]
  dsimp only [thenPost]
  cases known : session.user with
  | none =>
    have nothing := ended [] _ session (.unknown known)
    rw [List.append_nil] at nothing
    exact nothing
  | some user =>
    dsimp only
    rw [bind_eq, assures_bind]
    apply Source.assures_pages (Source.entries (Client.runningFilters user))
      (sends_entryPage session.client _)
    · intro online listing outcome gives
      cases outcome with
      | returned entries => exact ended _ _ _ (.listed known gives)
      | failed fault => exact ended _ _ session (.unlisted gives.onlyReads trivial)
      | spent => exact ended _ _ session (.unlisted gives.onlyReads trivial)
    · intro offline outcome breaks
      apply thenPost_of_breaks breaks
      intro outcome breaks
      have nothing := ended [] outcome session (.unlisted nofun breaks)
      rw [List.append_nil] at nothing
      exact nothing

/-- A change, and then the running timer as it is now. -/
theorem assures_announced {β : Type} {credentials : Bool} {request : Request}
    {read : Reply → Outcome β} {program : SessionProgram β} {text : String} {value : β → α}
    (sends : Sends credentials request read program)
    (ended : ∀ reply behind outcome timer, OnlyReads behind →
      (∀ result, outcome = .returned result → ∃ entry, result = value entry) →
      post outcome (past ++ ⟨request, reply⟩ :: behind) { session with runningTimer := timer })
    (offline : credentials = false → ∀ outcome, outcome.Breaks → post outcome past session) :
    (program.bind fun entry => announced text (value entry)).Assures (fun _ _ => True) post past
      session := by
  rw [assures_bind, sends]
  split
  · refine ⟨trivial, ?_⟩
    intro reply
    cases read reply with
    | returned entry =>
      dsimp only [thenPost]
      rw [announced, say_text]
      change ((refreshRunningTimer.bind fun _ => done (value entry)).Assures _ _ _ _)
      rw [assures_bind]
      apply assures_refreshRunningTimer
      intro behind outcome session' refreshed
      obtain ⟨timer, rfl⟩ := refreshed.exists_timer
      have whole := fun outcome => ended reply behind outcome timer refreshed.onlyReads
      rw [List.append_cons] at whole
      cases outcome with
      | returned running =>
        apply whole
        intro result same
        cases same
        exact ⟨entry, rfl⟩
      | failed fault => exact whole _ nofun
      | spent => exact whole _ nofun
    | failed fault => exact ended reply [] _ session.runningTimer nofun nofun
    | spent => exact ended reply [] _ session.runningTimer nofun nofun
  · rename_i noCredentials
    exact offline (Bool.not_eq_true _ ▸ noCredentials) _ trivial

/-- Whether a user is known: from the first, or from a lookup. -/
def KnownOf (known : Option Int) (past : List Exchange) (user : Int) : Prop :=
  known = some user ∨
    ∃ reply, ⟨Client.readingUser, reply⟩ ∈ past ∧ decided? reply = some (some user)

theorem KnownOf.append {known : Option Int} {more : List Exchange} {user : Int}
    (knownOf : KnownOf known past user) : KnownOf known (past ++ more) user := by
  rcases knownOf with same | ⟨reply, member, found⟩
  · exact Or.inl same
  · exact Or.inr ⟨reply, List.mem_append_left _ member, found⟩

theorem Resolved.knownOf {known : Option Int} {lookup : List Exchange} {user : Int}
    (resolved : Resolved known lookup user) : KnownOf known lookup user := by
  cases resolved with
  | known => exact Or.inl rfl
  | found decides => exact Or.inr ⟨_, List.mem_singleton.mpr rfl, decides⟩

/-- What the start of a timer comes to once the user is known. -/
theorem assures_startFor {project task user : Int} {today : Date} {lookup : List Exchange}
    {post : Outcome TimeEntry → List Exchange → Session → Prop}
    (resolved : Resolved session.user lookup user)
    (ended : ∀ exchanges changed outcome timer,
      Started session project task today (lookup ++ exchanges) changed →
        post outcome (past ++ (lookup ++ exchanges))
          { session with user := some user, runningTimer := timer }) :
    (startFor project task today user).Assures (fun _ _ => True) post (past ++ lookup)
      { session with user := some user } := by
  rw [startFor, assures_bind, assures_get]
  dsimp only [thenPost]
  rw [assures_bind]
  apply assures_entriesOn
  · intro online listing outcome gives
    rw [List.append_assoc]
    cases outcome with
    | returned entries =>
      dsimp only [asFetched, thenPost]
      cases found : entryFor? project task entries with
      | some existing =>
        apply assures_announced (sends_changeEntry session.client existing.id "restart")
        · intro reply behind outcome timer reads _
          rw [List.append_assoc, List.append_assoc]
          exact ended _ _ outcome timer (.restarted resolved gives found reads)
        · intro offline
          rw [online] at offline
          cases offline
      | none =>
        apply assures_announced (sends_createEntry session.client project task today)
        · intro reply behind outcome timer reads _
          rw [List.append_assoc, List.append_assoc]
          exact ended _ _ outcome timer (.created resolved gives found reads)
        · intro offline
          rw [online] at offline
          cases offline
    | failed fault => exact ended _ _ _ session.runningTimer (.unlisted resolved gives trivial)
    | spent => exact ended _ _ _ session.runningTimer (.unlisted resolved gives trivial)
  · intro offline outcome breaks
    apply thenPost_of_breaks breaks
    intro outcome breaks
    have asked := ended [] [] outcome session.runningTimer
    rw [List.append_nil] at asked
    exact asked (.unasked resolved.asked)

/-- What the start of a timer comes to. It leaves a user that it resolved, and some timer. -/
theorem assures_startTimer {project task : Int} {today : Date}
    {post : Outcome TimeEntry → List Exchange → Session → Prop}
    (ended : ∀ exchanges changed outcome user timer,
      Started session project task today exchanges changed →
      (∀ id, user = some id → KnownOf session.user exchanges id) →
        post outcome (past ++ exchanges) { session with user, runningTimer := timer }) :
    (startTimer project task today).Assures (fun _ _ => True) post past session := by
  rw [startTimer_eq, assures_bind]
  apply assures_ensureUser
  · intro lookup user resolved
    apply assures_startFor resolved
    intro exchanges changed outcome timer started
    apply ended _ _ outcome (some user) timer started
    intro id same
    cases same
    exact resolved.knownOf.append
  · intro unknown reply refused
    exact ended _ _ _ session.user session.runningTimer (.unasked (by simp))
      fun id same => Or.inl same
  · intro unknown reply fault undecided looked
    exact ended _ _ _ session.user session.runningTimer (.unasked (by simp))
      fun id same => Or.inl same
  · intro unknown offline
    have alone := ended [] [] (.failed (.harvest userUnknown)) session.user session.runningTimer
      (.unasked nofun) fun id same => Or.inl same
    rw [List.append_nil] at alone
    exact alone

/-- What a stop comes to: nothing is asked for unless there is a timer, and then it is that timer
that is stopped. -/
theorem assures_stopTimer {post : Outcome (Option TimeEntry) → List Exchange → Session → Prop}
    (idle : session.runningTimer = none → post (.returned none) past session)
    (ended : ∀ exchanges outcome timer, CreatesNone exchanges → outcome ≠ .returned none →
      post outcome (past ++ exchanges) { session with runningTimer := timer }) :
    stopTimer.Assures (fun _ _ => True) post past session := by
  rw [stopTimer_eq, assures_bind, assures_get]
  dsimp only [thenPost]
  split
  · rename_i nothing
    exact idle nothing
  · rename_i timer running
    apply assures_announced (sends_changeEntry session.client timer.id "stop")
    · intro reply behind outcome later reads value
      apply ended
      · intro exchange member
        rcases List.mem_cons.mp member with rfl | among
        · change "PATCH".text ≠ "POST".text
          decide
        · exact createsNone_of_onlyReads reads exchange among
      · intro nothing
        obtain ⟨entry, same⟩ := value none nothing
        cases same
    · intro offline outcome breaks
      have still := ended [] outcome session.runningTimer nofun
      rw [List.append_nil] at still
      apply still
      rintro rfl
      exact breaks.elim

/-- What a toggle comes to: a refresh, and a stop behind it when there is a timer. -/
theorem assures_toggleTimer {post : Outcome (Option TimeEntry) → List Exchange → Session → Prop}
    (idle : ∀ exchanges running session', Refreshed session exchanges (.returned running) session' →
      session'.runningTimer = none → post (.returned none) (past ++ exchanges) session')
    (ended : ∀ exchanges outcome timer, CreatesNone exchanges → outcome ≠ .returned none →
      post outcome (past ++ exchanges) { session with runningTimer := timer }) :
    toggleTimer.Assures (fun _ _ => True) post past session := by
  rw [toggleTimer, bind_eq, assures_bind]
  apply assures_refreshRunningTimer
  intro listing outcome session' refreshed
  have reads := createsNone_of_onlyReads refreshed.onlyReads
  obtain ⟨timer, same⟩ := refreshed.exists_timer
  cases outcome with
  | returned running =>
    dsimp only [thenPost]
    apply assures_stopTimer
    · exact idle listing running session' refreshed
    · intro exchanges outcome later stops something
      rw [List.append_assoc, same]
      exact ended _ _ later (reads.append stops) something
  | failed fault =>
    rw [same]
    exact ended _ _ timer reads nofun
  | spent =>
    rw [same]
    exact ended _ _ timer reads nofun

end Session
end TimeReports

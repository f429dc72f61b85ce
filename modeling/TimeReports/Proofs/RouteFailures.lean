import TimeReports.Proofs.DayCounts
import TimeReports.Proofs.Gathering
import TimeReports.Proofs.TimerAnswers

set_option autoImplicit false

namespace TimeReports.Service

open Harvest Program

section Calls

/-- A request about the timer or the projects. -/
inductive Call where
  | timer
  | start (request : StartRequest)
  | stop
  | toggle
  | projects (refresh : Bool)
  | tasks (project : Int)

namespace Call

def Value : Call → Type
  | timer => Option TimeEntry
  | start _ => TimeEntry
  | stop => Option TimeEntry
  | toggle => Option TimeEntry
  | projects _ => List Project
  | tasks _ => List TaskAssignment

/-- The answer to the value of the operation, with the session behind it. -/
def answer : (call : Call) → call.Value → Session → Answer
  | .timer, _, session => timerAnswer session none
  | .start _, _, session => timerAnswer session (some .started)
  | .stop, none, _ => .problem noRunningTimer
  | .stop, some _, session => timerAnswer session (some .stopped)
  | .toggle, none, session => timerAnswer session (some .selectProject)
  | .toggle, some _, session => timerAnswer session (some .stopped)
  | .projects _, listed, _ => success (.array (listed.map projectJson))
  | .tasks _, [], _ => .problem noTasks
  | .tasks _, task :: others, _ => success (.array ((task :: others).map taskJson))

end Call

/-- Whether a request carries the key of the service and is well formed, and which call it is. -/
inductive Asks (serverKey : Text) (incoming : Incoming) : Call → Prop
  | timer (found : Route.find incoming = .ok .timer)
    (key : checkKey serverKey incoming = .right) : Asks serverKey incoming .timer
  | start {body : Body} {request : StartRequest} (found : Route.find incoming = .ok .startTimer)
    (key : checkKey serverKey incoming = .right) (read : readBody incoming = .ok body)
    (narrowed : narrowBody StartRequest.ofJson body = .ok request) :
    Asks serverKey incoming (.start request)
  | stop (found : Route.find incoming = .ok .stopTimer)
    (key : checkKey serverKey incoming = .right) : Asks serverKey incoming .stop
  | toggle (found : Route.find incoming = .ok .toggleTimer)
    (key : checkKey serverKey incoming = .right) : Asks serverKey incoming .toggle
  | projects {refresh : Bool} (found : Route.find incoming = .ok .projects)
    (key : checkKey serverKey incoming = .right) (flag : refreshFlag incoming = .ok refresh) :
    Asks serverKey incoming (.projects refresh)
  | tasks {text : Text} {project : Int} (found : Route.find incoming = .ok (.tasks text))
    (key : checkKey serverKey incoming = .right) (number : projectNumber text = .ok project) :
    Asks serverKey incoming (.tasks project)

variable {serverKey : Text} {incoming : Incoming} {stamp : Stamp} {today : Date} {call : Call}
  {service : Service} {replies : List Reply}

/-- What a request for a call is answered with while nothing escapes: content, one of two problems
that tell what is not there, or the problem of a failure. -/
inductive Expected (call : Call) : Answer → Prop
  | content (body : Json) : Expected call (.content 200 body)
  | noTasks {project : Int} (asks : call = .tasks project) : Expected call (.problem noTasks)
  | noRunningTimer (asks : call = .stop) : Expected call (.problem noRunningTimer)
  | failed (failure : ApiFailure) : Expected call (.problem (harvestProblem failure))

theorem expected_answer (call : Call) (value : call.Value) (session : Session) :
    Expected call (call.answer value session) ∧ (call.answer value session).status ≠ 502 := by
  have found : (200 : Nat) ≠ 502 := by decide
  have conflict : (409 : Nat) ≠ 502 := by decide
  have missing : (404 : Nat) ≠ 502 := by decide
  cases call with
  | timer => exact ⟨.content _, found⟩
  | start request => exact ⟨.content _, found⟩
  | stop =>
    cases value with
    | none => exact ⟨.noRunningTimer rfl, conflict⟩
    | some entry => exact ⟨.content _, found⟩
  | toggle => cases value <;> exact ⟨.content _, found⟩
  | projects refresh => exact ⟨.content _, found⟩
  | tasks project =>
    cases value with
    | nil => exact ⟨.noTasks rfl, missing⟩
    | cons task others => exact ⟨.content _, found⟩

theorem Expected.ne_crashed {answer : Answer} (expected : Expected call answer) :
    answer ≠ .crashed := by
  cases expected <;> nofun

/-- The first day with so many days before it as make a project recent. -/
def firstClock : Date := ⟨1, 1, 31, by decide⟩

theorem exists_since (clock : firstClock ≤ today) :
    ∃ since, today.addDays? (-(Client.recentDays : Int)) = some since := by
  have bound : firstClock.ordinal ≤ today.ordinal := clock
  have first : firstClock.ordinal = 31 := by decide
  have last := today.ordinal_le_lastOrdinal
  apply Option.ne_none_iff_exists'.mp
  intro unplaced
  have outside := Date.addDays?_eq_none_iff.mp unplaced
  have days : (Client.recentDays : Int) = 30 := rfl
  omega

theorem mem_details {failure : ApiFailure} {detail : Text} :
    detail ∈ (harvestProblem failure).details ↔ ∃ status, failure.status = some status ∧
      status ≠ 0 ∧ detail = "Harvest status: ".text ++ Text.intDigits status := by
  unfold harvestProblem
  dsimp only
  split
  · simp_all
  · simp_all
  · simp_all

theorem run_inSession {α : Type} (program : SessionProgram α) (service : Service)
    (replies : List Reply) : (inSession program).run service replies =
      { outcome := (program.run service.desk.session replies).outcome
        state := service.withSession (program.run service.desk.session replies).state
        unused := (program.run service.desk.session replies).unused
        events := (program.run service.desk.session replies).events } := by
  rw [inSession, run_zoom Service.desk (fun service desk => { service with desk }) (fun _ => rfl)
    (fun _ _ => rfl) fun _ _ _ => rfl, Desk.run_inSession]
  rfl

theorem run_map {σ α β : Type} (program : Program σ α) (change : α → β) (state : σ)
    (replies : List Reply) : (program.bind fun value => .done (change value)).run state replies =
      { outcome := (program.run state replies).outcome.map change
        state := (program.run state replies).state
        unused := (program.run state replies).unused
        events := (program.run state replies).events } := by
  rw [run_bind]
  generalize program.run state replies = run
  cases ending : run.outcome with
  | returned value =>
    rw [Run.andThen_of_returned _ ending]
    simp only [Program.run, Run.behind, List.append_nil, Outcome.map]
  | failed fault =>
    rw [Run.andThen_of_failed _ ending]
    rfl
  | spent =>
    simp only [Run.andThen, ending]
    rfl

def answered {α : Type} (answer : α → Session → Answer) (run : Run Session α) : Outcome Answer :=
  match run.outcome with
  | .returned value => .returned (answer value run.state)
  | .failed fault =>
    match fault.apiFailure? with
    | some failure => .returned (.problem (harvestProblem failure))
    | none => .returned .crashed
  | .spent => .spent

theorem run_answering {α : Type} (program : SessionProgram α) {next : α → Program Service Answer}
    {answer : α → Session → Answer} (service : Service) (replies : List Reply)
    (answers : ∀ value service replies, (next value).run service replies =
      ⟨.returned (answer value service.desk.session), service, replies, []⟩) :
    (answering program next).run service replies =
      { outcome := answered answer (program.run service.desk.session replies)
        state := service.withSession (program.run service.desk.session replies).state
        unused := (program.run service.desk.session replies).unused
        events := (program.run service.desk.session replies).events } := by
  rw [answering, bind_eq, run_bind, run_attempt, run_inSession]
  unfold answered
  generalize program.run service.desk.session replies = run
  cases ending : run.outcome with
  | returned value =>
    rw [Run.attempted_of_returned rfl, Run.andThen_of_returned _ rfl]
    dsimp only
    rw [answers]
    simp only [Run.behind, List.append_nil]
    rfl
  | failed fault =>
    rw [Run.attempted_of_failed rfl, Run.andThen_of_returned _ rfl]
    dsimp only
    cases fault.apiFailure? <;> simp only [pure_eq, Program.run, Run.behind, List.append_nil]
  | spent => simp only [Run.attempted, Run.andThen]

theorem showing_answered (body : Body) (run : Run Session call.Value) :
    (answered call.answer run).map (showing body) = answered call.answer run := by
  have shown {answer : Answer} (expected : Expected call answer) :
      showing body answer = answer := by
    cases expected <;> rfl
  unfold answered
  cases run.outcome with
  | returned value => exact congrArg Outcome.returned (shown (expected_answer call _ _).1)
  | failed fault =>
    dsimp only
    cases fault.apiFailure? <;> rfl
  | spent => rfl

variable [Console]

namespace Call

def operation (today : Date) : (call : Call) → SessionProgram call.Value
  | timer => Session.refreshRunningTimer
  | start request => Session.startTimer request.project request.task today
  | stop => Session.toggleTimer
  | toggle => Session.toggleTimer
  | projects refresh => Session.refreshProjects refresh today
  | tasks project => Session.projectTasks project today

def handler (today : Date) : Call → Program Service Answer
  | timer => getTimer
  | start request => startTimer request today
  | stop => stopTimer
  | toggle => toggleTimer
  | projects refresh => listProjects refresh today
  | tasks project => listTasks project today

end Call

def Call.operated (call : Call) (today : Date) (service : Service) (replies : List Reply) :
    Run Session call.Value :=
  (call.operation today).run service.desk.session replies

theorem run_handler (call : Call) : (call.handler today).run service replies =
    { outcome := answered call.answer (call.operated today service replies)
      state := service.withSession (call.operated today service replies).state
      unused := (call.operated today service replies).unused
      events := (call.operated today service replies).events } := by
  cases call with
  | timer => exact run_answering _ service replies fun value service replies => rfl
  | start request => exact run_answering _ service replies fun value service replies => rfl
  | stop =>
    apply run_answering
    intro value service replies
    cases value <;> rfl
  | toggle =>
    apply run_answering
    intro value service replies
    cases value <;> rfl
  | projects refresh => exact run_answering _ service replies fun value service replies => rfl
  | tasks project =>
    apply run_answering
    intro value service replies
    cases value <;> rfl

/-- A request that asks for a call is answered by its handler. -/
theorem run_answerOf (asks : Asks serverKey incoming call) :
    (answerOf serverKey stamp today incoming).run service replies =
      (call.handler today).run service replies := by
  cases asks with
  | start found key read narrowed =>
    rename_i body request
    have shown : answerOf serverKey stamp today incoming =
        (startTimer request today).bind fun answer => .done (showing body answer) := by
      simp only [answerOf, found, key, guardedBody, read, narrowed]
      rfl
    rw [shown, run_map]
    change _ = ((Call.start request).handler today).run service replies
    have handled : (startTimer request today).run service replies = _ :=
      run_handler (.start request)
    rw [handled, showing_answered]
    exact handled.symm
  | timer found key =>
    simp only [answerOf, found, key]
    rfl
  | stop found key =>
    simp only [answerOf, found, key]
    rfl
  | toggle found key =>
    simp only [answerOf, found, key]
    rfl
  | projects found key flag =>
    simp only [answerOf, found, key, flag]
    rfl
  | tasks found key number =>
    simp only [answerOf, found, key, number]
    rfl

/-- Whether a reply is ordinary, or a failure of the service itself. -/
def Meets (reply : Reply) : Prop :=
  reply.Ordinary ∨ ∃ fault failure, reply = .broke fault ∧ fault.apiFailure? = some failure

/-- Whether the console takes what is said of an exchange, if it fails: of a connection that failed,
and of a lookup of the user in vain. -/
structure Voiced (exchange : Exchange) : Prop where
  connection : exchange.reply.Taken
  lookup : exchange.request = Client.readingUser → Session.Reportable exchange.reply

/-- Whether an exchange is calm: it fails, if it does, as a failure of the service that can be
reported. -/
def Calm (exchange : Exchange) : Prop := Meets exchange.reply ∧ Voiced exchange

/-- The faults of replies are failures of the service just when they are met and reported. -/
theorem reported_iff_of_readAs {α : Type} {reader : Record.Reader α} {what : String}
    {reply : Reply} {fault : Fault} (failed : readAs reader what reply = .failed fault) :
    (∃ failure, fault.apiFailure? = some failure) ↔ Meets reply ∧ reply.Taken := by
  cases faulted_of_readAs failed with
  | reported ordinary taken => exact iff_of_true ⟨_, rfl⟩ ⟨Or.inl ordinary, taken⟩
  | silenced silenced =>
    exact iff_of_false nofun fun calm => not_taken_of_silenced silenced calm.2
  | tooDeep decoded =>
    apply iff_of_false
    · rintro ⟨failure, ⟨⟩⟩
    · rintro ⟨ordinary | ⟨inner, failure, ⟨⟩, -⟩, -⟩
      exact ordinary _ decoded
  | broke =>
    constructor
    · rintro ⟨failure, reported⟩
      exact ⟨Or.inr ⟨fault, failure, rfl, reported⟩, nofun⟩
    · rintro ⟨ordinary | ⟨inner, failure, same, reported⟩, -⟩
      · exact ordinary.elim
      · cases same
        exact ⟨failure, reported⟩

/-- Failures of the service are what is reported of calm exchanges. -/
theorem blames_service : Blames Calm fun fault => ∃ failure, fault.apiFailure? = some failure where
  reported := fun reported => ⟨_, reported⟩
  returned := fun reader what request reply value other returned =>
    ⟨Or.inl (ordinary_of_readAs returned), taken_of_readAs returned,
      fun asked => absurd asked other⟩
  failed := by
    intro α reader what request reply fault other failed
    rw [reported_iff_of_readAs failed]
    exact ⟨fun calm => ⟨calm.1, calm.2, fun asked => absurd asked other⟩,
      fun calm => ⟨calm.1, calm.2.connection⟩⟩
  decided := by
    intro reply user looked
    have reportable : Session.Reportable reply := by
      by_contra unreportable
      have undecided := Session.decided?_of_not_reportable unreportable
      rw [Session.decided?_eq_some_iff.mpr looked] at undecided
      cases undecided
    cases Session.lookupEnd_of looked with
    | found read =>
      exact ⟨Or.inl (ordinary_of_readAs read), taken_of_readAs read, fun _ => reportable⟩
    | forgotten read reported _ =>
      have met := (reported_iff_of_readAs read).mp ⟨_, reported⟩
      exact ⟨met.1, met.2, fun _ => reportable⟩
  undecided := by
    intro reply fault looked
    cases Session.lookupEnd_of looked with
    | refused read reported refused =>
      refine iff_of_false nofun fun calm => ?_
      exact Console.not_takes_of_refusal refused
        (calm.2.lookup rfl _ _ read reported)
    | escaped read unreported =>
      refine iff_of_false ?_ fun calm => ?_
      · rintro ⟨failure, reported⟩
        cases unreported.symm.trans reported
      · obtain ⟨failure, reported⟩ :=
          (reported_iff_of_readAs read).mpr ⟨calm.1, calm.2.connection⟩
        cases unreported.symm.trans reported

theorem accounts_operation (clock : firstClock ≤ today) (client : Client) (call : Call) :
    Session.Accounts Calm (fun fault => ∃ failure, fault.apiFailure? = some failure) client
      (call.operation today) := by
  obtain ⟨since, placed⟩ := exists_since clock
  cases call with
  | timer => exact Session.accounts_refreshRunningTimer blames_service
  | start request => exact Session.accounts_startTimer blames_service _ _ today
  | stop => exact Session.accounts_toggleTimer blames_service
  | toggle => exact Session.accounts_toggleTimer blames_service
  | projects refresh => exact Session.accounts_refreshProjects blames_service placed refresh
  | tasks project => exact Session.accounts_projectTasks blames_service placed project

/-- How the answer to a call agrees with what its operation ended with and with the replies. -/
structure Surfaces (call : Call) (session : Session) (operated : Run Session call.Value)
    (answer : Answer) : Prop where
  /-- Each of the answers that a route has comes from ordinary replies whose failures the console
  lets be reported, and only from them. -/
  expected : Expected call answer ↔
    ∀ exchange ∈ operated.exchanges, exchange.reply.Ordinary ∧ Voiced exchange
  /-- Otherwise a fault that is no failure of the service escapes. -/
  crashed : answer = .crashed ↔
    ¬ ∀ exchange ∈ operated.exchanges, exchange.reply.Ordinary ∧ Voiced exchange
  failed : answer.status = 502 ↔ ∃ fault failure, operated.outcome = .failed fault ∧
    fault.apiFailure? = some failure
  /-- The problem says what the failure says, and names its status if it has one. -/
  told : ∀ fault failure, operated.outcome = .failed fault → fault.apiFailure? = some failure →
    ∃ details, answer = .problem ⟨502, failure.message, .harvestApiError, details⟩ ∧
      ∀ detail, detail ∈ details ↔ ∃ status, failure.status = some status ∧ status ≠ 0 ∧
        detail = "Harvest status: ".text ++ Text.intDigits status
  /-- A lookup that is refused leaves the managed projects. -/
  managed : ∀ refresh listing listed reply, call = .projects refresh →
    operated.exchanges = listing ++ [⟨Client.readingUser, reply⟩] →
    Source.managed.Gives session.client.pageBudget 1 listing (.returned listed) →
    Session.decided? reply = some none →
      answer = success (.array ((Session.merged listed []).map projectJson))

/-- The managed projects are what is shown behind a lookup that is refused. -/
theorem operated_of_refused {refresh : Bool} {listing : List Exchange} {listed : List Project}
    {reply : Reply}
    (same : ((Call.projects refresh).operated today service replies).exchanges =
      listing ++ [⟨Client.readingUser, reply⟩])
    (gives : Source.managed.Gives service.desk.session.client.pageBudget 1 listing
      (.returned listed)) (refused : Session.decided? reply = some none) :
    ((Call.projects refresh).operated today service replies).outcome =
      .returned (Session.merged listed []) := by
  have assured : (Session.refreshProjects refresh today).Assures (fun _ _ => True)
      (fun outcome past _ => past = listing ++ [⟨Client.readingUser, reply⟩] →
        outcome = .returned (Session.merged listed [])) [] service.desk.session := by
    rw [Session.refreshProjects, bind_eq, assures_bind, assures_get]
    dsimp only [thenPost]
    split
    · intro nothing
      simp at nothing
    · rw [bind_eq, assures_bind]
      apply Session.assures_collectProjects
      intro exchanges outcome user collected
      cases outcome with
      | returned projects =>
        intro ended
        exact collected.eq_of_refused ended gives refused
      | failed fault =>
        intro ended
        cases collected.eq_of_refused ended gives refused
      | spent =>
        intro ended
        cases collected.eq_of_refused ended gives refused
  exact assured.run replies same

theorem surfaces_of_returned {value : call.Value}
    (returned : (call.operated today service replies).outcome = .returned value)
    (sound : ∀ exchange ∈ (call.operated today service replies).exchanges,
      exchange.reply.Ordinary ∧ Voiced exchange) :
    Surfaces call service.desk.session (call.operated today service replies)
      (call.answer value (call.operated today service replies).state) where
  expected := iff_of_true (expected_answer call _ _).1 sound
  crashed := iff_of_false (expected_answer call _ _).1.ne_crashed (not_not_intro sound)
  failed := by
    apply iff_of_false (expected_answer call _ _).2
    intro ⟨fault, failure, failed, _⟩
    rw [returned] at failed
    cases failed
  told := by
    intro fault failure failed
    rw [returned] at failed
    cases failed
  managed := by
    intro refresh listing listed reply asks same gives refused
    subst asks
    have shown := operated_of_refused same gives refused
    rw [returned] at shown
    cases shown
    rfl

theorem surfaces_of_reported {fault : Fault} {failure : ApiFailure}
    (failed : (call.operated today service replies).outcome = .failed fault)
    (reported : fault.apiFailure? = some failure)
    (sound : ∀ exchange ∈ (call.operated today service replies).exchanges,
      exchange.reply.Ordinary ∧ Voiced exchange) :
    Surfaces call service.desk.session (call.operated today service replies)
      (.problem (harvestProblem failure)) where
  expected := iff_of_true (.failed failure) sound
  crashed := iff_of_false nofun (not_not_intro sound)
  failed := iff_of_true rfl ⟨fault, failure, failed, reported⟩
  told := by
    intro other failure' failed' reported'
    rw [failed] at failed'
    cases failed'
    rw [reported] at reported'
    cases reported'
    exact ⟨_, rfl, fun detail => mem_details⟩
  managed := by
    intro refresh listing listed reply asks same gives refused
    subst asks
    have shown := operated_of_refused same gives refused
    rw [failed] at shown
    cases shown

theorem surfaces_of_escaped {fault : Fault}
    (failed : (call.operated today service replies).outcome = .failed fault)
    (unreported : fault.apiFailure? = none)
    (disturbed : ¬ ∀ exchange ∈ (call.operated today service replies).exchanges,
      exchange.reply.Ordinary ∧ Voiced exchange) :
    Surfaces call service.desk.session (call.operated today service replies) .crashed where
  expected := iff_of_false nofun disturbed
  crashed := iff_of_true rfl disturbed
  failed := by
    apply iff_of_false (by decide : (500 : Nat) ≠ 502)
    intro ⟨other, failure, failed', reported⟩
    rw [failed] at failed'
    cases failed'
    rw [unreported] at reported
    cases reported
  told := by
    intro other failure failed' reported
    rw [failed] at failed'
    cases failed'
    rw [unreported] at reported
    cases reported
  managed := by
    intro refresh listing listed reply asks same gives refused
    subst asks
    have shown := operated_of_refused same gives refused
    rw [failed] at shown
    cases shown

/-- Whether the connection fails only in ways that are reported. -/
def Carried (reply : Reply) : Prop := ∀ fault, reply ≠ .broke fault

theorem undisturbed_iff {exchanges : List Exchange}
    (carried : ∀ exchange ∈ exchanges, Carried exchange.reply) :
    Undisturbed Calm exchanges ↔
      ∀ exchange ∈ exchanges, exchange.reply.Ordinary ∧ Voiced exchange := by
  refine forall₂_congr fun exchange member => and_congr_left fun _ => ?_
  constructor
  · rintro (ordinary | ⟨fault, failure, broke, -⟩)
    · exact ordinary
    · exact absurd broke (carried exchange member fault)
  · exact Or.inl

/-- What the operation of a call ended with surfaces in the answer. -/
theorem exists_surfaces (call : Call) (clock : firstClock ≤ today)
    (carried : ∀ reply ∈ replies, Carried reply)
    (enough : replies.length < service.desk.session.client.pageBudget) :
    ∃ answer, answered call.answer (call.operated today service replies) = .returned answer ∧
      Surfaces call service.desk.session (call.operated today service replies) answer := by
  have verdict := (accounts_operation clock service.desk.session.client call).verdict rfl replies
  have budget : ¬ Spends service.desk.session.client.pageBudget
      (call.operated today service replies).exchanges := not_spends enough
  have heard : ∀ exchange ∈ (call.operated today service replies).exchanges,
      Carried exchange.reply := by
    intro exchange happened
    rcases reply_of_mem_exchanges happened with given | absent
    · exact carried _ given
    · rw [absent]
      nofun
  have calm := undisturbed_iff heard
  change Session.Verdict _ _ _ (call.operated today service replies).outcome
    (call.operated today service replies).exchanges _ at verdict
  unfold answered
  cases ending : (call.operated today service replies).outcome with
  | returned value =>
    rw [ending] at verdict
    cases verdict with
    | returned same undisturbed =>
      exact ⟨_, rfl, surfaces_of_returned ending (calm.mp undisturbed)⟩
  | failed fault =>
    rw [ending] at verdict
    cases verdict with
    | failed same blamed =>
      dsimp only
      cases reported : fault.apiFailure? with
      | some failure =>
        have undisturbed := blamed.mp ⟨failure, reported⟩
        exact ⟨_, rfl, surfaces_of_reported ending reported (calm.mp undisturbed)⟩
      | none =>
        refine ⟨_, rfl, surfaces_of_escaped ending reported ?_⟩
        intro sound
        obtain ⟨failure, found⟩ := blamed.mpr (calm.mpr sound)
        rw [reported] at found
        cases found
  | spent =>
    rw [ending] at verdict
    cases verdict with
    | spent same spends => exact absurd spends budget

/-- A request about the timer or the projects that carries the key and is well formed, made of a
service of any state at any day late enough, is answered: by content, by one of the two problems of
its route, or by the problem of the failure that its operation met, just when every reply to its
operation is ordinary and the console takes what is said of a connection that failed and of a lookup
in vain. A reply too deep to be read makes it crash, and so does a line that is refused. -/
theorem surfaces_of_answer (serverKey : Text) (stamp : Stamp) (today : Date) (incoming : Incoming)
    (service : Service) (replies : List Reply) {call : Call}
    (asks : Asks serverKey incoming call) (clock : firstClock ≤ today)
    (carried : ∀ reply ∈ replies, Carried reply)
    (enough : replies.length < service.desk.session.client.pageBudget) :
    ∃ answer,
      ((answerOf serverKey stamp today incoming).run service replies).outcome = .returned answer ∧
      ((handle serverKey stamp today incoming).run service replies).outcome =
        .returned (sendable answer) ∧
      ((handle serverKey stamp today incoming).run service replies).exchanges =
        (call.operated today service replies).exchanges ∧
      Surfaces call service.desk.session (call.operated today service replies) answer := by
  obtain ⟨answer, ended, surfaces⟩ := exists_surfaces call clock carried enough
  have routed : (answerOf serverKey stamp today incoming).run service replies = _ :=
    (run_answerOf asks).trans (run_handler call)
  have handled : (handle serverKey stamp today incoming).run service replies = _ :=
    run_map (answerOf serverKey stamp today incoming) sendable service replies
  rw [handled, routed, ended]
  exact ⟨answer, rfl, rfl, rfl, surfaces⟩

end Calls

/-- The service of the examples, with a user who is known. -/
def knownTimer : Service :=
  ⟨⟨.start ⟨"t".text, "a".text, 3⟩ (some 7), ⟨[], [], [], .none⟩⟩, .empty⟩

/-- An answer of a service that is out of order. -/
def downReply : Reply := .answered ⟨503, [], Text.utf8 "\x7b\"message\": \"down\"\x7d".text⟩

theorem asks_timerRequest : Asks "key".text timerRequest .timer := by
  have right : checkKey "key".text timerRequest = .right := by decide +kernel
  exact .timer found_timerRequest right

/-- A listing that is refused surfaces as a problem with the status of the answer. -/
theorem downReply_surfaces : ∃ answer,
    ((answerOf "key".text ⟨[], [], 0⟩ Execution.someDay timerRequest).run knownTimer
      [downReply]).outcome = .returned answer ∧ answer.status = 502 ∧
    Surfaces .timer knownTimer.desk.session
      (Call.timer.operated Execution.someDay knownTimer [downReply]) answer := by
  have status : ((answerOf "key".text ⟨[], [], 0⟩ Execution.someDay timerRequest).run knownTimer
      [downReply]).value?.map Answer.status = some 502 := by decide +kernel
  have carried : ∀ reply ∈ [downReply], Carried reply := by
    simp [downReply, Carried]
  obtain ⟨answer, ended, -, -, surfaces⟩ := surfaces_of_answer "key".text ⟨[], [], 0⟩
    Execution.someDay timerRequest knownTimer [downReply] asks_timerRequest (by decide) carried
    (by decide)
  refine ⟨answer, ended, ?_, surfaces⟩
  rw [Run.value?_eq_some_iff.mpr ended] at status
  exact Option.some.inj status

/-- An answer of success whose body holds too many lists within each other. -/
def deepReply : Reply := .answered ⟨200, [], Text.utf8 (List.replicate 1000 (.char '['))⟩

/-- A body that is too deep escapes as a fault that no handler expects. -/
theorem deepReply_crashes : Asks "key".text timerRequest .timer ∧
    firstClock ≤ Execution.someDay ∧ Carried deepReply ∧
    ∃ answer, ((handle "key".text ⟨[], [], 0⟩ Execution.someDay timerRequest).run knownTimer
      [deepReply]).outcome = .returned answer ∧ answer.status = 500 ∧ ¬ Expected .timer answer := by
  have status : ((handle "key".text ⟨[], [], 0⟩ Execution.someDay timerRequest).run knownTimer
      [deepReply]).value?.map Answer.status = some 500 := by decide +kernel
  obtain ⟨answer, valued, crashed⟩ := Option.map_eq_some_iff.mp status
  refine ⟨asks_timerRequest, by decide, nofun, answer, Run.value?_eq_some_iff.mp valued, crashed,
    ?_⟩
  intro expected
  cases expected <;> cases crashed

end TimeReports.Service

import TimeReports.Proofs.Ownership
import TimeReports.Proofs.Timers

set_option autoImplicit false

namespace TimeReports.Service

open Harvest Program

def Answer.field? (answer : Answer) (name : String) : Option Json :=
  match answer.body with
  | .object members => Json.member? members name.text
  | _ => none

def timerText : Option TimeEntry → Text
  | none => "Harvest: No timer running".text
  | some timer =>
    "Harvest: ".text ++ timer.project.name ++ " - ".text ++ timer.task.name ++ " (".text
      ++ Number.fixed 2 timer.hours ++ "h)".text

/-- Whether an answer tells of a timer, or that there is none. -/
inductive Reports : Answer → Option TimeEntry → Prop
  | content {answer : Answer} {timer : Option TimeEntry}
    (running : answer.field? "running" = some (.bool timer.isSome))
    (status : answer.field? "status_text" = some (.string (timerText timer)))
    (entry : answer.field? "entry" =
      some (timer.elim .null fun entry => finite (entryJson entry))) :
    Reports answer timer
  | idle : Reports (.problem noRunningTimer) none

/-- Whether an answer of a route is one that speaks for the running timer: the timer is shown, there
is none to stop, or there is none and a project is to be picked. -/
def Speaks : Route → Answer → Prop
  | .timer, answer => answer.status = 200
  | .stopTimer, answer => answer.status = 409
  | .toggleTimer, answer => answer.field? "action" = some (.string Action.selectProject.name)
  | _, _ => False

theorem reports_timerAnswer (session : Session) (action : Option Action) :
    Reports (timerAnswer session action) session.runningTimer := by
  apply Reports.content
  · rfl
  · have said : session.statusText = timerText session.runningTimer := by
      unfold Session.statusText timerText
      cases session.runningTimer <;> rfl
    rw [← said]
    rfl
  · have shown : (timerAnswer session action).field? "entry" =
        some (finite (session.runningTimer.elim .null entryJson)) := rfl
    rw [shown]
    cases session.runningTimer <;> rfl

/-- An answer that speaks for no timer on any route. -/
structure Silent (answer : Answer) : Prop where
  status : answer.status ≠ 200 ∧ answer.status ≠ 409
  action : answer.field? "action" = none

theorem Silent.not_speaks {answer : Answer} (silent : Silent answer) (route : Route) :
    ¬ Speaks route answer := by
  intro speaks
  cases route with
  | timer => exact silent.status.1 speaks
  | stopTimer => exact silent.status.2 speaks
  | toggleTimer =>
    have shown : answer.field? "action" = some (.string Action.selectProject.name) := speaks
    rw [silent.action] at shown
    cases shown
  | _ => exact speaks

theorem silent_crashed : Silent .crashed := ⟨⟨by decide, by decide⟩, rfl⟩

theorem silent_refused (faults : List Record.Fault) : Silent (.refused faults) :=
  ⟨(by decide : (422 : Nat) ≠ 200 ∧ (422 : Nat) ≠ 409), rfl⟩

theorem silent_problem {met : Problem} (status : met.status ≠ 200 ∧ met.status ≠ 409) :
    Silent (.problem met) :=
  ⟨status, rfl⟩

def withSession (service : Service) (session : Session) : Service :=
  { service with desk := { service.desk with session } }

theorem assures_inSession {α : Type} {past : List Exchange} {service : Service}
    {program : SessionProgram α} {holds : List Exchange → Service → Prop}
    {post : Outcome α → List Exchange → Service → Prop} :
    (inSession program).Assures holds post past service ↔
      program.Assures (fun past session => holds past (service.withSession session))
        (fun outcome past session => post outcome past (service.withSession session)) past
        service.desk.session := by
  unfold inSession
  rw [assures_zoom rfl (fun _ => rfl) fun _ _ => rfl]
  exact assures_zoom rfl (fun _ => rfl) fun _ _ => rfl

section Backing

variable [Console]

/-- Whether exchanges are a listing of the running entries of a user, completed, whose first entry
is the timer that an answer reports. -/
def Backed (answer : Answer) (exchanges : List Exchange) : Prop :=
  ∃ user pages, (Source.entries (Client.runningFilters user)).Reads 1 exchanges pages ∧
    (Source.entries (Client.runningFilters user)).Complete 1 pages ∧
      Reports answer (pages.flatMap (·.items)).head?

theorem not_backed_nil (answer : Answer) : ¬ Backed answer [] := by
  rintro ⟨user, pages, reads, complete, -⟩
  cases reads
  cases complete

/-- A refresh that gave a timer, or that there is none, backs what is reported of it just when there
was a user. -/
theorem backed_iff_of_refreshed {session session' : Session} {exchanges : List Exchange}
    {running : Option TimeEntry} {answer : Answer}
    (refreshed : session.Refreshed exchanges (.returned running) session')
    (reports : Reports answer session'.runningTimer) :
    Backed answer exchanges ↔ session.user ≠ none := by
  cases refreshed with
  | unknown unknown =>
    constructor
    · intro backed
      exact absurd backed (not_backed_nil answer)
    · intro known
      exact absurd unknown known
  | listed known gives =>
    constructor
    · intro _
      rw [known]
      nofun
    · intro _
      obtain ⟨pages, reads, complete, rfl⟩ := gives.exists_pages
      exact ⟨_, pages, reads, complete, reports⟩
  | unlisted _ breaks => exact breaks.elim

/-- What is wanted of the end of a request on a route: when its answer speaks for the running timer,
it is backed just when there was a user. -/
def BackedIf (route : Route) (known : Prop) (outcome : Outcome Answer) (past : List Exchange)
    (_ : Service) : Prop :=
  ∀ answer, outcome = .returned answer → Speaks route answer → (Backed answer past ↔ known)

variable {route : Route} {known : Prop} {past : List Exchange} {service : Service}

theorem backedIf_of_silent {answer : Answer} (silent : Silent answer) :
    BackedIf route known (.returned answer) past service := by
  intro other same speaks
  cases same
  exact absurd speaks (silent.not_speaks route)

/-- An answer that cannot be sent becomes one that speaks for nothing. -/
theorem BackedIf.sendable {answer : Answer}
    (backed : BackedIf route known (.returned answer) past service) :
    BackedIf route known (.returned (sendable answer)) past service := by
  have kept : Service.sendable answer = answer ∨ Service.sendable answer = .crashed := by
    cases answer with
    | content status body => exact ite_eq_or_eq _ _ _
    | problem met => exact ite_eq_or_eq _ _ _
    | _ => exact Or.inl rfl
  rcases kept with same | crashed
  · rw [same]
    exact backed
  · rw [crashed]
    exact backedIf_of_silent silent_crashed

/-- A program of the session, whose failures become answers that speak for no timer. -/
theorem assures_answering {α : Type} {program : SessionProgram α}
    {next : α → Program Service Answer}
    (assured : program.Assures (fun _ _ => True) (fun outcome past session =>
      ∀ value, outcome = .returned value → (next value).Assures (fun _ _ => True)
        (BackedIf route known) past (service.withSession session)) past service.desk.session) :
    (answering program next).Assures (fun _ _ => True) (BackedIf route known) past service := by
  rw [answering, bind_eq, assures_bind, assures_attempt, assures_inSession]
  apply assured.imp
  intro outcome past session later
  cases outcome with
  | returned value => exact later value rfl
  | failed fault =>
    dsimp only [attemptPost, thenPost]
    split
    · rename_i failure reported
      apply backedIf_of_silent
      exact silent_problem (by decide : (502 : Nat) ≠ 200 ∧ (502 : Nat) ≠ 409)
    · exact backedIf_of_silent silent_crashed
  | spent => exact nofun

theorem assures_guarded {check : KeyCheck} {handler : Unit → Program Service Answer}
    (handled : (handler ()).Assures (fun _ _ => True) (BackedIf route known) past service) :
    (guarded check (.ok ()) handler).Assures (fun _ _ => True) (BackedIf route known) past
      service := by
  cases check with
  | missing => exact backedIf_of_silent (silent_refused _)
  | notConfigured => exact backedIf_of_silent (silent_problem (by decide))
  | incomparable => exact backedIf_of_silent silent_crashed
  | wrong => exact backedIf_of_silent (silent_problem (by decide))
  | right => exact handled

theorem getTimer_backedIf : getTimer.Assures (fun _ _ => True)
    (BackedIf .timer (service.desk.session.user ≠ none)) [] service := by
  apply assures_answering
  apply Session.assures_refreshRunningTimer
  intro exchanges outcome session' refreshed value returned answer same _
  cases returned
  cases same
  exact backed_iff_of_refreshed refreshed (reports_timerAnswer session' none)

theorem stopTimer_backedIf : stopTimer.Assures (fun _ _ => True)
    (BackedIf .stopTimer (service.desk.session.user ≠ none)) [] service := by
  apply assures_answering
  apply Session.assures_toggleTimer
  · intro exchanges running session' refreshed idle value returned
    cases returned
    intro answer same _
    cases same
    apply backed_iff_of_refreshed refreshed
    rw [idle]
    exact .idle
  · intro exchanges outcome timer _ something value returned
    cases value with
    | none => exact absurd returned something
    | some stopped =>
      intro answer same speaks
      cases same
      have conflict : (200 : Nat) = 409 := speaks
      omega

theorem toggleTimer_backedIf : toggleTimer.Assures (fun _ _ => True)
    (BackedIf .toggleTimer (service.desk.session.user ≠ none)) [] service := by
  apply assures_answering
  apply Session.assures_toggleTimer
  · intro exchanges running session' refreshed idle value returned
    cases returned
    intro answer same _
    cases same
    exact backed_iff_of_refreshed refreshed (reports_timerAnswer session' _)
  · intro exchanges outcome timer _ something value returned
    cases value with
    | none => exact absurd returned something
    | some stopped =>
      intro answer same speaks
      cases same
      have picked : some (Json.string Action.stopped.name) =
          some (Json.string Action.selectProject.name) := speaks
      cases picked

/-- An answer that speaks for the running timer is backed by a listing that was completed for the
very request just when the user was known. Without a user nothing is asked for. -/
theorem backed_iff_of_answer (serverKey : Text) (stamp : Stamp) (today : Date)
    (incoming : Incoming) (service : Service) (replies : List Reply) {route : Route}
    {answer : Answer} (found : Route.find incoming = .ok route)
    (returned : ((handle serverKey stamp today incoming).run service replies).outcome =
      .returned answer) (speaks : Speaks route answer) :
    Backed answer ((handle serverKey stamp today incoming).run service replies).exchanges ↔
      service.desk.session.user ≠ none := by
  have handled (answers : (answerOf serverKey stamp today incoming).Assures (fun _ _ => True)
      (BackedIf route (service.desk.session.user ≠ none)) [] service) :
      Backed answer ((handle serverKey stamp today incoming).run service replies).exchanges ↔
        service.desk.session.user ≠ none := by
    have assured : (handle serverKey stamp today incoming).Assures (fun _ _ => True)
        (BackedIf route (service.desk.session.user ≠ none)) [] service := by
      rw [handle, bind_eq, assures_bind]
      apply answers.imp
      intro outcome past session backed
      cases outcome with
      | returned answer => exact backed.sendable
      | failed fault => exact nofun
      | spent => exact nofun
    exact assured.run replies answer returned speaks
  apply handled
  rw [answerOf, found]
  cases route with
  | timer => exact assures_guarded getTimer_backedIf
  | stopTimer => exact assures_guarded stopTimer_backedIf
  | toggleTimer => exact assures_guarded toggleTimer_backedIf
  | _ => exact speaks.elim

end Backing

/-- The run of a request for the timer, when the service would list a running entry. -/
def timerRun (user : Option Int) : Run Service Answer :=
  (handle "key".text ⟨[], [], 0⟩ Execution.someDay timerRequest).run
    ⟨⟨.start ⟨"t".text, "a".text, 3⟩ user, ⟨[], [], [], .none⟩⟩, .empty⟩
    Session.timerReplies.tail

def said? (answer : Answer) : Option Text :=
  match answer.field? "status_text" with
  | some (.string text) => some text
  | _ => none

/-- The status of the answer of a run, what it says and how many exchanges there were for it. -/
def outline (run : Run Service Answer) (answer : Answer) : Nat × Option Text × Nat :=
  (answer.status, said? answer, run.exchanges.length)

theorem found_timerRequest : Route.find timerRequest = .ok .timer := by
  have path : Route.ofPath? timerRequest.path = some .timer := by decide +kernel
  have method : Route.timer.methods.contains timerRequest.method = true := by decide +kernel
  rw [Route.find, path]
  exact if_pos method

theorem timerRun_backed : ∃ answer, (timerRun (some 7)).outcome = .returned answer ∧
    said? answer = some "Harvest: P - T (1.50h)".text ∧
      Backed answer (timerRun (some 7)).exchanges := by
  have outlined : (timerRun (some 7)).value?.map (outline (timerRun (some 7))) =
      some (200, some "Harvest: P - T (1.50h)".text, 1) := by decide +kernel
  obtain ⟨answer, valued, shown⟩ := Option.map_eq_some_iff.mp outlined
  have returned := Run.value?_eq_some_iff.mp valued
  obtain ⟨status, text, -⟩ : answer.status = 200 ∧ said? answer = _ ∧ _ = 1 := by
    simpa only [outline, Prod.mk.injEq] using shown
  have known : (Session.start ⟨"t".text, "a".text, 3⟩ (some 7)).user ≠ none := nofun
  refine ⟨answer, returned, text, ?_⟩
  exact (backed_iff_of_answer _ _ _ _ _ _ found_timerRequest returned status).mpr known

/-- Without a user the service says that no timer is running, and has not asked. -/
theorem timerRun_unasked : ∃ answer, (timerRun none).outcome = .returned answer ∧
    Speaks .timer answer ∧ said? answer = some "Harvest: No timer running".text ∧
      ¬ Backed answer (timerRun none).exchanges := by
  have outlined : (timerRun none).value?.map (outline (timerRun none)) =
      some (200, some "Harvest: No timer running".text, 0) := by decide +kernel
  obtain ⟨answer, valued, shown⟩ := Option.map_eq_some_iff.mp outlined
  obtain ⟨status, text, none⟩ : answer.status = 200 ∧ said? answer = _ ∧ _ = 0 := by
    simpa only [outline, Prod.mk.injEq] using shown
  refine ⟨answer, Run.value?_eq_some_iff.mp valued, status, text, ?_⟩
  rw [List.eq_nil_of_length_eq_zero none]
  exact not_backed_nil answer

end TimeReports.Service

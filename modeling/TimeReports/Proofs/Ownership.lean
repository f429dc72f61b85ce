import TimeReports.Execution.Desk
import TimeReports.Proofs.Following
import TimeReports.Proofs.Outcomes
import TimeReports.Service.Handle

set_option autoImplicit false

namespace TimeReports

open Harvest Program

section

variable [Console]

/-- The user that an exchange finds, if it is a lookup that succeeds. -/
def foundUser? (exchange : Exchange) : Option Int :=
  if exchange.request.subject = .user then (Session.decided? exchange.reply).join else none

/-- A session has the one user that was found, if one was, and no timer without a user. Each request
that read time entries named the user that had been found before. -/
structure OneUser (past : List Exchange) (session : Session) : Prop where
  found : past.filterMap foundUser? = session.user.toList
  timer : session.user = none → session.runningTimer = none
  owned : ∀ {before exchange}, before ++ [exchange] <+: past → exchange.request.readsEntries →
    ∃ id, before.filterMap foundUser? = [id] ∧
      exchange.request.field? "user_id" = some (Text.intDigits id)

namespace OneUser

variable {client : Client} {past : List Exchange} {session : Session}

theorem owned_snoc (one : OneUser past session) {exchange : Exchange}
    (owned : exchange.request.readsEntries → ∃ id, session.user = some id ∧
      exchange.request.field? "user_id" = some (Text.intDigits id)) {before : List Exchange}
    {other : Exchange} (inside : before ++ [other] <+: past ++ [exchange])
    (reads : other.request.readsEntries) : ∃ id, before.filterMap foundUser? = [id] ∧
      other.request.field? "user_id" = some (Text.intDigits id) := by
  rcases List.prefix_concat_iff.mp inside with same | inside
  · obtain ⟨rfl, rfl⟩ := snoc_inj same
    obtain ⟨id, known, named⟩ := owned reads
    refine ⟨id, ?_, named⟩
    rw [one.found, known, Option.toList_some]
  · exact one.owned inside reads

/-- A request that is no lookup, and that reads time entries of the user only. -/
theorem step (one : OneUser past session) {exchange : Exchange}
    (noLookup : exchange.request.subject ≠ .user)
    (owned : exchange.request.readsEntries → ∃ id, session.user = some id ∧
      exchange.request.field? "user_id" = some (Text.intDigits id)) :
    OneUser (past ++ [exchange]) session where
  found := by
    rw [List.filterMap_append, one.found, List.filterMap_cons, foundUser?, if_neg noLookup]
    simp
  timer := one.timer
  owned := one.owned_snoc owned

/-- A lookup while no user is known. -/
theorem lookup (one : OneUser past session) (unknown : session.user = none) {reply : Reply}
    {user : Option Int} (finds : (Session.decided? reply).join = user) :
    OneUser (past ++ [⟨Client.readingUser, reply⟩]) { session with user } where
  found := by
    rw [List.filterMap_append, one.found, unknown, List.filterMap_cons, foundUser?,
      if_pos Client.subject_user, finds]
    cases user <;> rfl
  timer := fun _ => one.timer unknown
  owned := one.owned_snoc fun reads => absurd reads Client.readsEntries_user

end OneUser

namespace Session

/-- The session of a client, which has one user. -/
structure Owned (client : Client) (past : List Exchange) (session : Session) : Prop extends
    OneUser past session where
  same : session.client = client

section Refreshes

variable {client : Client} {past : List Exchange} {session : Session}

theorem Owned.refreshUser (owned : Owned client past session) (unknown : session.user = none) :
    Session.refreshUser.Assures OneUser (fun _ => Owned client) past session := by
  have same {user : Option Int} : { session with user }.client = client := owned.same
  refine assures_refreshUser (fun _ => owned.toOneUser) (fun _ reply user decides => ?_)
    (fun _ reply fault undecided _ => ?_) (fun _ => ?_)
  · exact ⟨owned.lookup unknown (by rw [decides, Option.join_some]), same⟩
  · have still : OneUser (past ++ [⟨Client.readingUser, reply⟩]) { session with user := none } :=
      owned.lookup unknown (by rw [undecided]; rfl)
    rw [← unknown] at still
    exact ⟨still, owned.same⟩
  · rw [← unknown]
    exact owned

/-- Pages that are read for the user, or that are no time entries. -/
theorem Owned.pages (owned : Owned client past session) {α : Type} {request : Nat → Request}
    {read : Reply → Outcome (Page α)} {page : Nat → SessionProgram (Page α)}
    (sent : ∀ number, Sends client.hasCredentials (request number) read (page number))
    (noLookup : ∀ number, (request number).subject ≠ .user)
    (reading : ∀ number, (request number).readsEntries → ∃ id, session.user = some id ∧
      (request number).field? "user_id" = some (Text.intDigits id)) (endsWhenEmpty : Bool)
    (budget number : Nat) : (pagesFrom page endsWhenEmpty budget number).Assures OneUser
      (fun _ past other => Owned client past session ∧ other = session) past session := by
  refine assures_pages_kept (fun past => Owned client past session) sent
    (fun number reply _ kept => ⟨kept.step (noLookup number) (reading number), kept.same⟩)
    (fun _ kept => kept.toOneUser) (fun _ kept => ⟨kept, rfl⟩) endsWhenEmpty budget number owned

theorem Owned.refreshRunningTimer (owned : Owned client past session) :
    Session.refreshRunningTimer.Assures OneUser (fun _ => Owned client) past session := by
  rw [Session.refreshRunningTimer, bind_eq, assures_bind, assures_get]
  dsimp only [thenPost]
  split
  · exact owned
  next user found =>
  rw [owned.same, bind_eq, assures_bind]
  have listed := owned.pages (sends_entryPage client (Client.runningFilters user))
    (fun number => by simp [Client.subject_running])
    (fun number _ => ⟨user, found, Client.user_running⟩) true client.pageBudget 1
  refine listed.imp fun outcome past other left => ?_
  obtain ⟨kept, rfl⟩ := left
  cases outcome with
  | returned entries =>
    exact { found := kept.found, owned := kept.owned, same := kept.same,
            timer := by simp [found] }
  | failed fault => exact kept
  | spent => exact kept

theorem Owned.finishCollection (owned : Owned client past session) (listed : List Project)
    (today : Date) : (Session.finishCollection listed today).Assures OneUser
      (fun _ => Owned client) past session := by
  rw [Session.finishCollection, bind_eq, assures_bind, assures_get]
  dsimp only [thenPost]
  split
  · exact owned
  next user found =>
  rw [owned.same]
  refine Assures.bind ?_ fun _ => keeps_done
  rw [Client.recentProjects]
  split
  · exact owned
  next since _ =>
  have listed := owned.pages (sends_entryPage client (Client.recentFilters since user))
    (fun number => by simp [Client.subject_recent])
    (fun number _ => ⟨user, found, Client.user_recent⟩) true client.pageBudget 1
  have kept := listed.imp fun _ _ _ left => (left.2 ▸ left.1 : Owned client _ _)
  exact kept.bind fun _ => keeps_done

theorem Owned.collectProjects (owned : Owned client past session) (today : Date) :
    (Session.collectProjects today).Assures OneUser (fun _ => Owned client) past session := by
  rw [collectProjects_eq, assures_bind, assures_get]
  dsimp only [thenPost]
  rw [owned.same]
  have listed := owned.pages (sends_projectPage client)
    (fun number => by simp [Client.subject_managed])
    (fun number reads => absurd reads Client.readsEntries_managed) false client.pageBudget 1
  have kept := listed.imp fun _ _ _ left => (left.2 ▸ left.1 : Owned client _ _)
  refine kept.bind fun listed past session owned => ?_
  rw [assures_bind, assures_get]
  dsimp only [thenPost]
  split
  · next unknown =>
    have lookup := owned.refreshUser (Option.isNone_iff_eq_none.mp unknown)
    exact lookup.bind fun _ _ _ owned => owned.finishCollection listed today
  · exact owned.finishCollection listed today

theorem Owned.refreshProjects (owned : Owned client past session) (force : Bool) (today : Date) :
    (Session.refreshProjects force today).Assures OneUser (fun _ => Owned client) past session := by
  rw [Session.refreshProjects, bind_eq, assures_bind, assures_get]
  dsimp only [thenPost]
  split
  · exact owned
  · refine (owned.collectProjects today).bind fun projects past session owned => ?_
    exact { found := owned.found, timer := owned.timer, owned := owned.owned, same := owned.same }

theorem upheld_owned (client : Client) : Upheld client OneUser (Owned client) where
  same := Owned.same
  shown _ _ _ owned := owned.toOneUser
  passing _ _ _ _ _ owned passing :=
    ⟨owned.step (by rw [passing.other]; nofun) passing.owned, owned.same⟩
  lookup owned unknown := owned.refreshUser unknown
  timer _ _ owned := owned.refreshRunningTimer
  projects force today _ _ owned := owned.refreshProjects force today

theorem owned_start (client : Client) : Owned client [] (Session.start client none) where
  found := rfl
  timer := fun _ => rfl
  owned := by
    intro before exchange inside
    simp at inside
  same := rfl

end Refreshes
end Session

end

namespace Execution

variable {σ : Type} {holds settled : List Exchange → σ → Prop} {fetch : Fetcher σ}
  {replace : Rewriter σ}

theorem keeps_fetchReport [Console] (fetched : ∀ first last, (fetch first last).Keeps holds settled)
    (query : Query) : (fetchReport fetch query).Keeps holds settled := by
  refine Keeps.bind (fun _ _ kept => kept) fun _ => (fetched _ _).attempt.bind fun attempted => ?_
  split
  · exact keeps_done
  · exact keeps_say.bind fun _ => keeps_done
  · exact keeps_fail

theorem keeps_freezeInto (replaced : ∀ document first last replacement,
      (replace document first last replacement).Keeps holds settled)
    (location : Option Location) (source : Text) (result : Result) :
    (freezeInto replace location source result).Keeps holds settled := by
  refine (keeps_ofExcept _ _).bind fun markup => Keeps.bind ?_ fun attempted => ?_
  · refine Keeps.attempt ?_
    split
    · exact keeps_fail
    · exact replaced _ _ _ _
  · split
    · exact keeps_done
    · exact keeps_done
    · exact keeps_fail

/-- An execution keeps what fetching and replacing keep. -/
theorem keeps_evaluate [Console]
    (fetched : ∀ first last, (fetch first last).Keeps holds settled)
    (replaced : ∀ document first last replacement,
      (replace document first last replacement).Keeps holds settled)
    (source : Text) (location : Option Location) (today : Date) :
    (evaluate source fetch replace location today fun _ => return ()).Keeps holds settled := by
  unfold evaluate
  dsimp only
  split
  · exact keeps_done
  · exact keeps_fail
  · refine keeps_done.bind fun _ => (keeps_fetchReport fetched _).bind fun result => ?_
    split
    · exact keeps_freezeInto replaced _ _ _
    · exact keeps_done

end Execution

namespace Desk

def OfSession (holds : List Exchange → Session → Prop) (past : List Exchange) (desk : Desk) :
    Prop :=
  holds past desk.session

variable {holds settled : List Exchange → Session → Prop}

theorem keeps_inSession {α : Type} {program : SessionProgram α}
    (kept : program.Keeps holds settled) :
    (inSession program).Keeps (OfSession holds) (OfSession settled) :=
  kept.zoom Desk.session (fun desk session => { desk with session }) (fun _ => rfl) (fun _ _ => rfl)
    fun _ _ _ => rfl

theorem keeps_replaceLines (document : Text) (first last : Int) (replacement : Text) :
    (replaceLines document first last replacement).Keeps (OfSession holds) (OfSession settled) := by
  refine keeps_get.bind fun desk => ?_
  split
  refine Keeps.bind (keeps_modify ?_) fun _ => keeps_ofExcept _ _
  exact fun _ _ kept => kept

/-- Executions at a desk keep what fetching keeps: replacing lines leaves the session alone. -/
theorem keeps_execute [Console] (fetched : ∀ first last,
      (Session.fetchEntries first last).Keeps holds settled)
    (source : Text) (location : Option Execution.Location) (today : Date) :
    (execute source fetchEntries location today fun _ => return ()).Keeps (OfSession holds)
      (OfSession settled) :=
  Execution.keeps_evaluate (fun first last => keeps_inSession (fetched first last))
    keeps_replaceLines source location today

end Desk

namespace Service

def OfSession (holds : List Exchange → Session → Prop) (past : List Exchange) (service : Service) :
    Prop :=
  holds past service.desk.session

variable {client : Client} {holds settled : List Exchange → Session → Prop}

theorem keeps_inDesk {α : Type} {program : Program Desk α}
    (kept : program.Keeps (Desk.OfSession holds) (Desk.OfSession settled)) :
    (inDesk program).Keeps (OfSession holds) (OfSession settled) :=
  kept.zoom Service.desk (fun service desk => { service with desk }) (fun _ => rfl) (fun _ _ => rfl)
    fun _ _ _ => rfl

theorem keeps_session : session.Keeps (OfSession holds) (OfSession settled) :=
  keeps_get.bind fun _ => keeps_done

theorem keeps_guarded {α : Type} {check : KeyCheck} {parameters : Record.Checked α}
    {handler : α → Program Service Answer}
    (handled : ∀ value, (handler value).Keeps (OfSession holds) (OfSession settled)) :
    (guarded check parameters handler).Keeps (OfSession holds) (OfSession settled) := by
  unfold guarded
  split
  case h_7 => exact handled _
  all_goals exact keeps_done

theorem keeps_inSession {α : Type} {program : SessionProgram α}
    (kept : program.Keeps holds settled) :
    (inSession program).Keeps (OfSession holds) (OfSession settled) :=
  keeps_inDesk (Desk.keeps_inSession kept)

theorem keeps_guardedBody {α : Type} {check : KeyCheck} {incoming : Incoming}
    {reader : Record.Reader α} {handler : α → Program Service Answer}
    (handled : ∀ value, (handler value).Keeps (OfSession holds) (OfSession settled)) :
    (guardedBody check incoming reader handler).Keeps (OfSession holds) (OfSession settled) := by
  unfold guardedBody
  split
  · exact keeps_done
  · exact (keeps_guarded handled).bind fun _ => keeps_done

theorem keeps_answering {α : Type} {program : SessionProgram α}
    {next : α → Program Service Answer} (kept : program.Keeps holds settled)
    (later : ∀ value, (next value).Keeps (OfSession holds) (OfSession settled)) :
    (answering program next).Keeps (OfSession holds) (OfSession settled) := by
  refine (keeps_inSession kept).attempt.bind fun attempted => ?_
  split
  · exact later _
  · split <;> exact keeps_done

section

variable [Console]

theorem keeps_writeLog (record : RequestLog.Record) :
    (writeLog record).Keeps (OfSession holds) (OfSession settled) := by
  rintro past ⟨desk, log⟩ kept
  refine (assures_zoom rfl (fun _ => rfl) fun _ _ => rfl).mpr ?_
  -- Writing sees the log only; of the session it keeps whatever it began with.
  have still : (RequestLog.writeCarefully record).Keeps
      (fun past (_ : RequestLog.Tables) => holds past desk.session)
      (fun past _ => settled past desk.session) := by
    refine keeps_get.bind fun tables => ?_
    split
    · exact keeps_modify fun _ _ kept => kept
    · unfold RequestLog.warn
      split
      · exact keeps_say
      · exact keeps_fail
  exact still kept

theorem keeps_logged (record : RequestLog.Record) (answer : Answer) :
    (logged record answer).Keeps (OfSession holds) (OfSession settled) := by
  refine (keeps_writeLog record).attempt.bind fun attempted => ?_
  split <;> exact keeps_done

theorem keeps_render (fetched : ∀ first last,
      (Session.fetchEntries first last).Keeps holds settled)
    (stamp : Stamp) (incoming : Incoming) (request : RenderRequest) (today : Date) :
    (render stamp incoming request today).Keeps (OfSession holds) (OfSession settled) := by
  unfold render
  dsimp only
  split
  · exact keeps_logged _ _
  · refine (keeps_inDesk (Desk.keeps_execute fetched _ _ _)).attempt.bind fun attempted => ?_
    split <;> exact keeps_logged _ _

/-- Whatever a request asks for is done by operations of the session. -/
theorem keeps_handle (upheld : Session.Upheld client holds settled) (serverKey : Text)
    (stamp : Stamp) (today : Date) (incoming : Incoming) :
    (handle serverKey stamp today incoming).Keeps (OfSession holds) (OfSession settled) := by
  refine Keeps.bind ?_ fun answer => keeps_done
  unfold answerOf
  dsimp only
  have shown {action : Option Action} : (do return timerAnswer (← session) action :
      Program Service Answer).Keeps (OfSession holds) (OfSession settled) :=
    keeps_session.bind fun _ => keeps_done
  split
  · exact keeps_done
  · refine keeps_session.bind fun session => ?_
    dsimp only
    split <;> exact keeps_done
  · exact keeps_guardedBody fun request => keeps_render upheld.fetchEntries _ _ _ _
  · exact keeps_guarded fun _ => keeps_answering upheld.timer fun _ => shown
  · exact keeps_guardedBody fun request =>
      keeps_answering (upheld.startTimer _ _ _) fun _ => shown
  · refine keeps_guarded fun _ => keeps_answering upheld.toggleTimer fun stopped => ?_
    split
    · exact shown
    · exact keeps_done
  · exact keeps_guarded fun _ => keeps_answering upheld.toggleTimer fun _ => shown
  · exact keeps_guarded fun _ => keeps_answering (upheld.projects _ _) fun _ => keeps_done
  · refine keeps_guarded fun _ => keeps_answering (upheld.projectTasks _ _) fun tasks => ?_
    split <;> exact keeps_done
  · exact keeps_done

/-- What a running service does next: it answers a request, or it polls the running timer. -/
inductive Turn where
  | request (stamp : Stamp) (today : Date) (incoming : Incoming)
  | poll

def Turn.program (serverKey : Text) : Turn → Program Service Unit
  | request stamp today incoming => do let _ ← handle serverKey stamp today incoming
  | poll => inSession Session.pollOnce

/-- Turns one after another, each from where the one before it ended or broke off. -/
def served (serverKey : Text) : List Turn → Program Service Unit
  | [] => return ()
  | turn :: later => do
    (turn.program serverKey).toEnd
    served serverKey later

/-- The life of a service: its start, and its turns if the start succeeds. -/
def lifetime (serverKey : Text) (turns : List Turn) : Program Service Unit := do
  let _ ← inSession Session.openService
  served serverKey turns

theorem keeps_served (upheld : Session.Upheld client holds settled) (serverKey : Text)
    (turns : List Turn) :
    (served serverKey turns).Keeps (OfSession holds) (OfSession settled) := by
  induction turns with
  | nil => exact keeps_done
  | cons turn later ih =>
    refine Keeps.bind (Keeps.toEnd ?_) fun _ => ih
    cases turn with
    | request stamp today incoming =>
      exact (keeps_handle upheld serverKey stamp today incoming).bind fun _ => keeps_done
    | poll => exact keeps_inSession upheld.pollOnce

theorem openService_owned (client : Client) : Session.openService.Assures OneUser
    (fun _ => Session.Owned client) [] (.start client none) := by
  rw [Session.openService, bind_eq, assures_bind, assures_get]
  dsimp only [thenPost]
  split
  · exact ((Session.owned_start client).refreshUser rfl).bind fun _ => keeps_done
  · exact Session.owned_start client

/-- The moments in the life of a service that starts with nothing known. -/
def lifeMoments (serverKey : Text) (client : Client) (vault : Vault) (log : RequestLog.Tables)
    (turns : List Turn) (replies : List Reply) : List (Moment Service) :=
  (lifetime serverKey turns).moments ⟨⟨.start client none, vault⟩, log⟩ replies

theorem lifetime_owned (serverKey : Text) (client : Client) (vault : Vault)
    (log : RequestLog.Tables) (turns : List Turn) : (lifetime serverKey turns).Assures
      (OfSession OneUser) (fun _ => OfSession (Session.Owned client)) []
      ⟨⟨.start client none, vault⟩, log⟩ := by
  have opened : (inSession Session.openService).Assures (OfSession OneUser)
      (fun _ => OfSession (Session.Owned client)) [] ⟨⟨.start client none, vault⟩, log⟩ :=
    (assures_zoom rfl (fun _ => rfl) fun _ _ => rfl).mpr
      ((assures_zoom rfl (fun _ => rfl) fun _ _ => rfl).mpr (openService_owned client))
  exact opened.bind fun _ => keeps_served (Session.upheld_owned client) serverKey turns

/-- A service lists the time entries of one user: the one that its only successful lookup found, who
stays from then on, and whom every request that reads time entries names. -/
theorem oneUser_of_mem_lifeMoments (serverKey : Text) (client : Client) (vault : Vault)
    (log : RequestLog.Tables) (turns : List Turn) (replies : List Reply) :
    (∀ moment ∈ lifeMoments serverKey client vault log turns replies,
      OneUser moment.past moment.state.desk.session) ∧
    (lifeMoments serverKey client vault log turns replies).Pairwise fun earlier later => ∀ user,
      earlier.state.desk.session.user = some user →
        later.state.desk.session.user = some user := by
  have holds : ∀ moment ∈ lifeMoments serverKey client vault log turns replies,
      OneUser moment.past moment.state.desk.session := by
    intro moment reached
    have assured := (lifetime_owned serverKey client vault log turns).imp
      fun _ _ _ owned => (show OfSession OneUser _ _ from owned.toOneUser)
    exact assured.of_mem_moments reached
  refine ⟨holds, (pairwise_moments _ _ _).imp_of_mem ?_⟩
  intro earlier later earlierReached laterReached goesOn user known
  -- The exchanges up to a later moment go on from those up to an earlier one, so the user that
  -- was found in them stands first.
  obtain ⟨more, same⟩ := goesOn
  have before := (holds earlier earlierReached).found
  have after := (holds later laterReached).found
  rw [← same, List.filterMap_append, before, known] at after
  generalize later.state.desk.session.user = final at after ⊢
  cases final with
  | none => simp at after
  | some other =>
    rw [Option.toList_some, Option.toList_some, List.singleton_append, List.cons.injEq] at after
    rw [after.1]

end

def timerRequest : Incoming where
  method := "GET".text
  path := "/v1/timer".text
  query := []
  headers := [("x-api-key".text, Text.utf8 "key".text)]
  body := []
  peer := "peer".text

/-- The life of a service that is asked for the timer once and then polls it in vain. -/
def smallLife : List (Moment Service) :=
  lifeMoments "key".text ⟨"t".text, "a".text, 3⟩ ⟨[], [], [], .none⟩ .empty
    [.request ⟨[], [], 0⟩ Execution.someDay timerRequest, .poll] Session.timerReplies

/-- The users that the requests up to a moment name, and the user at the moment. -/
def namedUsers (moment : Moment Service) : List (Option Text) × Option Int :=
  (moment.past.map (·.request.field? "user_id"), moment.state.desk.session.user)

theorem smallLife_oneUser : ∃ moment ∈ smallLife,
    namedUsers moment = ([none, some "7".text, some "7".text], some 7) ∧
      OneUser moment.past moment.state.desk.session ∧
        smallLife.Pairwise fun earlier later => ∀ user,
          earlier.state.desk.session.user = some user →
            later.state.desk.session.user = some user := by
  have ends : smallLife.getLast?.map namedUsers =
      some ([none, some "7".text, some "7".text], some 7) := by decide +kernel
  obtain ⟨moment, last, named⟩ := Option.map_eq_some_iff.mp ends
  have reached := List.mem_of_getLast? last
  have ⟨one, stays⟩ := oneUser_of_mem_lifeMoments "key".text ⟨"t".text, "a".text, 3⟩
    ⟨[], [], [], .none⟩ .empty
    [.request ⟨[], [], 0⟩ Execution.someDay timerRequest, .poll] Session.timerReplies
  exact ⟨moment, reached, named, one moment reached, stays⟩

end Service
end TimeReports

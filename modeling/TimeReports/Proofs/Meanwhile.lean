import TimeReports.Proofs.Duplicates
import TimeReports.Proofs.Interleaving

set_option autoImplicit false

namespace TimeReports

open Harvest (Request Reply)
open Program

variable {σ α : Type}

namespace Harvest

/-- Whether a program among others, when there are credentials, sends a request and ends as `read`
says of the reply, and without them fails at once. -/
def Asks (credentials : Bool) (request : Request) (read : Reply → Outcome α)
    (program : Program σ α) : Prop :=
  ∀ (may : Exchange → Prop) (inv : σ → Prop) (act : List Exchange → σ → σ → Prop)
    (post : Outcome α → List Exchange → σ → σ → Prop) past entered state,
    (if credentials then
      act past entered state ∧ ∀ reply, may ⟨request, reply⟩ → ∀ resumed, inv resumed →
        post (read reply) (past ++ [⟨request, reply⟩]) resumed resumed
    else post (.failed noCredentials) past entered state) →
      program.Behaves may inv act post past entered state

section Requests

variable [Console]

theorem asks_send (client : Client) (method : Text) (target : Address.Target)
    (body : Option Json) (reader : Record.Reader α) (what : String) :
    Asks client.hasCredentials ⟨method, target.shownPath, target.shownQuery, body⟩
      (readAs reader what) ((client.send method target body : Program σ Json).bind
        (narrow reader what)) := by
  intro may inv act post past entered state wanted
  unfold Client.send
  split
  · rename_i online
    rw [if_pos online] at wanted
    refine ⟨wanted.1, ?_⟩
    intro reply allowed resumed holds
    apply Assures.behaves
    exact assures_received.mpr (wanted.2 reply allowed resumed holds)
  · rename_i offline
    rw [if_neg offline] at wanted
    exact wanted

theorem asks_currentUser (client : Client) : Asks client.hasCredentials Client.readingUser
    (readAs User.ofJson "user") (client.currentUser : Program σ User) :=
  asks_send client _ _ none User.ofJson "user"

theorem asks_entryPage (client : Client) (filters : List (Text × Json)) (number : Nat) :
    Asks client.hasCredentials (Client.readingEntries filters number)
      (readAs Page.entries "time entry")
      (client.entryPage filters number : Program σ (Page TimeEntry)) :=
  asks_send client _ _ none Page.entries "time entry"

theorem asks_createEntry (client : Client) (project task : Int) (day : Date) :
    Asks client.hasCredentials (Client.creating project task day)
      (readAs TimeEntry.ofJson "time entry")
      (client.createEntry project task day : Program σ TimeEntry) :=
  asks_send client _ _ _ TimeEntry.ofJson "time entry"

theorem asks_changeEntry (client : Client) (entry : Int) (change : String) :
    Asks client.hasCredentials (Client.changing entry change)
      (readAs TimeEntry.ofJson "time entry")
      (client.changeEntry entry change : Program σ TimeEntry) :=
  asks_send client _ _ none TimeEntry.ofJson "time entry"

end Requests

section Listings

variable {may : Exchange → Prop} {inv : σ → Prop} {act : List Exchange → σ → σ → Prop}
  {past : List Exchange} {entered state : σ}
  {post : Outcome (List α) → List Exchange → σ → σ → Prop}

/-- How a program stands behind exchanges: as it stood, when there are none, and else in a state
that the others left. -/
def Resumed (inv : σ → Prop) (exchanges : List Exchange) (entered state entered' state' : σ) :
    Prop :=
  exchanges = [] ∧ entered' = entered ∧ state' = state ∨
    exchanges ≠ [] ∧ entered' = state' ∧ inv state'

theorem Resumed.holds {exchanges : List Exchange} {entered' state' : σ}
    (resumed : Resumed inv exchanges entered state entered' state') (holds : inv state) :
    inv state' := by
  rcases resumed with ⟨-, -, rfl⟩ | ⟨-, -, behind⟩
  · exact holds
  · exact behind

theorem Resumed.behind {exchange : Exchange} {exchanges : List Exchange} {entered' state' : σ}
    {resumed : σ} (goesOn : Resumed inv exchanges resumed resumed entered' state')
    (holds : inv resumed) : Resumed inv (exchange :: exchanges) entered state entered' state' := by
  rcases goesOn with ⟨-, rfl, rfl⟩ | ⟨-, same, behind⟩
  · exact Or.inr ⟨List.cons_ne_nil _ _, rfl, holds⟩
  · exact Or.inr ⟨List.cons_ne_nil _ _, same, behind⟩

/-- What a listing among other programs gives from a page on. -/
theorem Source.behaves_pagesFrom (source : Source α) {page : Nat → Program σ (Page α)}
    {budget index : Nat}
    (asks : ∀ number, Asks true (source.request number) source.read (page number))
    (here : act past entered state)
    (still : ∀ past index reply page resumed, may ⟨source.request (index + 1), reply⟩ →
      source.read reply = .returned page → ¬ source.Ends page (index + 1) → inv resumed →
        act (past ++ [⟨source.request (index + 1), reply⟩]) resumed resumed)
    (ended : ∀ exchanges outcome entered' state',
      source.Gives budget (index + 1) exchanges outcome → (∀ exchange ∈ exchanges, may exchange) →
      Resumed inv exchanges entered state entered' state' →
        post outcome (past ++ exchanges) entered' state') :
    (pagesFrom page source.endsWhenEmpty budget (index + 1)).Behaves may inv act post past entered
      state := by
  induction budget generalizing index past entered state post with
  | zero =>
    have nothing := ended [] .spent entered state .spent nofun (Or.inl ⟨rfl, rfl, rfl⟩)
    rw [List.append_nil] at nothing
    exact nothing
  | succ budget ih =>
    rw [pagesFrom, bind_eq, behaves_bind]
    apply asks
    rw [if_pos rfl]
    refine ⟨here, ?_⟩
    intro reply allowed resumed holds
    have single : ∀ exchange ∈ [(⟨source.request (index + 1), reply⟩ : Exchange)],
        may exchange := by
      intro exchange member
      rw [List.mem_singleton.mp member]
      exact allowed
    have stands : Resumed inv [(⟨source.request (index + 1), reply⟩ : Exchange)] entered state
        resumed resumed := Or.inr ⟨List.cons_ne_nil _ _, rfl, holds⟩
    cases read : source.read reply with
    | failed fault => exact ended _ _ _ _ (.unread read) single stands
    | spent => exact absurd read (source.read_ne_spent reply)
    | returned found =>
      dsimp only [behavesThen]
      split
      · rename_i ends
        exact ended _ _ _ _ (.last read (ends_iff.mp ends)) single stands
      · rename_i goesOn
        have more : ¬ source.Ends found (index + 1) := fun last => goesOn (ends_iff.mpr last)
        rw [bind_eq, behaves_bind]
        apply ih (still past index reply found resumed allowed read more holds)
        intro exchanges outcome entered' state' others allowed_others behind
        have every : ∀ exchange ∈ ⟨source.request (index + 1), reply⟩ :: exchanges,
            may exchange := List.forall_mem_cons.mpr ⟨allowed, allowed_others⟩
        have whole := ended _ _ _ _ (.more read more others) every (behind.behind holds)
        rw [List.append_assoc]
        cases outcome <;> exact whole

end Listings
end Harvest

namespace Session

open Harvest

variable {may : Exchange → Prop} {inv : Session → Prop}
  {act : List Exchange → Session → Session → Prop} {past : List Exchange}
  {entered session : Session}

/-- A session with the running timer that a listing gives, if it gives entries. -/
def listed (session : Session) : Outcome (List TimeEntry) → Session
  | .returned entries => { session with runningTimer := entries.head? }
  | _ => session

/-- What a refresh of the running timer among other programs comes to. -/
theorem behaves_refreshRunningTimer [Console]
    {post : Outcome (Option TimeEntry) → List Exchange → Session → Session → Prop}
    (here : act past entered session)
    (still : ∀ user, session.user = some user → ∀ past index reply page resumed,
      may ⟨Client.readingEntries (Client.runningFilters user) (index + 1), reply⟩ →
      readAs Page.entries "time entry" reply = .returned page →
      ¬ (Source.entries (Client.runningFilters user)).Ends page (index + 1) → inv resumed →
        act (past ++ [⟨Client.readingEntries (Client.runningFilters user) (index + 1), reply⟩])
          resumed resumed)
    (unknown : session.user = none → post (.returned none) past entered session)
    (offline : session.client.hasCredentials = false → ∀ outcome, outcome.Breaks →
      post outcome past entered session)
    (ended : ∀ user listing outcome entered' session', session.user = some user →
      (Source.entries (Client.runningFilters user)).Gives session.client.pageBudget 1 listing
        outcome → (∀ exchange ∈ listing, may exchange) →
      Resumed inv listing entered session entered' session' →
        post (outcome.map List.head?) (past ++ listing) entered' (session'.listed outcome)) :
    refreshRunningTimer.Behaves may inv act post past entered session := by
  rw [refreshRunningTimer, bind_eq, behaves_bind, behaves_get]
  dsimp only [behavesThen]
  cases known : session.user with
  | none => exact unknown known
  | some user =>
    dsimp only
    rw [bind_eq, behaves_bind]
    have asks (number : Nat) : Asks session.client.hasCredentials
        (Client.readingEntries (Client.runningFilters user) number)
        (readAs Page.entries "time entry")
        (session.client.entryPage (Client.runningFilters user) number : SessionProgram _) :=
      asks_entryPage session.client (Client.runningFilters user) number
    cases online : session.client.hasCredentials with
    | true =>
      rw [online] at asks
      apply Source.behaves_pagesFrom (Source.entries (Client.runningFilters user)) asks here
        (still user known)
      intro listing outcome entered' session' gives allowed resumed
      have whole := ended user listing outcome entered' session' known gives allowed resumed
      cases outcome <;> exact whole
    | false =>
      rw [online] at asks
      change (pagesFrom (session.client.entryPage (Client.runningFilters user)) true
        session.client.pageBudget 1).Behaves _ _ _ _ _ _ _
      cases session.client.pageBudget with
      | zero => exact offline online _ trivial
      | succ budget =>
        rw [pagesFrom, bind_eq, behaves_bind]
        apply asks
        rw [if_neg Bool.false_ne_true]
        exact offline online _ trivial

section Replies

/-- The entry of a timer, with its number, while it runs or when it was stopped. -/
def tracked (id : Int) (isRunning : Bool) : TimeEntry := { trackedEntry with id, isRunning }

/-- The entry of a timer as it goes over the wire. -/
def trackedBody (id isRunning : String) : String :=
  "\x7b\"id\": " ++ id ++ ", \"spent_date\": \"2025-01-15\", \"hours\": 0, "
    ++ "\"project\": \x7b\"id\": 1, \"name\": \"P\"\x7d, "
    ++ "\"task\": \x7b\"id\": 2, \"name\": \"T\"\x7d, \"is_running\": " ++ isRunning
    ++ "\x7d"

/-- A reply that tells of the entry of a timer. -/
def repliesTracked (id isRunning : String) : Reply := successWith (trackedBody id isRunning)

/-- A reply that lists entries, as they go over the wire. -/
def repliesListing (bodies : String) : Reply :=
  successWith ("\x7b\"time_entries\": [" ++ bodies ++ "]\x7d")

end Replies

end Session
end TimeReports

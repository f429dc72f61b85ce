import TimeReports.Proofs.Fetching

set_option autoImplicit false

namespace TimeReports

open Program

namespace Program

variable {σ α : Type}

theorem length_unused_le (program : Program σ α) (state : σ) (replies : List Harvest.Reply) :
    (program.run state replies).unused.length ≤ replies.length := by
  induction program generalizing state replies with
  | done value => exact Nat.le_refl _
  | fail fault => exact Nat.le_refl _
  | spent => exact Nat.le_refl _
  | look next ih => exact ih state state replies
  | put changed next ih => exact ih changed replies
  | tell notice next ih => exact ih state replies
  | ask request next ih =>
    cases replies with
    | nil => exact ih Harvest.notFound state []
    | cons reply replies => exact (ih reply state replies).trans (Nat.le_succ _)

/-- A program that ends of itself, and goes on with one that does wherever the first one may leave
off, ends of itself. -/
theorem ne_spent_bind {β : Type} {program : Program σ α} {next : α → Program σ β} {state : σ}
    {replies : List Harvest.Reply} (kept : σ → Prop)
    (ends : (program.run state replies).outcome ≠ .spent ∧ kept (program.run state replies).state)
    (ends_next : ∀ value after (unused : List Harvest.Reply), kept after →
      unused.length ≤ replies.length → ((next value).run after unused).outcome ≠ .spent) :
    ((program.bind next).run state replies).outcome ≠ .spent := by
  rw [run_bind]
  cases outcome : (program.run state replies).outcome with
  | returned value =>
    rw [Run.andThen_of_returned _ outcome, Run.outcome_behind]
    exact ends_next value _ _ ends.2 (length_unused_le program state replies)
  | failed fault =>
    rw [Run.andThen_of_failed _ outcome]
    exact Outcome.failed_ne_spent _
  | spent => exact absurd outcome ends.1

end Program

variable [Console]

namespace Harvest

variable {σ : Type}

/-- A fetch of entries for a user ends of itself against fewer replies than there may be pages. -/
theorem ne_spent_entriesOn (client : Client) (user : Int) (first last : Date) (state : σ)
    {replies : List Reply} (enough : replies.length < client.pageBudget) :
    ((client.entriesOn user first last).run state replies).outcome ≠ .spent := by
  cases credentials : client.hasCredentials with
  | true =>
    have assured : (client.entriesOn user first last : Program σ (List TimeEntry)).Assures
        (fun _ _ => True) (fun outcome past _ => outcome = .spent →
          past.length = client.pageBudget ∧ ∀ exchange ∈ past, exchange.reply ≠ notFound) []
        state := by
      apply assures_entriesOn
      · intro online listing outcome gives spent
        cases outcome with
        | spent =>
          obtain ⟨length, pages, reads⟩ := gives.exists_spent
          exact ⟨length, reads.heard (readAs_notFound Page.entries "time entry")⟩
        | returned entries => cases spent
        | failed fault => cases spent
      · intro offline
        rw [credentials] at offline
        cases offline
    intro spent
    obtain ⟨length, heard⟩ := assured.run replies spent
    have few := length_exchanges_le heard
    rw [List.nil_append] at length
    omega
  | false =>
    obtain ⟨budget, allowed⟩ : ∃ budget, client.pageBudget = budget + 1 :=
      ⟨client.pageBudget - 1, by omega⟩
    simp only [Client.entriesOn, Client.entries, allowed, pagesFrom, Client.entryPage, Client.get,
      Client.send, credentials, Client.fail, bind_eq]
    exact Outcome.failed_ne_spent _

end Harvest

namespace Session

open Harvest

variable {session : Session}

/-- A lookup of the user ends of itself and leaves the client as it is. -/
theorem assures_refreshUser_ends {past : List Exchange} :
    refreshUser.Assures (fun _ _ => True)
      (fun outcome _ after => outcome ≠ .spent ∧ after.client = session.client) past session := by
  apply assures_refreshUser
  · exact fun _ => trivial
  · exact fun _ reply user _ => ⟨nofun, rfl⟩
  · exact fun _ reply fault _ _ => ⟨nofun, rfl⟩
  · exact fun _ => ⟨nofun, rfl⟩

theorem assures_ensureUser_ends {past : List Exchange} :
    ensureUser.Assures (fun _ _ => True)
      (fun outcome _ after => outcome ≠ .spent ∧ after.client = session.client) past session := by
  have ended {past : List Exchange} {after : Session} (same : after.client = session.client) :
      knownUser.Assures (fun _ _ => True)
        (fun outcome _ after => outcome ≠ .spent ∧ after.client = session.client) past after := by
    rw [knownUser, bind_eq, assures_bind, assures_get]
    dsimp only [thenPost]
    split <;> exact ⟨by rintro ⟨⟩, same⟩
  rw [ensureUser_eq, assures_bind, assures_get]
  dsimp only [thenPost]
  split
  · rw [assures_bind]
    refine assures_refreshUser_ends.imp fun outcome past after ends => ?_
    cases outcome with
    | returned user => exact ended ends.2
    | failed fault => exact ⟨Outcome.failed_ne_spent _, ends.2⟩
    | spent => exact absurd rfl ends.1
  · exact ended rfl

/-- A lookup of the user whose faults are turned into others ends of itself and leaves the client
as it is. -/
theorem ends_ensureUser_recover {handler : TimeReports.Fault → Program Session Int}
    (fails : ∀ fault, ∃ other, handler fault = .fail other) (replies : List Reply) :
    ((ensureUser.recover handler).run session replies).outcome ≠ .spent ∧
      ((ensureUser.recover handler).run session replies).state.client = session.client := by
  have assured : (ensureUser.recover handler).Assures (fun _ _ => True)
      (fun outcome _ after => outcome ≠ .spent ∧ after.client = session.client) [] session := by
    rw [assures_recover]
    refine assures_ensureUser_ends.imp fun outcome past after ends => ?_
    cases outcome with
    | returned user => exact ends
    | failed fault =>
      obtain ⟨other, failed⟩ := fails fault
      dsimp only [orElsePost]
      rw [failed]
      exact ⟨Outcome.failed_ne_spent _, ends.2⟩
    | spent => exact ends
  exact assured.run replies

/-- A fetch of time entries ends of itself against fewer replies than there may be pages. -/
theorem ne_spent_fetchEntries (first last : Date) {replies : List Reply}
    (enough : replies.length < session.client.pageBudget) :
    ((fetchEntries first last).run session replies).outcome ≠ .spent := by
  rw [fetchEntries, bind_eq]
  refine ne_spent_bind (fun after => after.client = session.client)
    (ends_ensureUser_recover (fun fault => ?_) replies) ?_
  · split <;> exact ⟨_, rfl⟩
  · intro user after unused same fewer
    refine ne_spent_entriesOn _ user first last _ ?_
    rw [same]
    omega

end Session

namespace Execution

variable {source : Text} {fetch : SessionFetcher} {location : Option Location} {today : Date}
  {desk : Desk} {replies : List Harvest.Reply}

/-- An execution ends of itself if its fetch does. -/
theorem ne_spent_executed
    (ends : ∀ query, Reads source today query →
      (answered fetch query desk replies).outcome ≠ .spent) :
    (executed source fetch location today desk replies).outcome ≠ .spent := by
  cases parsed : Query.parse (Query.withoutFlag source) today with
  | error fault =>
    cases fault with
    | malformed fault =>
      rw [executed_of_malformed parsed]
      nofun
    | days fault =>
      unfold executed execute
      rw [evaluate_of_days parsed]
      nofun
  | ok query =>
    cases fetched : (answered fetch query desk replies).outcome with
    | spent => exact absurd fetched (ends query parsed)
    | failed fault =>
      have fetching := fetched_ofSession fetch query desk replies
      by_cases reported : ∃ failure, fault = .fetch failure
      · obtain ⟨failure, rfl⟩ := reported
        cases refused : Console.refusal? (fetchFailedLine query failure) with
        | none =>
          rw [executed_of_unfetched parsed fetched refused]
          nofun
        | some found =>
          have fails : (Execution.fetched (ofSession fetch) query desk replies).outcome =
              .failed (.fetch failure) := by
            rw [fetching, fetched]
          have broken := run_fetchReport_of_refusal fails refused
          rw [executed_of_parsed parsed, Run.andThen_of_failed _ (by rw [broken])]
          nofun
      · have broken : ((fetchReport (ofSession fetch) query).run desk replies).outcome =
            .failed fault := by
          rw [run_fetchReport, Run.outcome_after,
            Run.attempted_of_failed (by rw [fetching, fetched]), Run.andThen_of_returned _ rfl]
          cases fault with
          | fetch failure => exact absurd ⟨failure, rfl⟩ reported
          | _ => rfl
        rw [executed_of_parsed parsed, Run.andThen_of_failed _ broken]
        nofun
    | returned entries =>
      obtain ⟨markup, written⟩ := markup_report query entries
      cases flag : Query.isStatic source with
      | false =>
        rw [executed_of_live flag parsed fetched]
        nofun
      | true =>
        cases location with
        | none =>
          rw [executed_of_unplaced flag parsed fetched written]
          nofun
        | some place =>
          rw [executed_of_placed flag parsed fetched written]
          dsimp only
          split <;> nofun

end Execution
end TimeReports

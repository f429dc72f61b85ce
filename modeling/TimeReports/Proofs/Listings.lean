import TimeReports.Proofs.Operations

set_option autoImplicit false

namespace TimeReports

variable {σ α β : Type}

def Run.exchanges (run : Run σ α) : List Exchange := run.events.filterMap Event.exchange?

def Outcome.map (change : α → β) : Outcome α → Outcome β
  | .returned value => .returned (change value)
  | .failed fault => .failed fault
  | .spent => .spent

namespace Program

variable {holds : List Exchange → σ → Prop} {post : Outcome α → List Exchange → σ → Prop}
  {past : List Exchange} {state : σ}

/-- What a program assures of its end holds at the end of every run. -/
theorem Assures.run {program : Program σ α} (assured : program.Assures holds post past state)
    (replies : List Harvest.Reply) :
    post (program.run state replies).outcome (past ++ (program.run state replies).exchanges)
      (program.run state replies).state := by
  induction program generalizing past state replies with
  | done value => simpa [Program.run, Run.exchanges] using assured
  | fail fault => simpa [Program.run, Run.exchanges] using assured
  | spent => simpa [Program.run, Run.exchanges] using assured
  | look next ih => exact ih state assured replies
  | put changed next ih => exact ih assured replies
  | tell notice next ih => exact ih assured replies
  | ask request next ih =>
    cases replies with
    | nil =>
      have rest := ih Harvest.notFound (assured.2 Harvest.notFound) []
      rw [List.append_assoc] at rest
      exact rest
    | cons reply replies =>
      have rest := ih reply (assured.2 reply) replies
      rw [List.append_assoc] at rest
      exact rest

/-- The exchanges up to a moment are the first ones of the run. -/
theorem prefix_of_mem_moments {program : Program σ α} {replies : List Harvest.Reply}
    {moment : Moment σ} (reached : moment ∈ program.moments state replies) :
    moment.past <+: (program.run state replies).exchanges := by
  have goesOn := pairwise_moments program state replies
  obtain ⟨front, split⟩ := List.getLast?_eq_some_iff.mp (getLast?_moments program state replies)
  rw [split] at goesOn reached
  rcases List.mem_append.mp reached with earlier | last
  · exact (List.pairwise_append.mp goesOn).2.2 moment earlier _ (List.mem_singleton.mpr rfl)
  · rw [List.mem_singleton.mp last]
    exact List.prefix_rfl

/-- A run takes its replies in order; behind them the service answers that nothing is there. -/
theorem replies_of_run (program : Program σ α) (state : σ) (replies : List Harvest.Reply) :
    ∃ missing, (program.run state replies).exchanges.map (·.reply) ++
      (program.run state replies).unused = replies ++ List.replicate missing Harvest.notFound := by
  induction program generalizing state replies with
  | done value => exact ⟨0, (List.append_nil replies).symm⟩
  | fail fault => exact ⟨0, (List.append_nil replies).symm⟩
  | spent => exact ⟨0, (List.append_nil replies).symm⟩
  | look next ih => exact ih state state replies
  | put changed next ih => exact ih changed replies
  | tell notice next ih => exact ih state replies
  | ask request next ih =>
    cases replies with
    | nil =>
      obtain ⟨missing, same⟩ := ih Harvest.notFound state []
      refine ⟨missing + 1, ?_⟩
      rw [List.nil_append] at same
      rw [List.replicate_succ, List.nil_append, ← same]
      rfl
    | cons reply replies =>
      obtain ⟨missing, same⟩ := ih reply state replies
      refine ⟨missing, ?_⟩
      rw [List.cons_append, ← same]
      rfl

variable {program : Program σ α} {replies : List Harvest.Reply}

theorem reply_of_mem_exchanges {exchange : Exchange}
    (happened : exchange ∈ (program.run state replies).exchanges) :
    exchange.reply ∈ replies ∨ exchange.reply = Harvest.notFound := by
  obtain ⟨missing, same⟩ := replies_of_run program state replies
  have member : exchange.reply ∈ (program.run state replies).exchanges.map (·.reply) :=
    List.mem_map_of_mem happened
  have among := List.mem_append_left (program.run state replies).unused member
  rw [same, List.mem_append] at among
  rcases among with given | given
  · exact Or.inl given
  · exact Or.inr (List.eq_of_mem_replicate given)

/-- A run that never hears that nothing is there has had no more exchanges than there were
replies. -/
theorem length_exchanges_le (heard : ∀ exchange ∈ (program.run state replies).exchanges,
      exchange.reply ≠ Harvest.notFound) :
    (program.run state replies).exchanges.length ≤ replies.length := by
  obtain ⟨missing, same⟩ := replies_of_run program state replies
  rcases List.append_eq_append_iff.mp same with ⟨more, taken, -⟩ | ⟨more, taken, missed⟩
  · have lengths := congrArg List.length taken
    rw [List.length_append, List.length_map] at lengths
    omega
  · cases more with
    | nil =>
      have lengths := congrArg List.length taken
      rw [List.append_nil, List.length_map] at lengths
      omega
    | cons reply more =>
      have absent : reply = Harvest.notFound := by
        apply List.eq_of_mem_replicate (n := missing)
        rw [missed]
        exact List.mem_append_left _ List.mem_cons_self
      have member : reply ∈ (program.run state replies).exchanges.map (·.reply) := by
        rw [taken]
        exact List.mem_append_right _ List.mem_cons_self
      obtain ⟨exchange, happened, rfl⟩ := List.mem_map.mp member
      exact absurd absent (heard exchange happened)

end Program

namespace Harvest

open Program

/-- Where the pages of a listing come from: the request for the page of a number, what a reply says
of it, and whether a page without items is the last one. -/
structure Source (α : Type) where
  request : Nat → Request
  read : Reply → Outcome (Page α)
  endsWhenEmpty : Bool
  read_ne_spent : ∀ reply, read reply ≠ .spent

namespace Source

variable {source : Source α} {budget number : Nat} {exchanges : List Exchange} {items : List α}
  {pages : List (Page α)}

def Ends (source : Source α) (page : Page α) (number : Nat) : Prop :=
  page.totalPages ≤ number ∨ source.endsWhenEmpty = true ∧ page.items = []

/-- What a listing gives from the page of a number on, within a budget of pages, with the exchanges
for it. -/
inductive Gives (source : Source α) : Nat → Nat → List Exchange → Outcome (List α) → Prop
  | last {budget number : Nat} {reply : Reply} {page : Page α}
    (read : source.read reply = .returned page) (ends : source.Ends page number) :
    Gives source (budget + 1) number [⟨source.request number, reply⟩] (.returned page.items)
  | more {budget number : Nat} {reply : Reply} {page : Page α} {exchanges : List Exchange}
    {outcome : Outcome (List α)} (read : source.read reply = .returned page)
    (goesOn : ¬ source.Ends page number)
    (others : Gives source budget (number + 1) exchanges outcome) :
    Gives source (budget + 1) number (⟨source.request number, reply⟩ :: exchanges)
      (outcome.map (page.items ++ ·))
  | unread {budget number : Nat} {reply : Reply} {fault : Fault}
    (failed : source.read reply = .failed fault) :
    Gives source (budget + 1) number [⟨source.request number, reply⟩] (.failed fault)
  | spent {number : Nat} : Gives source 0 number [] .spent

/-- Exchanges for pages from the one of a number on, with the pages that their replies hold. -/
inductive Reads (source : Source α) : Nat → List Exchange → List (Page α) → Prop
  | nil {number : Nat} : Reads source number [] []
  | cons {number : Nat} {reply : Reply} {page : Page α} {exchanges : List Exchange}
    {pages : List (Page α)} (read : source.read reply = .returned page)
    (others : Reads source (number + 1) exchanges pages) :
    Reads source number (⟨source.request number, reply⟩ :: exchanges) (page :: pages)

/-- Pages from the one of a number on of which the last one, and no other, ends the listing. -/
inductive Complete (source : Source α) : Nat → List (Page α) → Prop
  | last {number : Nat} {page : Page α} (ends : source.Ends page number) :
    Complete source number [page]
  | more {number : Nat} {page : Page α} {pages : List (Page α)} (goesOn : ¬ source.Ends page number)
    (others : Complete source (number + 1) pages) : Complete source number (page :: pages)

theorem Gives.request_of_mem {outcome : Outcome (List α)}
    (gives : source.Gives budget number exchanges outcome) :
    ∀ exchange ∈ exchanges, ∃ number, exchange.request = source.request number := by
  induction gives with
  | last read ends =>
    intro exchange member
    rw [List.mem_singleton.mp member]
    exact ⟨_, rfl⟩
  | more read goesOn others ih =>
    intro exchange member
    rcases List.mem_cons.mp member with rfl | member
    · exact ⟨_, rfl⟩
    · exact ih exchange member
  | unread failed =>
    intro exchange member
    rw [List.mem_singleton.mp member]
    exact ⟨_, rfl⟩
  | spent =>
    intro exchange member
    cases member

/-- A listing that gives items gives those of all its pages. -/
theorem Gives.exists_pages (gives : source.Gives budget number exchanges (.returned items)) :
    ∃ pages, source.Reads number exchanges pages ∧ source.Complete number pages ∧
      items = pages.flatMap (·.items) := by
  generalize ending : Outcome.returned items = outcome at gives
  induction gives generalizing items with
  | last read ends =>
    cases ending
    exact ⟨[_], .cons read .nil, .last ends, (List.flatMap_singleton _ _).symm⟩
  | more read goesOn others ih =>
    rename_i page exchanges outcome
    cases outcome with
    | returned behind =>
      cases ending
      obtain ⟨pages, reads, complete, rfl⟩ := ih rfl
      exact ⟨page :: pages, .cons read reads, .more goesOn complete, List.flatMap_cons.symm⟩
    | failed fault => cases ending
    | spent => cases ending
  | unread failed => cases ending
  | spent => cases ending

/-- A listing that fails fails with its last page, and all pages before that one were read. -/
theorem Gives.exists_unread {fault : Fault}
    (gives : source.Gives budget number exchanges (.failed fault)) :
    ∃ front pages reply, exchanges = front ++ [⟨source.request (number + pages.length), reply⟩] ∧
      source.Reads number front pages ∧ source.read reply = .failed fault := by
  generalize ending : Outcome.failed fault = outcome at gives
  induction gives with
  | last read ends => cases ending
  | more read goesOn others ih =>
    rename_i number reply page exchanges outcome
    cases outcome with
    | returned behind => cases ending
    | failed other =>
      cases ending
      obtain ⟨front, pages, unread, rfl, reads, failed⟩ := ih rfl
      refine ⟨_ :: front, page :: pages, unread, ?_, .cons read reads, failed⟩
      rw [List.length_cons, List.cons_append, Nat.add_assoc, Nat.add_comm 1]
    | spent => cases ending
  | unread failed =>
    cases ending
    exact ⟨[], [], _, rfl, .nil, failed⟩
  | spent => cases ending

/-- A listing that spends its budget has read as many pages. -/
theorem Gives.exists_spent (gives : source.Gives budget number exchanges .spent) :
    exchanges.length = budget ∧ ∃ pages, source.Reads number exchanges pages := by
  generalize ending : Outcome.spent = outcome at gives
  induction gives with
  | last read ends => cases ending
  | more read goesOn others ih =>
    rename_i budget number reply page exchanges outcome
    cases outcome with
    | returned behind => cases ending
    | failed fault => cases ending
    | spent =>
      obtain ⟨length, pages, reads⟩ := ih rfl
      exact ⟨by rw [List.length_cons, length], page :: pages, .cons read reads⟩
  | unread failed => cases ending
  | spent => exact ⟨rfl, [], .nil⟩

theorem Reads.page_of_mem (reads : source.Reads number exchanges pages) :
    ∀ exchange ∈ exchanges, ∃ page ∈ pages, source.read exchange.reply = .returned page := by
  induction reads with
  | nil =>
    intro exchange member
    cases member
  | cons read others ih =>
    intro exchange member
    rcases List.mem_cons.mp member with rfl | member
    · exact ⟨_, List.mem_cons_self, read⟩
    · obtain ⟨page, inside, read⟩ := ih exchange member
      exact ⟨page, List.mem_cons_of_mem _ inside, read⟩

theorem Reads.read_of_mem (reads : source.Reads number exchanges pages) :
    ∀ exchange ∈ exchanges, ∃ page, source.read exchange.reply = .returned page := by
  intro exchange member
  obtain ⟨page, -, read⟩ := reads.page_of_mem exchange member
  exact ⟨page, read⟩

section Programs

variable {credentials : Bool} {page : Nat → Program σ (Page α)} {past : List Exchange} {state : σ}
  {post : Outcome (List α) → List Exchange → σ → Prop}

theorem ends_iff {page : Page α} :
    (page.totalPages ≤ number || (source.endsWhenEmpty && page.items.isEmpty)) = true ↔
      source.Ends page number := by
  simp [Ends]

theorem assures_pagesFrom (sends : ∀ number, Sends true (source.request number) source.read
      (page number))
    (gives : ∀ exchanges outcome, source.Gives budget number exchanges outcome →
      post outcome (past ++ exchanges) state) :
    (pagesFrom page source.endsWhenEmpty budget number).Assures (fun _ _ => True) post past
      state := by
  induction budget generalizing number past post with
  | zero =>
    have nothing := gives [] .spent .spent
    rw [List.append_nil] at nothing
    exact nothing
  | succ budget ih =>
    rw [pagesFrom, bind_eq, assures_bind, sends number, if_pos rfl]
    refine ⟨trivial, ?_⟩
    intro reply
    cases read : source.read reply with
    | failed fault => exact gives _ _ (.unread read)
    | spent => exact absurd read (source.read_ne_spent reply)
    | returned page =>
      dsimp only [thenPost]
      split
      · rename_i ends
        exact gives _ _ (.last read (ends_iff.mp ends))
      · rename_i goesOn
        rw [bind_eq, assures_bind]
        apply ih
        intro exchanges outcome others
        have whole := gives _ _ (.more read (fun last => goesOn (ends_iff.mpr last)) others)
        rw [List.append_assoc]
        cases outcome <;> exact whole

/-- What a listing gives from its first page on. Without credentials it breaks off at once. -/
theorem assures_pages (source : Source α)
    (sends : ∀ number, Sends credentials (source.request number) source.read (page number))
    (online : credentials = true → ∀ exchanges outcome,
      source.Gives budget 1 exchanges outcome → post outcome (past ++ exchanges) state)
    (offline : credentials = false → ∀ outcome, outcome.Breaks → post outcome past state) :
    (pagesFrom page source.endsWhenEmpty budget 1).Assures (fun _ _ => True) post past state := by
  cases credentials with
  | true => exact assures_pagesFrom sends (online rfl)
  | false =>
    cases budget with
    | zero => exact offline rfl _ trivial
    | succ budget =>
      rw [pagesFrom, bind_eq, assures_bind, sends 1]
      exact offline rfl _ trivial

end Programs
end Source

variable [Console]

/-- The time entries that filters let through, which name neither a page nor a size of pages. -/
def Source.entries (filters : List (Text × Json)) : Source TimeEntry where
  request := Client.readingEntries filters
  read := readAs Page.entries "time entry"
  endsWhenEmpty := true
  read_ne_spent := readAs_ne_spent

abbrev Source.range (first last : Date) (user : Int) : Source TimeEntry :=
  .entries (Client.rangeFilters first last user)

def asFetched : Outcome α → Outcome α
  | .failed fault => .failed (Client.asFetchFault fault)
  | outcome => outcome

theorem assures_entriesOn (client : Client) {user : Int} {first last : Date}
    {post : Outcome (List TimeEntry) → List Exchange → σ → Prop} {past : List Exchange} {state : σ}
    (online : client.hasCredentials = true → ∀ listing outcome,
      (Source.range first last user).Gives client.pageBudget 1 listing outcome →
        post (asFetched outcome) (past ++ listing) state)
    (offline : client.hasCredentials = false → ∀ outcome, outcome.Breaks →
      post outcome past state) :
    (client.entriesOn user first last).Assures (fun _ _ => True) post past state := by
  rw [Client.entriesOn, assures_recover]
  apply Source.assures_pages (Source.range first last user) (sends_entryPage client _)
  · intro credentials listing outcome gives
    have fetched := online credentials listing outcome gives
    cases outcome <;> exact fetched
  · intro noCredentials outcome breaks
    cases outcome with
    | returned entries => exact breaks.elim
    | failed fault => exact offline noCredentials _ trivial
    | spent => exact offline noCredentials _ trivial

end Harvest

namespace Session

open Harvest Program

theorem withUser_self {session : Session} {user : Option Int} (same : session.user = user) :
    { session with user } = session := by
  subst same
  rfl

variable [Console]

/-- How the user of an operation comes to be known, with the exchanges for it: the session knows the
user, or one lookup finds one. -/
inductive Resolved : Option Int → List Exchange → Int → Prop
  | known {user : Int} : Resolved (some user) [] user
  | found {reply : Reply} {user : Int} (found : decided? reply = some (some user)) :
    Resolved none [⟨Client.readingUser, reply⟩] user

variable {past : List Exchange} {session : Session}
  {post : Outcome Int → List Exchange → Session → Prop}

theorem assures_ensureUser
    (resolved : ∀ lookup user, Resolved session.user lookup user →
      post (.returned user) (past ++ lookup) { session with user := some user })
    (refused : session.user = none → ∀ reply, decided? reply = some none →
      post (.failed (.harvest userUnknown)) (past ++ [⟨Client.readingUser, reply⟩]) session)
    (undecided : session.user = none → ∀ reply fault, decided? reply = none →
      lookedUp reply = .failed fault →
        post (.failed fault) (past ++ [⟨Client.readingUser, reply⟩]) session)
    (offline : session.user = none → session.client.hasCredentials = false →
      post (.failed (.harvest userUnknown)) past session) :
    ensureUser.Assures (fun _ _ => True) post past session := by
  rw [ensureUser_eq, assures_bind, assures_get]
  dsimp only [thenPost]
  cases known : session.user with
  | some user =>
    have ended := resolved [] user (known ▸ .known)
    rw [List.append_nil, withUser_self known] at ended
    rw [if_neg (by simp), knownUser, bind_eq, assures_bind, assures_get]
    dsimp only [thenPost]
    rw [known]
    exact ended
  | none =>
    rw [Option.isNone_none, if_pos rfl, assures_bind]
    apply assures_refreshUser
    · intro online
      trivial
    · intro online reply user decides
      cases user with
      | some user => exact resolved _ user (known ▸ .found decides)
      | none =>
        have ended := refused known reply decides
        rw [← withUser_self known] at ended
        exact ended
    · intro online reply fault notDecided looked
      exact undecided known reply fault notDecided looked
    · intro noCredentials
      have ended := offline known noCredentials
      rw [← withUser_self known] at ended
      exact ended

end Session
end TimeReports

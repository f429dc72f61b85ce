import TimeReports.Proofs.Blame

set_option autoImplicit false

namespace TimeReports.Session

open Harvest Program

/-- The pages that were read are told by their exchanges. -/
theorem pages_unique {α : Type} {source : Source α} {number : Nat}
    {exchanges : List Exchange} {pages others : List (Page α)}
    (reads : source.Reads number exchanges pages) (reads' : source.Reads number exchanges others) :
    pages = others := by
  induction reads generalizing others with
  | nil =>
    cases reads'
    rfl
  | cons read rest ih =>
    cases reads' with
    | cons read' rest' =>
      rw [read] at read'
      cases read'
      rw [ih rest']

variable [Console]

/-- How a collection of projects ends, with its exchanges. -/
inductive Collected (session : Session) : List Exchange → Outcome (List Project) → Prop
  /-- The listing of managed projects broke off. -/
  | unlisted {listing : List Exchange} {outcome : Outcome (List Project)}
    (asked : ∀ exchange ∈ listing, ∃ number, exchange.request = Client.readingManaged number)
    (breaks : outcome.Breaks) : Collected session listing outcome
  /-- The reply to the lookup decided nothing. -/
  | undecided {listing : List Exchange} {reply : Reply} {outcome : Outcome (List Project)}
    (undecided : decided? reply = none) (breaks : outcome.Breaks) :
    Collected session (listing ++ [⟨Client.readingUser, reply⟩]) outcome
  /-- The lookup was refused. -/
  | refused {listing : List Exchange} {listed : List Project} {reply : Reply}
    (gives : Source.managed.Gives session.client.pageBudget 1 listing (.returned listed))
    (refused : decided? reply = some none) :
    Collected session (listing ++ [⟨Client.readingUser, reply⟩]) (.returned (merged listed []))
  /-- There is a user, whose entries were listed or not. -/
  | resolved {listing lookup tracking : List Exchange} {user : Int}
    {outcome : Outcome (List Project)}
    (managed : ∀ exchange ∈ listing, ∃ number, exchange.request = Client.readingManaged number)
    (resolved : Resolved session.user lookup user)
    (asked : ∀ exchange ∈ tracking, exchange.request.readsEntries) :
    Collected session (listing ++ lookup ++ tracking) outcome

/-- The exchanges of a collection that is completed, with the projects and the entries that were
listed. The entries are those of the user since a day, or none if the user was looked up in vain. -/
inductive Completed (session : Session) (today : Date) :
    List Exchange → List Project → List TimeEntry → Prop
  | refused {listing : List Exchange} {listed : List Project} {reply : Reply}
    (managed : Source.managed.Gives session.client.pageBudget 1 listing (.returned listed))
    (unknown : session.user = none) (refused : decided? reply = some none) :
    Completed session today (listing ++ [⟨Client.readingUser, reply⟩]) listed []
  | resolved {listing lookup tracking : List Exchange} {listed : List Project}
    {tracked : List TimeEntry} {user : Int} {since : Date}
    (managed : Source.managed.Gives session.client.pageBudget 1 listing (.returned listed))
    (resolved : Resolved session.user lookup user)
    (placed : today.addDays? (-(Client.recentDays : Int)) = some since)
    (recent : (Source.entries (Client.recentFilters since user)).Gives session.client.pageBudget 1
      tracking (.returned tracked)) :
    Completed session today (listing ++ lookup ++ tracking) listed tracked

/-- How a collection ends, with its exchanges: it is completed, or it breaks off. -/
inductive Gathered (session : Session) (today : Date) :
    List Exchange → Outcome (List Project) → Prop
  | completed {exchanges : List Exchange} {listed : List Project} {tracked : List TimeEntry}
    (completed : Completed session today exchanges listed tracked) :
    Gathered session today exchanges (.returned (merged listed tracked))
  | broken {exchanges : List Exchange} {outcome : Outcome (List Project)}
    (collected : Collected session exchanges outcome) (breaks : outcome.Breaks) :
    Gathered session today exchanges outcome

variable {session : Session} {past exchanges : List Exchange} {today : Date}
  {outcome : Outcome (List Project)}
  {post : Outcome (List Project) → List Exchange → Session → Prop}

/-- A listing of entries asks for nothing else. -/
theorem readsEntries_of_gives {filters : List (Text × Json)} {budget : Nat}
    {tracking : List Exchange} {entries : Outcome (List TimeEntry)}
    (gives : (Source.entries filters).Gives budget 1 tracking entries) :
    ∀ exchange ∈ tracking, exchange.request.readsEntries := by
  intro exchange member
  obtain ⟨number, request⟩ := gives.request_of_mem exchange member
  rw [request]
  exact Client.readsEntries_readingEntries

theorem Completed.collected {listed : List Project} {tracked : List TimeEntry}
    (completed : Completed session today exchanges listed tracked) :
    Collected session exchanges (.returned (merged listed tracked)) := by
  cases completed with
  | refused managed unknown refused => exact .refused managed refused
  | resolved managed resolved placed recent =>
    exact .resolved managed.request_of_mem resolved (readsEntries_of_gives recent)

theorem Gathered.collected (gathered : Gathered session today exchanges outcome) :
    Collected session exchanges outcome := by
  cases gathered with
  | completed completed => exact completed.collected
  | broken collected breaks => exact collected

/-- The end of a collection for a user: it lists entries. -/
theorem assures_finishCollection {user : Int} (known : session.user = some user)
    (listed : List Project)
    (tracked : ∀ since tracking entries, today.addDays? (-(Client.recentDays : Int)) = some since →
      (Source.entries (Client.recentFilters since user)).Gives session.client.pageBudget 1 tracking
        (.returned entries) →
      post (.returned (merged listed entries)) (past ++ tracking) session)
    (broken : ∀ tracking outcome, (∀ exchange ∈ tracking, exchange.request.readsEntries) →
      outcome.Breaks → post outcome (past ++ tracking) session) :
    (finishCollection listed today).Assures (fun _ _ => True) post past session := by
  have nothing (outcome : Outcome (List Project)) (breaks : outcome.Breaks) :
      post outcome past session := by
    have alone := broken [] outcome nofun breaks
    rw [List.append_nil] at alone
    exact alone
  rw [finishCollection, bind_eq, assures_bind, assures_get]
  dsimp only [thenPost]
  rw [known]
  dsimp only
  rw [bind_eq, assures_bind, Client.recentProjects]
  split
  · exact nothing _ trivial
  · rename_i since placed
    rw [bind_eq, assures_bind]
    apply Source.assures_pages (Source.entries (Client.recentFilters since user))
      (sends_entryPage session.client _)
    · intro online tracking outcome gives
      have asked := readsEntries_of_gives gives
      cases outcome with
      | returned entries => exact tracked since tracking entries placed gives
      | failed fault => exact broken tracking _ asked trivial
      | spent => exact broken tracking _ asked trivial
    · intro offline outcome breaks
      apply thenPost_of_breaks breaks
      intro outcome breaks
      apply thenPost_of_breaks breaks
      intro outcome breaks
      exact nothing outcome breaks

theorem assures_finishCollection_none (unknown : session.user = none) (listed : List Project)
    (ended : post (.returned (merged listed [])) past session) :
    (finishCollection listed today).Assures (fun _ _ => True) post past session := by
  rw [finishCollection, bind_eq, assures_bind, assures_get]
  dsimp only [thenPost]
  rw [unknown]
  exact ended

theorem assures_gathered
    (ended : ∀ exchanges outcome user, Gathered session today exchanges outcome →
      post outcome (past ++ exchanges) { session with user }) :
    (collectProjects today).Assures (fun _ _ => True) post past session := by
  have broken (listing : List Exchange) (outcome : Outcome (List Project))
      (asked : ∀ exchange ∈ listing, ∃ number, exchange.request = Client.readingManaged number)
      (breaks : outcome.Breaks) : post outcome (past ++ listing) session :=
    ended listing outcome session.user (.broken (.unlisted asked breaks) breaks)
  rw [collectProjects_eq, assures_bind, assures_get]
  dsimp only [thenPost]
  rw [assures_bind]
  apply Source.assures_pages Source.managed (sends_projectPage session.client)
  · intro online listing outcome gives
    have asked := gives.request_of_mem
    cases outcome with
    | failed fault => exact broken listing _ asked trivial
    | spent => exact broken listing _ asked trivial
    | returned listed =>
      dsimp only [thenPost]
      rw [assures_bind, assures_get]
      dsimp only [thenPost]
      cases known : session.user with
      | some user =>
        have here : Resolved session.user [] user := known ▸ .known
        have whole (tracking : List Exchange) (outcome : Outcome (List Project))
            (gathered : Gathered session today (listing ++ [] ++ tracking) outcome) :
            post outcome (past ++ listing ++ tracking) session := by
          have ended := ended _ outcome (some user) gathered
          rw [List.append_nil, withUser_self known, ← List.append_assoc] at ended
          exact ended
        rw [if_neg (by simp)]
        apply assures_finishCollection known
        · intro since tracking tracked placed recent
          exact whole tracking _ (.completed (.resolved gives here placed recent))
        · intro tracking outcome reads breaks
          exact whole tracking outcome (.broken (.resolved asked here reads) breaks)
      | none =>
        rw [Option.isNone_none, if_pos rfl, assures_bind]
        apply assures_refreshUser
        · intro _
          trivial
        · intro _ reply user decides
          cases user with
          | none =>
            apply assures_finishCollection_none rfl
            rw [List.append_assoc]
            exact ended _ _ none (.completed (.refused gives known decides))
          | some user =>
            have found : Resolved session.user [⟨Client.readingUser, reply⟩] user :=
              known ▸ .found decides
            have whole (tracking : List Exchange) (outcome : Outcome (List Project))
                (gathered : Gathered session today
                  (listing ++ [⟨Client.readingUser, reply⟩] ++ tracking) outcome) :
                post outcome (past ++ listing ++ [⟨Client.readingUser, reply⟩] ++ tracking)
                  { session with user := some user } := by
              have ended := ended _ outcome (some user) gathered
              rw [← List.append_assoc, ← List.append_assoc] at ended
              exact ended
            apply assures_finishCollection rfl
            · intro since tracking tracked placed recent
              exact whole tracking _ (.completed (.resolved gives found placed recent))
            · intro tracking outcome reads breaks
              exact whole tracking outcome (.broken (.resolved asked found reads) breaks)
        · intro _ reply fault notDecided _
          have breaks : (Outcome.failed fault : Outcome (List Project)).Breaks := trivial
          dsimp only [thenPost]
          rw [List.append_assoc]
          exact ended _ _ session.user (.broken (.undecided notDecided breaks) breaks)
        · intro offline
          rw [online] at offline
          cases offline
  · intro offline outcome breaks
    apply thenPost_of_breaks breaks
    intro outcome breaks
    have alone := broken [] outcome nofun breaks
    rw [List.append_nil] at alone
    exact alone

theorem assures_collectProjects
    (ended : ∀ exchanges outcome user, Collected session exchanges outcome →
      post outcome (past ++ exchanges) { session with user }) :
    (collectProjects today).Assures (fun _ _ => True) post past session :=
  assures_gathered fun exchanges outcome user gathered =>
    ended exchanges outcome user gathered.collected

/-- Behind a lookup that is refused the managed projects are all that there is. -/
theorem Collected.eq_of_refused {exchanges listing : List Exchange} {listed : List Project}
    {reply : Reply} {outcome : Outcome (List Project)}
    (collected : Collected session exchanges outcome)
    (same : exchanges = listing ++ [⟨Client.readingUser, reply⟩])
    (gives : Source.managed.Gives session.client.pageBudget 1 listing (.returned listed))
    (refused : decided? reply = some none) : outcome = .returned (merged listed []) := by
  cases collected with
  | unlisted asked breaks =>
    obtain ⟨number, managed⟩ := asked ⟨Client.readingUser, reply⟩ (by rw [same]; simp)
    exact absurd managed.symm Client.readingManaged_ne_readingUser
  | undecided undecided breaks =>
    obtain ⟨-, last⟩ := snoc_inj same
    cases last
    rw [refused] at undecided
    cases undecided
  | refused gives' refused' =>
    obtain ⟨rfl, last⟩ := snoc_inj same
    obtain ⟨pages, reads, -, rfl⟩ := gives.exists_pages
    obtain ⟨others, reads', -, rfl⟩ := gives'.exists_pages
    rw [pages_unique reads reads']
  | resolved managed resolved asked =>
    rename_i front lookup tracking user
    rcases List.eq_nil_or_concat tracking with rfl | ⟨others, last, rfl⟩
    · rw [List.append_nil] at same
      generalize session.user = known at resolved
      cases resolved with
      | known =>
        rw [List.append_nil] at same
        obtain ⟨number, asked⟩ := managed ⟨Client.readingUser, reply⟩ (by rw [same]; simp)
        exact absurd asked.symm Client.readingManaged_ne_readingUser
      | found found =>
        obtain ⟨-, last⟩ := snoc_inj same
        cases last
        rw [refused] at found
        cases found
    · -- entries were listed behind the lookup, and it is not the last exchange
      rw [List.concat_eq_append, ← List.append_assoc] at same
      obtain ⟨-, rfl⟩ := snoc_inj same
      exact absurd (asked ⟨Client.readingUser, reply⟩ (by simp)) Client.readsEntries_user

end TimeReports.Session

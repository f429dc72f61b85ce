import Mathlib.Data.List.Perm.Basic
import TimeReports.Proofs.Meanwhile
import TimeReports.Session.Poller

set_option autoImplicit false

namespace TimeReports

namespace Harvest.Ledger

def running (ledger : Ledger) : List TimeEntry := ledger.entries.filter (·.isRunning)

variable {user : Int} {entry : TimeEntry} {first ledger ledger' last : Ledger}
  {exchange : Exchange} {front behind : List Exchange} {index : Nat} {reply : Reply}
  {page : Page TimeEntry}

def RunsOnly (entry : TimeEntry) (ledger : Ledger) : Prop :=
  ledger.running = [] ∨ ledger.running = [entry]

theorem RunsOnly.of_subperm (only : RunsOnly entry ledger)
    (fewer : ledger'.running.Subperm ledger.running) : RunsOnly entry ledger' := by
  obtain ⟨kept, same, inside⟩ := fewer
  rcases only with none | one
  · rw [none, List.sublist_nil] at inside
    subst inside
    exact Or.inl same.nil_eq.symm
  · rw [one, List.sublist_singleton] at inside
    rcases inside with rfl | rfl
    · exact Or.inl same.nil_eq.symm
    · exact Or.inr (List.singleton_perm.mp same).symm

def onlyRunning : Filter := ⟨none, none, true⟩

theorem filter_running :
    (Client.readingEntries (Client.runningFilters user) index).filter = onlyRunning := by
  rw [Request.filter, Client.field?_readingEntries Client.whole_runningFilters,
    Client.field?_readingEntries Client.whole_runningFilters,
    Client.field?_readingEntries Client.whole_runningFilters]
  rfl

theorem filter_onlyRunning : ledger.entries.filter onlyRunning.admits = ledger.running :=
  List.filter_congr fun entry _ => by simp [Filter.admits, onlyRunning]

/-- One item takes one page. -/
theorem pages_of_single {item : TimeEntry} {pages : List (List TimeEntry)}
    (listed : pages.flatten = [item]) (filled : [] ∈ pages → pages.flatten = []) :
    pages = [[item]] := by
  have nonempty : [] ∉ pages := by
    intro empty
    rw [filled empty] at listed
    cases listed
  cases pages with
  | nil => cases listed
  | cons page pages =>
    cases page with
    | nil => exact absurd List.mem_cons_self nonempty
    | cons only others =>
      rw [List.flatten_cons, List.cons_append] at listed
      obtain ⟨rfl, rest⟩ := List.cons.inj listed
      obtain ⟨rfl, nothing⟩ := List.append_eq_nil_iff.mp rest
      cases pages with
      | nil => rfl
      | cons page pages =>
        have empty := (List.append_eq_nil_iff.mp nothing).1
        subst empty
        exact absurd (List.mem_cons_of_mem _ List.mem_cons_self) nonempty

variable [Console]

/-- What a request can do while nothing is started: no other entry comes to run, and an entry whose
stop is confirmed runs no longer. -/
inductive Subsides (user : Int) : Ledger → Exchange → Ledger → Prop
  | reads {ledger : Ledger} {exchange : Exchange} (method : exchange.request.method = "GET".text)
    (truthful : ledger.Truthful user exchange) : Subsides user ledger exchange ledger
  | changes {ledger ledger' : Ledger} {exchange : Exchange}
    (method : exchange.request.method ≠ "GET".text)
    (fewer : ledger'.running.Subperm ledger.running)
    (confirmed : ∀ id, exchange.request = Client.changing id "stop" → ∀ stopped,
      readAs TimeEntry.ofJson "time entry" exchange.reply = .returned stopped →
        ∀ entry ∈ ledger'.running, entry.id ≠ id) :
    Subsides user ledger exchange ledger'

theorem Subsides.fewer (subsides : Subsides user ledger exchange ledger') :
    ledger'.running.Subperm ledger.running := by
  cases subsides with
  | reads => exact List.Subperm.refl _
  | changes _ fewer => exact fewer

theorem Subsides.of_get (subsides : Subsides user ledger exchange ledger')
    (method : exchange.request.method = "GET".text) :
    ledger' = ledger ∧ ledger.Truthful user exchange := by
  cases subsides with
  | reads _ truthful => exact ⟨rfl, truthful⟩
  | changes other => exact absurd method other

/-- An entry that was stopped does not run again. -/
theorem running_of_stopped {stopped : TimeEntry} (only : RunsOnly entry ledger)
    (subsides : Subsides user ledger ⟨Client.changing entry.id "stop", reply⟩ ledger')
    (read : readAs TimeEntry.ofJson "time entry" reply = .returned stopped) :
    ledger'.running = [] := by
  rcases only.of_subperm subsides.fewer with none | one
  · exact none
  · cases subsides with
    | reads method =>
      change "PATCH".text = "GET".text at method
      exact absurd method (by decide)
    | changes _ _ confirmed =>
      have others := confirmed entry.id rfl stopped read entry
      rw [one] at others
      exact absurd rfl (others (List.mem_singleton.mpr rfl))

theorem fewer_of_handles {exchanges : List Exchange}
    (handles : Handles (Subsides user) first exchanges last) :
    last.running.Subperm first.running := by
  induction exchanges generalizing first with
  | nil =>
    cases handles
    exact List.Subperm.refl _
  | cons exchange exchanges ih =>
    obtain ⟨next, subsides, others⟩ := handles
    exact (ih others).trans subsides.fewer

/-- A page of running entries, where no entry but one runs, is the last page; the first one holds
all that there is. -/
theorem Truthful.runningPage (only : RunsOnly entry ledger)
    (truthful : ledger.Truthful user
      ⟨Client.readingEntries (Client.runningFilters user) (index + 1), reply⟩)
    (read : readAs Page.entries "time entry" reply = .returned page) :
    (Source.entries (Client.runningFilters user)).Ends page (index + 1) ∧
      (∀ item ∈ page.items, item = entry) ∧ (index = 0 → page.items = ledger.running) := by
  have numbered : (Client.readingEntries (Client.runningFilters user) (index + 1)).field? "page" =
      some (Text.natDigits (index + 1)) := by
    rw [Client.field?_readingEntries Client.whole_runningFilters]
    rfl
  obtain ⟨items, total⟩ := truthful.lists Client.readsEntries_readingEntries Client.user_running
    index numbered page read
  dsimp only at items total
  rw [filter_running] at items total
  have listed := ledger.listed onlyRunning
  have filled := ledger.filled onlyRunning
  rw [filter_onlyRunning] at listed
  rcases only with idle | one
  · rw [idle] at listed ⊢
    have empty : page.items = [] := by
      rw [items]
      cases inside : (ledger.pages onlyRunning)[index]? with
      | none => rfl
      | some page =>
        exact List.flatten_eq_nil_iff.mp listed.eq_nil page (List.mem_of_getElem? inside)
    rw [empty]
    exact ⟨Or.inr ⟨rfl, empty⟩, nofun, fun _ => rfl⟩
  · rw [one] at listed ⊢
    rw [pages_of_single (List.perm_singleton.mp listed) filled] at items total
    refine ⟨Or.inl ?_, ?_, ?_⟩
    · rw [total, List.length_singleton]
      omega
    · intro item member
      rw [items] at member
      cases index with
      | zero => exact List.mem_singleton.mp member
      | succ index => cases member
    · intro atFirst
      rw [items, atFirst]
      rfl

/-- Behind a confirmed stop nothing is listed. -/
theorem items_behind_stop {between : List Exchange} {stopped : TimeEntry} {reply' : Reply}
    (only : RunsOnly entry first)
    (handles : Handles (Subsides user) first
      (front ++ ⟨Client.changing entry.id "stop", reply⟩ ::
        (between ++ ⟨Client.readingEntries (Client.runningFilters user) 1, reply'⟩ :: behind)) last)
    (confirmed : readAs TimeEntry.ofJson "time entry" reply = .returned stopped)
    (read : readAs Page.entries "time entry" reply' = .returned page) : page.items = [] := by
  obtain ⟨before, earlier, stop, stops, later⟩ := handles_append.mp handles
  obtain ⟨between, meanwhile, listing, reads, -⟩ := handles_append.mp later
  have idle := running_of_stopped (only.of_subperm (fewer_of_handles earlier)) stops confirmed
  have stillIdle : RunsOnly entry between :=
    RunsOnly.of_subperm (Or.inl idle) (fewer_of_handles meanwhile)
  have nothing : between.running = [] := by
    have fewer := fewer_of_handles meanwhile
    rw [idle, List.subperm_nil] at fewer
    exact fewer
  rw [(Truthful.runningPage stillIdle (reads.of_get rfl).2 read).2.2 rfl, nothing]

end Harvest.Ledger

namespace Session

open Harvest Program

/-- A poll of the running timer, or a stop of it. -/
inductive Party where
  | poll
  | stop
  deriving DecidableEq

abbrev Party.Value : Party → Type
  | poll => Unit
  | stop => Option TimeEntry

/-- The request for the first page of the running entries of a user. -/
abbrev listing (user : Int) : Request :=
  Client.readingEntries (Client.runningFilters user) 1

theorem statusText_idle_iff {session : Session} :
    session.statusText = "Harvest: No timer running".text ↔ session.runningTimer = none := by
  unfold statusText
  cases session.runningTimer with
  | none => exact ⟨fun _ => rfl, fun _ => rfl⟩
  | some timer =>
    constructor
    · intro same
      have ends := congrArg List.getLast? same
      have bracket : "h)".text.getLast? = some (.char ')') := rfl
      rw [List.getLast?_append, bracket, Option.some_or] at ends
      exact absurd ends (by decide)
    · nofun

section Overlaps

variable [Console]

def Party.program : ∀ party : Party, SessionProgram party.Value
  | poll => pollOnce
  | stop => stopTimer

/-- A session that heard of the running timer, if a reply tells of it. -/
def heard (exchange : Exchange) (session : Session) : Session :=
  if exchange.request.readsEntries then
    match readAs Page.entries "time entry" exchange.reply with
    | .returned page => { session with runningTimer := page.items.head? }
    | _ => session
  else session

theorem heard_listing {user : Int} {reply : Reply} {page : Page TimeEntry} {session : Session}
    (read : readAs Page.entries "time entry" reply = .returned page) :
    heard ⟨listing user, reply⟩ session = { session with runningTimer := page.items.head? } := by
  rw [heard, if_pos Client.readsEntries_readingEntries, read]

theorem heard_unread {exchange : Exchange} {session : Session}
    (unread : ∀ page, readAs Page.entries "time entry" exchange.reply ≠ .returned page) :
    heard exchange session = session := by
  rw [heard]
  split
  · split
    · rename_i page read
      exact absurd read (unread page)
    · rfl
  · rfl

theorem heard_changing {id : Int} {change : String} {reply : Reply} {session : Session} :
    heard ⟨Client.changing id change, reply⟩ session = session := by
  rw [heard, if_neg]
  intro reads
  exact absurd reads.1 Client.method_changing

/-- A session behind exchanges, when it was another one behind all but the last of them. -/
def hear (past : List Exchange) (session : Session) : Session :=
  past.getLast?.elim session fun exchange => heard exchange session

theorem hear_snoc {past : List Exchange} {exchange : Exchange} {session : Session} :
    hear (past ++ [exchange]) session = heard exchange session := by
  rw [hear, List.getLast?_append]
  rfl

/-- A session that heard of the running timer in exchanges, one after another. -/
def told (exchanges : List (Party × Exchange)) (session : Session) : Session :=
  exchanges.foldl (fun session exchange => heard exchange.2 session) session

theorem told_append {front back : List (Party × Exchange)} {session : Session} :
    told (front ++ back) session = told back (told front session) := List.foldl_append

theorem told_snoc {exchanges : List (Party × Exchange)} {party : Party} {exchange : Exchange}
    {session : Session} :
    told (exchanges ++ [(party, exchange)]) session = heard exchange (told exchanges session) :=
  told_append

section Behaves

variable {first session : Session} {entry : TimeEntry}

/-- What a session upholds while no timer but one can run: the client and the user stay, and a timer
is that one. -/
structure Steady (first : Session) (entry : TimeEntry) (session : Session) : Prop where
  client : session.client = first.client
  user : session.user = first.user
  timer : ∀ left, session.runningTimer = some left → left.id = entry.id

/-- What both programs do: they take the session to what they heard last. -/
def Hears (first : Session) (entry : TimeEntry) (past : List Exchange)
    (entered session : Session) : Prop :=
  session = hear past entered ∧ Steady first entry session

/-- Whether an exchange, if it is for a page of the user's running entries, says that the page is
the last one, with no entry but one on it. -/
def Lone (known : Option Int) (entry : TimeEntry) (exchange : Exchange) : Prop :=
  ∀ user, known = some user → ∀ index,
    exchange.request = Client.readingEntries (Client.runningFilters user) (index + 1) →
    ∀ page, readAs Page.entries "time entry" exchange.reply = .returned page →
      (Source.entries (Client.runningFilters user)).Ends page (index + 1) ∧
        ∀ item ∈ page.items, item = entry

/-- The exchange of a refresh, if there is one, and how it ends. -/
inductive Rereads (known : Option Int) : Outcome (Option TimeEntry) → List Exchange → Prop
  | unknown (nobody : known = none) : Rereads known (.returned none) []
  | listed {user : Int} {reply : Reply} {page : Page TimeEntry} (one : known = some user)
    (read : readAs Page.entries "time entry" reply = .returned page) :
    Rereads known (.returned page.items.head?) [⟨listing user, reply⟩]
  | unread {user : Int} {reply : Reply} {outcome : Outcome (Option TimeEntry)}
    (one : known = some user)
    (unread : ∀ page, readAs Page.entries "time entry" reply ≠ .returned page)
    (breaks : outcome.Breaks) : Rereads known outcome [⟨listing user, reply⟩]
  | unsent {outcome : Outcome (Option TimeEntry)} (breaks : outcome.Breaks) :
    Rereads known outcome []

theorem Rereads.exchanges {known : Option Int} {outcome : Outcome (Option TimeEntry)}
    {more : List Exchange} (rereads : Rereads known outcome more) :
    more = [] ∨ ∃ user reply, known = some user ∧ more = [⟨listing user, reply⟩] := by
  cases rereads with
  | unknown => exact Or.inl rfl
  | listed one => exact Or.inr ⟨_, _, one, rfl⟩
  | unread one => exact Or.inr ⟨_, _, one, rfl⟩
  | unsent => exact Or.inl rfl

theorem behaves_reread {past : List Exchange} {entered : Session}
    {post : Outcome (Option TimeEntry) → List Exchange → Session → Session → Prop}
    (here : Hears first entry past entered session)
    (ended : ∀ outcome more entered' session', Rereads first.user outcome more →
      Hears first entry (past ++ more) entered' session' →
        post outcome (past ++ more) entered' session') :
    refreshRunningTimer.Behaves (Lone first.user entry) (Steady first entry) (Hears first entry)
      post past entered session := by
  have atOnce (outcome : Outcome (Option TimeEntry)) (rereads : Rereads first.user outcome []) :
      post outcome past entered session := by
    have alone := ended outcome [] entered session rereads
    rw [List.append_nil] at alone
    exact alone here
  apply behaves_refreshRunningTimer here
  · intro user known past index reply page resumed lone read goesOn
    rw [here.2.user] at known
    exact absurd (lone user known index rfl page read).1 goesOn
  · intro unknown
    rw [here.2.user] at unknown
    exact atOnce _ (.unknown unknown)
  · intro offline outcome breaks
    exact atOnce outcome (.unsent breaks)
  · intro user exchanges outcome entered' session' known gives lone resumed
    rw [here.2.user] at known
    generalize session.client.pageBudget = budget at gives
    cases gives with
    | last read ends =>
      rename_i reply page
      rcases resumed with ⟨nothing, -⟩ | ⟨-, rfl, steady⟩
      · cases nothing
      · apply ended _ _ _ _ (.listed known read)
        constructor
        · rw [hear_snoc]
          exact (heard_listing read).symm
        · refine ⟨steady.client, steady.user, ?_⟩
          intro left atFront
          have only := lone ⟨listing user, reply⟩ List.mem_cons_self user known 0 rfl page read
          rw [only.2 left (List.mem_of_mem_head? atFront)]
    | more read goesOn others =>
      have only := lone _ List.mem_cons_self user known 0 rfl _ read
      exact absurd only.1 goesOn
    | unread failed =>
      rename_i reply fault
      have noPage (page : Page TimeEntry) :
          readAs Page.entries "time entry" reply ≠ .returned page := by
        intro read
        rw [show readAs Page.entries "time entry" reply = .failed fault from failed] at read
        cases read
      rcases resumed with ⟨nothing, -⟩ | ⟨-, rfl, steady⟩
      · cases nothing
      · have rereads : Rereads first.user (.failed fault) [⟨listing user, reply⟩] :=
          .unread known noPage trivial
        apply ended _ _ _ _ rereads
        constructor
        · rw [hear_snoc]
          exact (heard_unread noPage).symm
        · exact steady
    | spent =>
      rcases resumed with ⟨-, rfl, rfl⟩ | ⟨something, -⟩
      · rw [List.append_nil]
        exact atOnce _ (.unsent trivial)
      · exact absurd rfl something

/-- What each of the two comes to: a poll refreshes the timer at most, and a stop that was confirmed
refreshes it behind that. -/
def Party.Reaches (first : Session) (entry : TimeEntry) :
    ∀ party : Party, Outcome party.Value → List Exchange → Prop
  | poll, _, past => ∃ outcome, Rereads first.user outcome past
  | stop, outcome, past => ∀ stopped, outcome = .returned (some stopped) →
    ∃ reply more timer, past = ⟨Client.changing entry.id "stop", reply⟩ :: more ∧
      readAs TimeEntry.ofJson "time entry" reply = .returned stopped ∧
      Rereads first.user (.returned timer) more

theorem hears_nil (steady : Steady first entry session) :
    Hears first entry [] session session := ⟨rfl, steady⟩

theorem abides_poll : Party.poll.program.Abides (Lone first.user entry) (Steady first entry)
    (Hears first entry) (Party.poll.Reaches first entry) := by
  intro session steady
  change pollOnce.Behaves _ _ _ _ _ _ _
  rw [pollOnce, bind_eq, behaves_bind, behaves_attempt]
  apply behaves_reread (hears_nil steady)
  intro outcome more entered session rereads hears
  have done : Hears first entry more entered session ∧ ∃ outcome, Rereads first.user outcome more :=
    ⟨hears, outcome, rereads⟩
  cases outcome with
  | returned timer => exact done
  | spent => exact done
  | failed fault =>
    dsimp only [behavesAttempt, behavesThen]
    split <;> exact behaves_say.mpr done

theorem abides_stop : Party.stop.program.Abides (Lone first.user entry) (Steady first entry)
    (Hears first entry) (Party.stop.Reaches first entry) := by
  intro session steady
  change stopTimer.Behaves _ _ _ _ _ _ _
  rw [stopTimer_eq, behaves_bind, behaves_get]
  dsimp only [behavesThen]
  split
  · refine ⟨hears_nil steady, ?_⟩
    rintro other ⟨⟩
  · rename_i timer running
    rw [behaves_bind, steady.timer timer running]
    apply asks_changeEntry
    split
    · refine ⟨hears_nil steady, ?_⟩
      intro reply lone resumed steady
      have unchanged : heard ⟨Client.changing entry.id "stop", reply⟩ resumed = resumed :=
        heard_changing
      have here : Hears first entry [⟨Client.changing entry.id "stop", reply⟩] resumed resumed :=
        ⟨unchanged.symm, steady⟩
      cases read : readAs TimeEntry.ofJson "time entry" reply with
      | failed fault =>
        refine ⟨here, ?_⟩
        rintro other ⟨⟩
      | spent =>
        refine ⟨here, ?_⟩
        rintro other ⟨⟩
      | returned stopped =>
        dsimp only [behavesThen]
        rw [announced, say_text]
        change (refreshRunningTimer.bind fun _ => done (some stopped)).Behaves _ _ _ _ _ _ _
        rw [behaves_bind]
        apply behaves_reread here
        intro outcome more entered session rereads hears
        cases outcome with
        | failed fault =>
          refine ⟨hears, ?_⟩
          rintro other ⟨⟩
        | spent =>
          refine ⟨hears, ?_⟩
          rintro other ⟨⟩
        | returned timer =>
          refine ⟨hears, ?_⟩
          intro other same
          cases same
          exact ⟨reply, more, timer, rfl, read, rereads⟩
    · refine ⟨hears_nil steady, ?_⟩
      rintro other ⟨⟩

/-- The session is what it was told of the running timer, as the replies were delivered. -/
theorem state_of_evolves {labels : List (Label Party)}
    (evolves : Evolves (fun _ => Hears first entry) first labels session) :
    session = told (delivered labels) first := by
  induction evolves with
  | start => rfl
  | begun evolves acts ih =>
    rw [delivered_snoc, acts.1, ih]
    exact congrArg (told · _) (List.append_nil _).symm
  | handled evolves ih =>
    rw [delivered_snoc, ih]
    exact congrArg (told · _) (List.append_nil _).symm
  | delivered evolves acts ih =>
    rw [delivered_snoc, acts.1, hear_snoc, ih]
    exact told_snoc.symm

theorem relies_subsides {user : Int} (ofUser : ∀ id, first.user = some id → id = user) :
    Relies (Ledger.Subsides user) (Ledger.RunsOnly entry) (Lone first.user entry)
      (Steady first entry) (fun _ : Party => Hears first entry) := by
  constructor
  · intro ledger exchange ledger' only subsides
    refine ⟨?_, only.of_subperm subsides.fewer⟩
    obtain ⟨request, reply⟩ := exchange
    intro id known index asked page read
    obtain rfl := ofUser id known
    dsimp only at asked
    subst asked
    obtain ⟨ends, items, -⟩ := Ledger.Truthful.runningPage only (subsides.of_get rfl).2 read
    exact ⟨ends, items⟩
  · intro party past entered session steady hears
    exact hears.2

end Behaves

/-- Whether a poll that was answered was handled before the stop, and delivered behind all that the
stop heard. -/
def Overtaken (labels : List (Label Party)) : Prop :=
  ∃ polled page, readAs Page.entries "time entry" polled.reply = .returned page ∧
    (∃ front back, handled labels = front ++ (.poll, polled) :: back ∧ own .stop front = []) ∧
    ∃ front back, delivered labels = front ++ (.poll, polled) :: back ∧ own .stop back = []

section Ends

variable {user : Int} {entry stopped : TimeEntry} {ledger last : Ledger} {session : Session}
  {exchanges : List (Party × Exchange)} {more : List Exchange} {polled refreshed : Reply}
  {page : Page TimeEntry} {reply : Reply}

theorem told_of_unheard (unheard : ∀ party, ∀ exchange ∈ own party exchanges,
      ∀ session, heard exchange session = session) : told exchanges session = session := by
  induction exchanges with
  | nil => rfl
  | cons first exchanges ih =>
    obtain ⟨party, exchange⟩ := first
    have same : heard exchange session = session :=
      unheard party exchange (mem_own.mpr List.mem_cons_self) session
    change told exchanges (heard exchange session) = session
    rw [same]
    apply ih
    intro other later member
    exact unheard other later (mem_own.mpr (List.mem_cons_of_mem _ (mem_own.mp member)))

/-- Nothing runs behind a confirmed stop. -/
theorem running_behind_stop (only : Ledger.RunsOnly entry ledger)
    (handles : Handles (Ledger.Subsides user) ledger (exchanges.map (·.2)) last)
    (stops : own .stop exchanges = ⟨Client.changing entry.id "stop", reply⟩ :: more)
    (confirmed : readAs TimeEntry.ofJson "time entry" reply = .returned stopped) :
    last.running = [] := by
  obtain ⟨front, later, rfl, -, -⟩ := split_of_own stops
  rw [List.map_append, List.map_cons] at handles
  obtain ⟨before, earlier, stop, stops, behind⟩ := handles_append.mp handles
  have idle := Ledger.running_of_stopped (only.of_subperm (Ledger.fewer_of_handles earlier)) stops
    confirmed
  have fewer := Ledger.fewer_of_handles behind
  rw [idle, List.subperm_nil] at fewer
  exact fewer

/-- What a stop lists for itself is listed behind the stop. -/
theorem items_of_refreshed (only : Ledger.RunsOnly entry ledger)
    (handles : Handles (Ledger.Subsides user) ledger (exchanges.map (·.2)) last)
    (stops : own .stop exchanges =
      [⟨Client.changing entry.id "stop", reply⟩, ⟨listing user, refreshed⟩])
    (confirmed : readAs TimeEntry.ofJson "time entry" reply = .returned stopped)
    (read : readAs Page.entries "time entry" refreshed = .returned page) : page.items = [] := by
  obtain ⟨front, later, rfl, -, rest⟩ := split_of_own stops
  obtain ⟨between, behind, rfl, -, -⟩ := split_of_own rest
  simp only [List.map_append, List.map_cons] at handles
  exact Ledger.items_behind_stop only handles confirmed read

/-- What a poll lists depends on whether the stop was handled before it. -/
theorem items_of_polled {front behind : List (Party × Exchange)}
    (one : ledger.running = [entry])
    (handles : Handles (Ledger.Subsides user) ledger
      ((front ++ (.poll, ⟨listing user, polled⟩) :: behind).map (·.2)) last)
    (alone : own .poll front = [])
    (stops : own .stop (front ++ (.poll, ⟨listing user, polled⟩) :: behind) =
      ⟨Client.changing entry.id "stop", reply⟩ :: more)
    (confirmed : readAs TimeEntry.ofJson "time entry" reply = .returned stopped)
    (read : readAs Page.entries "time entry" polled = .returned page) :
    page.items.head? = none ↔ own .stop front ≠ [] := by
  rw [own_append] at stops
  cases before : own .stop front with
  | nil =>
    have nothing : front = [] := by
      apply eq_nil_of_own
      intro party
      cases party with
      | poll => exact alone
      | stop => exact before
    subst nothing
    obtain ⟨next, reads, -⟩ := handles
    have items := (Ledger.Truthful.runningPage (Or.inr one) (reads.of_get rfl).2 read).2.2 rfl
    rw [items, one]
    exact ⟨nofun, fun some_stop => absurd rfl some_stop⟩
  | cons first others =>
    rw [before] at stops
    obtain ⟨rfl, -⟩ := List.cons.inj stops
    obtain ⟨earlier, between, rfl, -, -⟩ := split_of_own before
    simp only [List.map_append, List.map_cons, List.append_assoc, List.cons_append] at handles
    rw [Ledger.items_behind_stop (Or.inr one) handles confirmed read]
    exact ⟨fun _ => List.cons_ne_nil _ _, fun _ => rfl⟩

/-- A session that heard of the listing behind a stop last knows of no timer. -/
theorem timer_of_refreshed {init : List Exchange} (alone : own .poll exchanges = [])
    (stops : own .stop exchanges = init ++ [⟨listing user, refreshed⟩])
    (read : readAs Page.entries "time entry" refreshed = .returned page)
    (empty : page.items = []) : (told exchanges session).runningTimer = none := by
  have others (party : Party) (other : party ≠ .stop) : own party exchanges = [] := by
    cases party with
    | poll => exact alone
    | stop => exact absurd rfl other
  obtain ⟨front, rfl⟩ := last_of_own others stops
  rw [told_snoc, heard_listing read, empty]
  rfl

/-- The timer of a session that heard of a poll too. It is the polled one when the poll was heard of
last. -/
theorem timer_of_polled {front back : List (Party × Exchange)} {init : List Exchange}
    {atStop : Page TimeEntry} (alone : own .poll front = []) (alone' : own .poll back = [])
    (stops : own .stop (front ++ (.poll, ⟨listing user, polled⟩) :: back) =
      init ++ [⟨listing user, refreshed⟩])
    (read : readAs Page.entries "time entry" refreshed = .returned atStop)
    (empty : atStop.items = []) :
    (told (front ++ (.poll, ⟨listing user, polled⟩) :: back) session).runningTimer = none ↔
      ∀ page, readAs Page.entries "time entry" polled = .returned page → own .stop back = [] →
        page.items.head? = none := by
  have different : Party.poll ≠ .stop := nofun
  rw [own_append, own_cons_other different] at stops
  rcases List.eq_nil_or_concat (own .stop back) with last | ⟨others, ending, stillStops⟩
  · have nothing : back = [] := by
      apply eq_nil_of_own
      intro party
      cases party with
      | poll => exact alone'
      | stop => exact last
    subst nothing
    rw [last, List.append_nil] at stops
    have before : (told front session).runningTimer = none :=
      timer_of_refreshed alone stops read empty
    rw [told_snoc]
    cases answered : readAs Page.entries "time entry" polled with
    | returned page =>
      rw [heard_listing answered]
      constructor
      · intro none other same _
        cases same
        exact none
      · intro polled
        exact polled page rfl rfl
    | failed fault =>
      rw [heard_unread (by rw [answered]; nofun), before]
      exact ⟨fun _ => nofun, fun _ => rfl⟩
    | spent => exact absurd answered (readAs_ne_spent polled)
  · rw [List.concat_eq_append] at stillStops
    rw [stillStops, ← List.append_assoc] at stops
    obtain ⟨-, rfl⟩ := snoc_inj stops
    have after : (told back (told (front ++ [(.poll, ⟨listing user, polled⟩)])
        session)).runningTimer = none := timer_of_refreshed alone' stillStops read empty
    rw [List.append_cons, told_append]
    refine ⟨fun _ page _ nothing => ?_, fun _ => after⟩
    rw [nothing] at stillStops
    simp at stillStops

theorem overtaken_iff {labels : List (Label Party)} {poll : Exchange}
    {front back front' back' : List (Party × Exchange)}
    (handled_eq : handled labels = front ++ (.poll, poll) :: back)
    (delivered_eq : delivered labels = front' ++ (.poll, poll) :: back')
    (alone : own .poll front = []) (alone' : own .poll front' = [])
    (single : own .poll (handled labels) = [poll])
    (single' : own .poll (delivered labels) = [poll]) :
    Overtaken labels ↔ (∃ page, readAs Page.entries "time entry" poll.reply = .returned page) ∧
      own .stop front = [] ∧ own .stop back' = [] := by
  constructor
  · intro ⟨polled, page, read, ⟨first, others, split, before⟩, first', others', split', behind⟩
    rw [split] at single handled_eq
    rw [split'] at single' delivered_eq
    obtain ⟨apart, rfl, -⟩ := own_of_single single
    obtain ⟨apart', -, -⟩ := own_of_single single'
    obtain ⟨rfl, -, rfl⟩ := split_unique (fun exchange => exchange.1 = .poll)
      (own_eq_nil_iff.mp apart) (own_eq_nil_iff.mp alone) rfl rfl handled_eq
    obtain ⟨rfl, -, rfl⟩ := split_unique (fun exchange => exchange.1 = .poll)
      (own_eq_nil_iff.mp apart') (own_eq_nil_iff.mp alone') rfl rfl delivered_eq
    exact ⟨⟨page, read⟩, before, behind⟩
  · intro ⟨⟨page, read⟩, before, behind⟩
    exact ⟨poll, page, read, ⟨front, back, handled_eq, before⟩, front', back', delivered_eq, behind⟩

/-- What is left of the timer behind a poll and a stop that asked for its own listing. -/
theorem timer_iff_not_overtaken {labels : List (Label Party)} (one : ledger.running = [entry])
    (handles : Handles (Ledger.Subsides user) ledger ((handled labels).map (·.2)) last)
    (samePolls : own .poll (handled labels) = own .poll (delivered labels))
    (sameStops : own .stop (handled labels) = own .stop (delivered labels))
    (polls : own .poll (handled labels) = [] ∨
      ∃ polled, own .poll (handled labels) = [⟨listing user, polled⟩])
    (stops : own .stop (handled labels) =
      [⟨Client.changing entry.id "stop", reply⟩, ⟨listing user, refreshed⟩])
    (confirmed : readAs TimeEntry.ofJson "time entry" reply = .returned stopped)
    (read : readAs Page.entries "time entry" refreshed = .returned page) :
    (told (delivered labels) session).runningTimer = none ↔ ¬ Overtaken labels := by
  have empty := items_of_refreshed (Or.inr one) handles stops confirmed read
  have heardStops : own .stop (delivered labels) =
      [⟨Client.changing entry.id "stop", reply⟩] ++ [⟨listing user, refreshed⟩] := by
    rw [← sameStops, stops]
    rfl
  rcases polls with silent | ⟨polled, single⟩
  · constructor
    · intro idle ⟨other, _, _, ⟨front, back, split, _⟩, _⟩
      have member : other ∈ own .poll (handled labels) := by
        rw [mem_own, split]
        exact List.mem_append_right _ List.mem_cons_self
      rw [silent] at member
      cases member
    · intro inOrder
      exact timer_of_refreshed (samePolls ▸ silent) heardStops read empty
  · obtain ⟨front, back, handled_eq, alone, -⟩ := split_of_own single
    obtain ⟨front', back', delivered_eq, alone', apart'⟩ := split_of_own (samePolls ▸ single)
    rw [overtaken_iff handled_eq delivered_eq alone alone' single (samePolls ▸ single)]
    rw [handled_eq] at handles stops
    rw [delivered_eq] at heardStops ⊢
    rw [timer_of_polled alone' apart' heardStops read empty]
    constructor
    · intro idle ⟨⟨polledPage, answered⟩, before, behind⟩
      have nothing := idle polledPage answered behind
      exact (items_of_polled one handles alone stops confirmed answered).mp nothing before
    · intro inOrder polledPage answered behind
      apply (items_of_polled one handles alone stops confirmed answered).mpr
      intro before
      exact inOrder ⟨⟨polledPage, answered⟩, before, behind⟩

/-- Without a user neither a poll nor a stop hears of the timer. -/
theorem told_of_unknown {outcome : Outcome (Option TimeEntry)} (nobody : session.user = none)
    (polls : Rereads session.user outcome (own .poll exchanges))
    (stops : own .stop exchanges = [⟨Client.changing entry.id "stop", reply⟩]) :
    told exchanges session = session := by
  apply told_of_unheard
  intro party exchange member session'
  cases party with
  | poll =>
    rcases polls.exchanges with silent | ⟨id, polled, known, -⟩
    · rw [silent] at member
      cases member
    · rw [nobody] at known
      cases known
  | stop =>
    rw [stops, List.mem_singleton] at member
    rw [member]
    exact heard_changing

/-- What is left of the timer behind a poll and a confirmed stop. -/
theorem timer_iff_of_rereads {labels : List (Label Party)} {outcome : Outcome (Option TimeEntry)}
    {running : Option TimeEntry} (ofUser : ∀ id, session.user = some id → id = user)
    (stored : session.runningTimer ≠ none) (one : ledger.running = [entry])
    (handles : Handles (Ledger.Subsides user) ledger ((handled labels).map (·.2)) last)
    (samePolls : own .poll (handled labels) = own .poll (delivered labels))
    (sameStops : own .stop (handled labels) = own .stop (delivered labels))
    (polls : Rereads session.user outcome (own .poll (handled labels)))
    (stops : own .stop (handled labels) = ⟨Client.changing entry.id "stop", reply⟩ :: more)
    (confirmed : readAs TimeEntry.ofJson "time entry" reply = .returned stopped)
    (rereads : Rereads session.user (.returned running) more) :
    (told (delivered labels) session).runningTimer = none ↔
      session.user ≠ none ∧ ¬ Overtaken labels := by
  cases rereads with
  | unknown nobody =>
    rw [told_of_unknown nobody (samePolls ▸ polls) (sameStops ▸ stops)]
    exact ⟨fun idle => absurd idle stored, fun known => absurd nobody known.1⟩
  | listed known read =>
    rename_i id refreshed page
    rw [ofUser id known] at stops
    have polledAtMost : own .poll (handled labels) = [] ∨
        ∃ polled, own .poll (handled labels) = [⟨listing user, polled⟩] := by
      rcases polls.exchanges with silent | ⟨other, polled, known, single⟩
      · exact Or.inl silent
      · rw [ofUser other known] at single
        exact Or.inr ⟨polled, single⟩
    have someone : session.user ≠ none := by
      rw [known]
      nofun
    rw [timer_iff_not_overtaken one handles samePolls sameStops polledAtMost stops confirmed read]
    exact ⟨fun inOrder => ⟨someone, inOrder⟩, fun both => both.2⟩
  | unread _ _ breaks => exact breaks.elim
  | unsent breaks => exact breaks.elim

end Ends

/-- Once a poll, whatever it came to, and a stop that was confirmed have ended, however they
overlapped, nothing runs at the service; and a session that held the only running timer knows of
none, and says so, just when the user was known and the poll did not overtake the stop. A timer that
it still knows of is the one that was stopped. -/
theorem idle_iff_not_overtaken (session : Session) (user : Int) (entry timer : TimeEntry)
    (ledger : Ledger) (ofUser : ∀ id, session.user = some id → id = user)
    (stored : session.runningTimer = some timer) (same : timer.id = entry.id)
    (only : ledger.running = [entry]) {labels : List (Label Party)}
    {world : World Session Ledger Party.Value}
    (interleaves : Interleaves (Ledger.Subsides user) (.start session ledger Party.program) labels
      world)
    {outcome : Outcome Unit} {stopped : TimeEntry}
    (polled : world.tasks .poll = .ended outcome)
    (confirmed : world.tasks .stop = .ended (.returned (some stopped))) :
    world.server.running = [] ∧
    (world.state.runningTimer = none ∧
        world.state.statusText = "Harvest: No timer running".text ↔
      session.user ≠ none ∧ ¬ Overtaken labels) ∧
    ∀ left, world.state.runningTimer = some left → left.id = entry.id ∧
      world.state.statusText ≠ "Harvest: No timer running".text := by
  have steady : Steady session entry session := by
    refine ⟨rfl, rfl, ?_⟩
    intro left holds
    rw [stored] at holds
    cases holds
    exact same
  have abide (party : Party) : party.program.Abides (Lone session.user entry)
      (Steady session entry) (Hears session entry) (party.Reaches session entry) := by
    cases party with
    | poll => exact abides_poll
    | stop => exact abides_stop
  have sound := interleaves.sound (relies_subsides ofUser) abide steady (Or.inr only)
  have pollStands := sound.stands .poll
  have stopStands := sound.stands .stop
  rw [polled] at pollStands
  rw [confirmed] at stopStands
  obtain ⟨samePolls, reread, polls⟩ := pollStands.of_ended
  obtain ⟨sameStops, reached⟩ := stopStands.of_ended
  obtain ⟨reply, more, running, stops, read, rereads⟩ := reached stopped rfl
  have known : session.runningTimer ≠ none := by
    rw [stored]
    nofun
  have idle := timer_iff_of_rereads ofUser known only sound.handles samePolls sameStops polls stops
    read rereads
  rw [← state_of_evolves sound.evolves] at idle
  refine ⟨running_behind_stop (Or.inr only) sound.handles stops read, ?_, ?_⟩
  · rw [statusText_idle_iff, and_self]
    exact idle
  · intro left holds
    refine ⟨sound.stateHolds.timer left holds, ?_⟩
    rw [Ne, statusText_idle_iff, holds]
    nofun

/-- Whether a ledger of one page can go over to another one while nothing is started. A stop is told
by its path. -/
def subsidesTo (user : Int) (entries : List TimeEntry) (exchange : Exchange)
    (entries' : List TimeEntry) : Bool :=
  let runningThen := entries'.filter (·.isRunning)
  if exchange.request.method = "GET".text then
    Ledger.tells user entries exchange && entries' = entries
  else
    runningThen.isSublist (entries.filter (·.isRunning)) &&
      runningThen.all fun entry => exchange.request.path ≠ (Client.changing entry.id "stop").path

theorem subsides_of_subsidesTo (user : Int) (entries : List TimeEntry) (exchange : Exchange)
    (entries' : List TimeEntry) (goes : subsidesTo user entries exchange entries' = true) :
    Ledger.Subsides user (.onOnePage entries) exchange (.onOnePage entries') := by
  unfold subsidesTo at goes
  dsimp only at goes
  split at goes
  · rename_i method
    simp only [Bool.and_eq_true, decide_eq_true_eq] at goes
    rw [goes.2]
    exact .reads method (Ledger.truthful_of_tells goes.1)
  · rename_i method
    obtain ⟨fewer, others⟩ := Bool.and_eq_true_iff.mp goes
    refine .changes method (List.isSublist_iff_sublist.mp fewer).subperm ?_
    intro id asked stopped read entry running same
    have other := of_decide_eq_true (List.all_eq_true.mp others entry running)
    rw [asked, same] at other
    exact other rfl

def timedSession (user : Option Int) : Session :=
  { freshSession with user, runningTimer := some (tracked 1 true) }

def stopMoves : List (Move Party (List TimeEntry)) :=
  [.begin .stop, .handle .stop (repliesTracked "1" "false") [tracked 1 false], .deliver .stop]

def refreshMoves : List (Move Party (List TimeEntry)) :=
  [.handle .stop (repliesListing "") [tracked 1 false], .deliver .stop]

def pollMoves : List (Move Party (List TimeEntry)) :=
  [.begin .poll, .handle .poll (repliesListing (trackedBody "1" "true")) [tracked 1 true]]

/-- What is left of the timer behind moves, when both programs have ended and the stop was
confirmed. -/
def timerBehind (user : Option Int) (moves : List (Move Party (List TimeEntry))) :
    Option (Option Unit × Option (Option TimeEntry) × Option TimeEntry) :=
  ((World.start (timedSession user) [tracked 1 true] Party.program).moves? (subsidesTo 7)
    moves).map fun ended =>
      ((ended.2.tasks .poll).value?, (ended.2.tasks .stop).value?, ended.2.state.runningTimer)

theorem exists_timerBehind {user : Option Int} {moves : List (Move Party (List TimeEntry))}
    {timer : Option TimeEntry}
    (ended : timerBehind user moves = some (some (), some (some (tracked 1 false)), timer)) :
    ∃ (labels : List (Label Party)) (world : World Session Ledger Party.Value),
      Interleaves (Ledger.Subsides 7)
        (.start (timedSession user) (.onOnePage [tracked 1 true]) Party.program) labels world ∧
      world.tasks .poll = .ended (.returned ()) ∧
      world.tasks .stop = .ended (.returned (some (tracked 1 false))) ∧
      world.state.runningTimer = timer := by
  obtain ⟨⟨labels, world⟩, moved, shown⟩ := Option.map_eq_some_iff.mp ended
  obtain ⟨poll, rest⟩ := Prod.mk.inj shown
  obtain ⟨stop, left⟩ := Prod.mk.inj rest
  have interleaves := Interleaves.start.moves? (subsides_of_subsidesTo 7) moved
  exact ⟨_, world.map Ledger.onOnePage, interleaves, Task.ended_of_value? poll,
    Task.ended_of_value? stop, left⟩

/-- Whether a session knows of no timer, and says so, once a poll and a confirmed stop have ended,
however they overlapped. -/
def StaysStopped (user : Option Int) : Prop :=
  ∀ (labels : List (Label Party)) (world : World Session Ledger Party.Value),
    Interleaves (Ledger.Subsides 7)
      (.start (timedSession user) (.onOnePage [tracked 1 true]) Party.program) labels world →
    world.tasks .poll = .ended (.returned ()) →
    world.tasks .stop = .ended (.returned (some (tracked 1 false))) →
      world.state.runningTimer = none ∧
        world.state.statusText = "Harvest: No timer running".text

end Overlaps

/-- A timer is back behind a poll that overtook its stop, and stays behind a stop without a user. -/
theorem not_staysStopped : ¬ StaysStopped (some 7) ∧ ¬ StaysStopped none := by
  have overtaken : timerBehind (some 7)
      (pollMoves ++ stopMoves ++ refreshMoves ++ [.deliver .poll]) =
        some (some (), some (some (tracked 1 false)), some (tracked 1 true)) := by decide +kernel
  have unknown : timerBehind none (stopMoves ++ [.begin .poll]) =
      some (some (), some (some (tracked 1 false)), some (tracked 1 true)) := by decide +kernel
  constructor
  · intro stays
    obtain ⟨labels, world, interleaves, poll, stop, left⟩ := exists_timerBehind overtaken
    rw [(stays labels world interleaves poll stop).1] at left
    cases left
  · intro stays
    obtain ⟨labels, world, interleaves, poll, stop, left⟩ := exists_timerBehind unknown
    rw [(stays labels world interleaves poll stop).1] at left
    cases left

/-- A poll that is handled before a stop, and delivered before the listing behind it, does no
harm. -/
theorem polledInBetween_idle :
    ∃ (labels : List (Label Party)) (world : World Session Ledger Party.Value),
      Interleaves (Ledger.Subsides 7)
        (.start (timedSession (some 7)) (.onOnePage [tracked 1 true]) Party.program) labels world ∧
      world.tasks .poll = .ended (.returned ()) ∧
      world.tasks .stop = .ended (.returned (some (tracked 1 false))) ∧
      world.server.running = [] ∧ world.state.statusText = "Harvest: No timer running".text ∧
      ¬ Overtaken labels := by
  have ended : timerBehind (some 7)
      (pollMoves ++ stopMoves ++ [.deliver .poll] ++ refreshMoves) =
        some (some (), some (some (tracked 1 false)), none) := by decide +kernel
  obtain ⟨labels, world, interleaves, poll, stop, left⟩ := exists_timerBehind ended
  have ofUser : ∀ id, (timedSession (some 7)).user = some id → id = 7 := by
    intro id same
    cases same
    rfl
  obtain ⟨server, idle, -⟩ := idle_iff_not_overtaken (timedSession (some 7)) 7 (tracked 1 true)
    (tracked 1 true) (.onOnePage [tracked 1 true]) ofUser rfl rfl (by decide +kernel) interleaves
    poll stop
  have text := statusText_idle_iff.mpr left
  exact ⟨labels, world, interleaves, poll, stop, server, text, (idle.mp ⟨left, text⟩).2⟩

end Session
end TimeReports

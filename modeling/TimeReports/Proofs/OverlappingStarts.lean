import TimeReports.Proofs.Meanwhile

set_option autoImplicit false

namespace TimeReports

namespace Harvest.Ledger

variable [Console]

/-- Whether a reply is the success that its request asks for. -/
structure Answered (user : Int) (exchange : Exchange) : Prop where
  names : exchange.request = Client.readingUser →
    ∃ found, readAs User.ofJson "user" exchange.reply = .returned found ∧ found.id = user
  lists : exchange.request.readsEntries →
    ∃ page, readAs Page.entries "time entry" exchange.reply = .returned page
  tells : exchange.request.method ≠ "GET".text →
    ∃ entry, readAs TimeEntry.ofJson "time entry" exchange.reply = .returned entry

/-- What a request does at a service that does not fail. -/
inductive Fulfils (user : Int) : Ledger → Exchange → Ledger → Prop
  | reads {ledger : Ledger} {exchange : Exchange} (method : exchange.request.method = "GET".text)
    (answered : Answered user exchange) (truthful : ledger.Truthful user exchange) :
    Fulfils user ledger exchange ledger
  | creates {ledger ledger' : Ledger} {exchange : Exchange} {created : Int × Int × Date}
    (method : exchange.request.method = "POST".text) (answered : Answered user exchange)
    (path : exchange.request.path = "/v2/time_entries".text)
    (named : exchange.request.creation? = some created)
    (added : ledger'.slots.Perm (created :: ledger.slots)) : Fulfils user ledger exchange ledger'
  /-- A change of entries that leaves their projects, tasks and days alone. -/
  | changes {ledger ledger' : Ledger} {exchange : Exchange}
    (method : exchange.request.method = "PATCH".text) (answered : Answered user exchange)
    (same : ledger'.slots.Perm ledger.slots) : Fulfils user ledger exchange ledger'

section Exchanges

variable {user : Int} {first ledger ledger' last : Ledger} {exchange : Exchange}
  {exchanges listing : List Exchange} {project task : Int} {day : Date} {reply : Reply}

theorem Fulfils.answered (fulfils : Fulfils user ledger exchange ledger') :
    Answered user exchange := by
  cases fulfils with
  | reads _ answered => exact answered
  | creates _ answered => exact answered
  | changes _ answered => exact answered

theorem Fulfils.of_get (fulfils : Fulfils user ledger exchange ledger')
    (method : exchange.request.method = "GET".text) :
    ledger' = ledger ∧ ledger.Truthful user exchange := by
  cases fulfils with
  | reads _ _ truthful => exact ⟨rfl, truthful⟩
  | creates post =>
    rw [post] at method
    exact absurd method (by decide)
  | changes patch =>
    rw [patch] at method
    exact absurd method (by decide)

theorem Fulfils.of_creating
    (fulfils : Fulfils user ledger ⟨Client.creating project task day, reply⟩ ledger') :
    ledger'.slots.Perm ((project, task, day) :: ledger.slots) := by
  cases fulfils with
  | reads get => exact absurd get Client.method_creating
  | creates _ _ _ named added =>
    rw [creation?_creating] at named
    cases named
    exact added
  | changes patch => exact absurd patch (by change "POST".text ≠ "PATCH".text; decide)

theorem Fulfils.of_changing {id : Int} {change : String}
    (fulfils : Fulfils user ledger ⟨Client.changing id change, reply⟩ ledger') :
    ledger'.slots.Perm ledger.slots := by
  cases fulfils with
  | reads get => exact absurd get Client.method_changing
  | creates post => exact absurd post (by change "PATCH".text ≠ "POST".text; decide)
  | changes _ _ same => exact same

/-- What is read between two changes is read off one ledger. -/
theorem through_of_reads (reads : OnlyReads exchanges)
    (handles : Handles (Fulfils user) first exchanges last) :
    last = first ∧ ∀ exchange ∈ exchanges, first.Truthful user exchange := by
  induction exchanges generalizing first with
  | nil => exact ⟨handles.symm, nofun⟩
  | cons exchange exchanges ih =>
    obtain ⟨next, fulfils, others⟩ := handles
    obtain ⟨rfl, truthful⟩ := fulfils.of_get (reads exchange List.mem_cons_self)
    obtain ⟨same, rest⟩ := ih (List.forall_mem_cons.mp reads).2 others
    exact ⟨same, List.forall_mem_cons.mpr ⟨truthful, rest⟩⟩

/-- A listing at a service that does not fail does not fail. -/
theorem not_failed_of_answered {filters : List (Text × Json)} {budget number : Nat} {fault : Fault}
    (gives : (Source.entries filters).Gives budget number listing (.failed fault))
    (answered : ∀ exchange ∈ listing, Answered user exchange) : False := by
  obtain ⟨front, pages, unread, rfl, -, failed⟩ := gives.exists_unread
  have last := answered _ (List.mem_append_right _ (List.mem_singleton.mpr rfl))
  obtain ⟨page, read⟩ := last.lists Client.readsEntries_readingEntries
  rw [show readAs Page.entries "time entry" unread = .failed fault from failed] at read
  cases read

end Exchanges
end Harvest.Ledger

namespace Session

open Harvest Program

section Decisions

variable {user project task : Int} {today : Date} {ledger ledger' : Ledger} {budget : Nat}
  {listing : List Exchange} {entries : List TimeEntry} {reply : Reply}

def changeFor (project task : Int) (today : Date) (entries : List TimeEntry) : Request :=
  match entryFor? project task entries with
  | some existing => Client.changing existing.id "restart"
  | none => Client.creating project task today

/-- How many entries there are for a project, a task and a day. -/
def tally (project task : Int) (today : Date) (ledger : Ledger) : Nat :=
  ledger.slots.count (project, task, today)

theorem method_changeFor : (changeFor project task today entries).method =
    if entryFor? project task entries = none then "POST".text else "PATCH".text := by
  unfold changeFor
  cases entryFor? project task entries <;> rfl

theorem changeFor_ne_get : (changeFor project task today entries).method ≠ "GET".text := by
  rw [method_changeFor]
  split <;> decide

/-- A change adds an entry just when the listing showed none. -/
theorem tally_of_change [Console]
    (fulfils : Ledger.Fulfils user ledger ⟨changeFor project task today entries, reply⟩ ledger') :
    tally project task today ledger' = tally project task today ledger +
      if entryFor? project task entries = none then 1 else 0 := by
  unfold changeFor at fulfils
  unfold tally
  cases found : entryFor? project task entries with
  | none =>
    rw [found] at fulfils
    rw [fulfils.of_creating.count_eq, List.count_cons_self, if_pos rfl]
  | some existing =>
    rw [found] at fulfils
    rw [fulfils.of_changing.count_eq, if_neg nofun, Nat.add_zero]

/-- A listing that is read off one ledger shows an entry just when there is one. -/
theorem entryFor?_eq_none_iff [Console]
    (gives : (Source.range today today user).Gives budget 1 listing (.returned entries))
    (truthful : ∀ exchange ∈ listing, ledger.Truthful user exchange) :
    entryFor? project task entries = none ↔ tally project task today ledger = 0 := by
  unfold tally
  rw [List.count_eq_zero]
  constructor
  · intro absent
    apply Ledger.not_mem_slots gives truthful
    intro entry member both
    have other := List.find?_eq_none.mp absent entry member
    simp [both.1, both.2] at other
  · intro free
    cases found : entryFor? project task entries with
    | none => rfl
    | some entry =>
      have whole : entries = (ledger.pages (Ledger.onDays today today)).flatten :=
        Ledger.items_of_gives gives truthful
      have member := List.mem_of_find?_eq_some found
      have matched := List.find?_some found
      rw [whole, (ledger.listed _).mem_iff, List.mem_filter, Ledger.admits_onDays] at member
      obtain ⟨kept, notBefore, notBehind⟩ := member
      have onDay : entry.spentDate = today :=
        Date.eq_of_ordinal_eq (Nat.le_antisymm notBehind notBefore)
      obtain ⟨onProject, onTask⟩ : entry.project.id = project ∧ entry.task.id = task := by
        simpa using matched
      apply absurd _ free
      rw [← onProject, ← onTask, ← onDay]
      exact List.mem_map_of_mem kept

end Decisions

/-- One of two callers that start a timer. -/
inductive Caller where
  | one
  | another
  deriving DecidableEq

section Behaves

variable [Console] {client : Client} {user project task : Int} {today : Date} {session : Session}
  {past : List Exchange} {entered : Session}

/-- What a session upholds while timers are started: the client stays, and so does the user once it
is known. -/
structure Lasting (client : Client) (user : Int) (session : Session) : Prop where
  client : session.client = client
  user : ∀ id, session.user = some id → id = user

/-- What a start comes to, unless a listing has too many pages: reads, the change that the listing
of the day asks for, and reads behind it. -/
inductive StartsAs (client : Client) (user project task : Int) (today : Date) :
    Outcome TimeEntry → List Exchange → Prop
  | spent {past : List Exchange} : StartsAs client user project task today .spent past
  | started {lookup listing behind : List Exchange} {entries : List TimeEntry} {reply : Reply}
    {entry : TimeEntry} (asked : ∀ exchange ∈ lookup, exchange.request = Client.readingUser)
    (gives : (Source.range today today user).Gives client.pageBudget 1 listing
      (.returned entries)) (reads : OnlyReads behind) :
    StartsAs client user project task today (.returned entry)
      (lookup ++ listing ++ ⟨changeFor project task today entries, reply⟩ :: behind)

def Lasts (client : Client) (user : Int) (_ : List Exchange) (_ session : Session) : Prop :=
  Lasting client user session

theorem behaves_knownUser {post : Outcome Int → List Exchange → Session → Session → Prop}
    (lasting : Lasting client user session) (known : session.user.isSome)
    (ended : post (.returned user) past entered session) :
    knownUser.Behaves (Ledger.Answered user) (Lasting client user) (Lasts client user) post past
      entered session := by
  rw [knownUser, bind_eq, behaves_bind, behaves_get]
  dsimp only [behavesThen]
  cases found : session.user with
  | none =>
    rw [found] at known
    cases known
  | some id =>
    rw [← lasting.user id found] at ended
    exact ended

theorem behaves_ensureUser {post : Outcome Int → List Exchange → Session → Session → Prop}
    (lasting : Lasting client user session) (online : client.hasCredentials = true)
    (ended : ∀ lookup entered' session',
      (∀ exchange ∈ lookup, exchange.request = Client.readingUser) →
      Lasting client user session' → post (.returned user) (past ++ lookup) entered' session') :
    ensureUser.Behaves (Ledger.Answered user) (Lasting client user) (Lasts client user) post past
      entered session := by
  rw [ensureUser_eq, behaves_bind, behaves_get]
  dsimp only [behavesThen]
  split
  · rw [behaves_bind, refreshUser, bind_eq, behaves_bind, behaves_get]
    dsimp only [behavesThen]
    rw [bind_eq, behaves_bind, behaves_attempt, lasting.client]
    apply asks_currentUser
    rw [if_pos online]
    refine ⟨lasting, ?_⟩
    intro reply answered resumed lasting
    obtain ⟨found, read, same⟩ := answered.names rfl
    rw [read]
    have named : Lasting client user { resumed with user := some found.id } := by
      refine ⟨lasting.client, ?_⟩
      intro id known
      cases known
      exact same
    have whole := ended [⟨Client.readingUser, reply⟩] resumed { resumed with user := some found.id }
      (by simp) named
    exact behaves_knownUser named rfl whole
  · rename_i known
    have alone := ended [] entered session (List.forall_mem_nil _) lasting
    rw [List.append_nil] at alone
    apply behaves_knownUser lasting _ alone
    simpa [Option.isNone_iff_eq_none, Option.isSome_iff_ne_none] using known

theorem behaves_dayListing
    {post : Outcome (List TimeEntry) → List Exchange → Session → Session → Prop}
    (lasting : Lasting client user session) (online : client.hasCredentials = true)
    (ended : ∀ listing outcome entered' session',
      (Source.range today today user).Gives client.pageBudget 1 listing outcome →
      (∀ fault, outcome ≠ .failed fault) → Lasting client user session' →
        post outcome (past ++ listing) entered' session') :
    (client.entriesOn user today today).Behaves (Ledger.Answered user) (Lasting client user)
      (Lasts client user) post past entered session := by
  have asks (number : Nat) : Asks client.hasCredentials
      ((Source.range today today user).request number) (readAs Page.entries "time entry")
      (client.entryPage (Client.rangeFilters today today user) number : SessionProgram _) :=
    asks_entryPage client (Client.rangeFilters today today user) number
  rw [online] at asks
  rw [Client.entriesOn, behaves_recover]
  apply Source.behaves_pagesFrom (Source.range today today user) asks lasting
  · intro past index reply page resumed _ _ _ lasting
    exact lasting
  · intro listing outcome entered' session' gives answered resumed
    have calm : ∀ fault, outcome ≠ .failed fault := by
      intro fault failed
      subst failed
      exact Ledger.not_failed_of_answered gives answered
    have whole := ended listing outcome entered' session' gives calm (resumed.holds lasting)
    cases outcome with
    | returned entries => exact whole
    | spent => exact whole
    | failed fault => exact absurd rfl (calm fault)

theorem behaves_timerListing
    {post : Outcome (Option TimeEntry) → List Exchange → Session → Session → Prop}
    (lasting : Lasting client user session) (online : client.hasCredentials = true)
    (ended : ∀ listing outcome entered' session', OnlyReads listing →
      (∀ fault, outcome ≠ .failed fault) → Lasting client user session' →
        post outcome (past ++ listing) entered' session') :
    refreshRunningTimer.Behaves (Ledger.Answered user) (Lasting client user) (Lasts client user)
      post past entered session := by
  apply behaves_refreshRunningTimer lasting
  · intro user _ past index reply page resumed _ _ _ lasting
    exact lasting
  · intro unknown
    have calm (fault : Fault) : (.returned none : Outcome (Option TimeEntry)) ≠ .failed fault := by
      intro failed
      cases failed
    have alone := ended [] (.returned none) entered session (List.forall_mem_nil _) calm lasting
    rw [List.append_nil] at alone
    exact alone
  · intro offline
    rw [lasting.client, online] at offline
    cases offline
  · intro id listing outcome entered' session' known gives answered resumed
    have stillLasting := resumed.holds lasting
    cases outcome with
    | returned entries =>
      exact ended _ _ _ _ gives.onlyReads nofun ⟨stillLasting.client, stillLasting.user⟩
    | spent => exact ended _ _ _ _ gives.onlyReads nofun stillLasting
    | failed fault => exact (Ledger.not_failed_of_answered gives answered).elim

/-- A change that is asked for is made, and the timer is listed behind it. -/
theorem behaves_change {program : SessionProgram TimeEntry} {lookup listing : List Exchange}
    {entries : List TimeEntry} {line : String}
    (asks : Asks true (changeFor project task today entries)
      (readAs TimeEntry.ofJson "time entry") program)
    (asked : ∀ exchange ∈ lookup, exchange.request = Client.readingUser)
    (gives : (Source.range today today user).Gives client.pageBudget 1 listing
      (.returned entries)) (lasting : Lasting client user session)
    (online : client.hasCredentials = true) :
    (program.bind (announced line)).Behaves (Ledger.Answered user) (Lasting client user)
      (Lasts client user)
      (behavesEnd (Lasts client user) (StartsAs client user project task today))
      (lookup ++ listing) entered session := by
  rw [behaves_bind]
  apply asks
  rw [if_pos rfl]
  refine ⟨lasting, ?_⟩
  intro reply answered resumed lasting
  obtain ⟨entry, read⟩ := answered.tells changeFor_ne_get
  rw [read]
  dsimp only [behavesThen]
  rw [announced, say_text]
  change (refreshRunningTimer.bind fun _ => done entry).Behaves _ _ _ _ _ _ _
  rw [behaves_bind]
  apply behaves_timerListing lasting online
  intro behind outcome entered' session' reads succeeds lasting
  rw [List.append_assoc _ [_] behind]
  cases outcome with
  | returned timer => exact ⟨lasting, .started asked gives reads⟩
  | spent => exact ⟨lasting, .spent⟩
  | failed fault => exact absurd rfl (succeeds fault)

theorem abides_startTimer (online : client.hasCredentials = true) :
    (startTimer project task today).Abides (Ledger.Answered user) (Lasting client user)
      (Lasts client user) (StartsAs client user project task today) := by
  intro session lasting
  rw [startTimer_eq, behaves_bind]
  apply behaves_ensureUser lasting online
  intro lookup entered session asked lasting
  rw [List.nil_append]
  dsimp only [behavesThen]
  rw [startFor, behaves_bind, behaves_get]
  dsimp only [behavesThen]
  rw [lasting.client, behaves_bind]
  apply behaves_dayListing lasting online
  intro listing outcome entered session gives succeeds lasting
  cases outcome with
  | failed fault => exact absurd rfl (succeeds fault)
  | spent => exact ⟨lasting, .spent⟩
  | returned entries =>
    dsimp only [behavesThen]
    split
    · rename_i existing found
      have asks : Asks client.hasCredentials (Client.changing existing.id "restart")
          (readAs TimeEntry.ofJson "time entry")
          (client.changeEntry existing.id "restart" : SessionProgram _) :=
        asks_changeEntry client existing.id "restart"
      rw [online] at asks
      apply behaves_change _ asked gives lasting online
      rw [changeFor, found]
      exact asks
    · rename_i absent
      have asks : Asks client.hasCredentials (Client.creating project task today)
          (readAs TimeEntry.ofJson "time entry")
          (client.createEntry project task today : SessionProgram _) :=
        asks_createEntry client project task today
      rw [online] at asks
      apply behaves_change _ asked gives lasting online
      rw [changeFor, absent]
      exact asks

end Behaves

section Changes

variable {exchanges front between behind : List (Caller × Exchange)} {earlier later : Caller}
  {change change' : Exchange}

def alters (exchange : Exchange) : Bool := exchange.request.method ≠ "GET".text

theorem alters_eq_false_iff {exchange : Exchange} :
    alters exchange = false ↔ exchange.request.method = "GET".text := by
  simp [alters]

theorem filter_alters_of_onlyReads {reads : List Exchange} (onlyReads : OnlyReads reads) :
    reads.filter alters = [] := by
  apply List.filter_eq_nil_iff.mpr
  intro exchange member
  rw [alters_eq_false_iff.mpr (onlyReads exchange member)]
  exact Bool.false_ne_true

theorem onlyReads_own {caller : Caller} (reads : OnlyReads (exchanges.map (·.2))) :
    OnlyReads (own caller exchanges) := by
  intro exchange member
  exact reads exchange (List.mem_map_of_mem (mem_own.mp member))

/-- The two changes of two callers, each with one change among its exchanges, in their order. -/
theorem exists_order
    (single : ∀ caller, ∃ change, (own caller exchanges).filter alters = [change]) :
    ∃ earlier later change change', earlier ≠ later ∧
      exchanges.filter (fun exchange => alters exchange.2) =
        [(earlier, change), (later, change')] := by
  obtain ⟨first, one⟩ := single .one
  obtain ⟨second, another⟩ := single .another
  rw [← own_filter] at one another
  generalize exchanges.filter (fun exchange => alters exchange.2) = altering at one another
  obtain ⟨front, back, rfl, noneBefore, noneBehind⟩ := split_of_own one
  have different : Caller.one ≠ .another := nofun
  rw [own_append, own_cons_other different] at another
  have only (part : List (Caller × Exchange)) (none : own .one part = []) (caller : Caller)
      (other : caller ≠ .another) : own caller part = [] := by
    cases caller with
    | one => exact none
    | another => exact absurd rfl other
  have empty (part : List (Caller × Exchange)) (none : own .one part = [])
      (noneOther : own .another part = []) : part = [] := by
    apply eq_nil_of_own
    intro caller
    cases caller with
    | one => exact none
    | another => exact noneOther
  rcases List.append_eq_singleton_iff.mp another with ⟨before, rest⟩ | ⟨before, rest⟩
  · refine ⟨.one, .another, first, second, different, ?_⟩
    rw [empty front noneBefore before, eq_singleton_of_own (only back noneBehind) rest]
    rfl
  · refine ⟨.another, .one, second, first, different.symm, ?_⟩
    rw [eq_singleton_of_own (only front noneBefore) before, empty back noneBehind rest]
    rfl

/-- Exchanges around two changes. -/
theorem exists_split
    (order : exchanges.filter (fun exchange => alters exchange.2) =
      [(earlier, change), (later, change')]) :
    ∃ front between behind,
      exchanges = front ++ (earlier, change) :: (between ++ (later, change') :: behind) ∧
      OnlyReads (front.map (·.2)) ∧ OnlyReads (between.map (·.2)) ∧
      OnlyReads (behind.map (·.2)) := by
  have reads {part : List (Caller × Exchange)}
      (none : ∀ exchange ∈ part, ¬ alters exchange.2 = true) : OnlyReads (part.map (·.2)) := by
    intro exchange member
    obtain ⟨tagged, among, rfl⟩ := List.mem_map.mp member
    exact alters_eq_false_iff.mp (Bool.not_eq_true _ ▸ none tagged among)
  obtain ⟨front, others, rfl, before, -, rest⟩ := List.filter_eq_cons_iff.mp order
  obtain ⟨between, behind, rfl, amid, -, none⟩ := List.filter_eq_cons_iff.mp rest
  exact ⟨front, between, behind, rfl, reads before, reads amid,
    reads (List.filter_eq_nil_iff.mp none)⟩

/-- Before the first change its caller has done no more than read. -/
theorem own_before_change {reads tail : List Exchange} {made : Exchange}
    {others : List (Caller × Exchange)} (onlyReads : OnlyReads (front.map (·.2)))
    (altering : alters change = true) (onlyReads' : OnlyReads reads)
    (altering' : alters made = true)
    (made_eq : own earlier (front ++ (earlier, change) :: others) = reads ++ made :: tail) :
    own earlier front = reads ∧ change = made := by
  rw [own_append, own_cons_self] at made_eq
  have unaltering {part : List Exchange} (reads : OnlyReads part) :
      ∀ exchange ∈ part, ¬ alters exchange = true := by
    intro exchange member
    rw [alters_eq_false_iff.mpr (reads exchange member)]
    exact Bool.false_ne_true
  obtain ⟨same, made, -⟩ := split_unique (fun exchange => alters exchange = true)
    (unaltering (onlyReads_own onlyReads)) (unaltering onlyReads') altering altering' made_eq
  exact ⟨same, made⟩

end Changes

section Tallies

variable [Console] {client : Client} {user project task : Int} {today : Date} {first last : Ledger}
  {front between behind : List (Caller × Exchange)} {earlier later : Caller}
  {change change' : Exchange}

/-- The exchanges of a start that was answered: reads, with the listing of the day among them, and
then the change that it asks for. -/
structure Made (client : Client) (user project task : Int) (today : Date)
    (past reads : List Exchange) (entries : List TimeEntry) (made : Exchange) : Prop where
  split : ∃ tail, past = reads ++ made :: tail ∧ OnlyReads tail
  onlyReads : OnlyReads reads
  listed : ∃ listing, (Source.range today today user).Gives client.pageBudget 1 listing
    (.returned entries) ∧ (∀ exchange ∈ listing, exchange ∈ reads)
  asked : made.request = changeFor project task today entries

theorem StartsAs.exists_made {outcome : Outcome TimeEntry} {past : List Exchange}
    (starts : StartsAs client user project task today outcome past) (finished : outcome ≠ .spent) :
    (∃ entry, outcome = .returned entry) ∧
      ∃ reads entries made, Made client user project task today past reads entries made := by
  cases starts with
  | spent => exact absurd rfl finished
  | started asked gives reads =>
    rename_i lookup listing behind entries reply entry
    refine ⟨⟨entry, rfl⟩, lookup ++ listing, entries, _, ⟨behind, rfl, reads⟩, ?_, ?_, rfl⟩
    · intro exchange member
      rcases List.mem_append.mp member with among | among
      · exact onlyReads_of_lookup asked exchange among
      · exact gives.onlyReads exchange among
    · exact ⟨listing, gives, fun exchange member => List.mem_append_right _ member⟩

theorem Made.alters {past reads : List Exchange} {entries : List TimeEntry} {made : Exchange}
    (start : Made client user project task today past reads entries made) :
    alters made = true := by
  rw [Session.alters, start.asked]
  exact decide_eq_true changeFor_ne_get

theorem Made.filter_alters {past reads : List Exchange} {entries : List TimeEntry}
    {made : Exchange} (start : Made client user project task today past reads entries made) :
    past.filter Session.alters = [made] := by
  obtain ⟨tail, rfl, onlyReads⟩ := start.split
  rw [List.filter_append, List.filter_cons, if_pos start.alters,
    filter_alters_of_onlyReads start.onlyReads, filter_alters_of_onlyReads onlyReads]
  rfl

/-- A start that listed the day off one ledger adds an entry just when there was none. -/
theorem Made.tally {past reads : List Exchange} {entries : List TimeEntry} {made : Exchange}
    {seen ledger ledger' : Ledger}
    (start : Made client user project task today past reads entries made)
    (truthful : ∀ exchange ∈ reads, exchange.request.readsEntries → seen.Truthful user exchange)
    (fulfils : Ledger.Fulfils user ledger made ledger') :
    Session.tally project task today ledger' = Session.tally project task today ledger +
      if Session.tally project task today seen = 0 then 1 else 0 := by
  obtain ⟨listing, gives, among⟩ := start.listed
  have truthfulListing : ∀ exchange ∈ listing, seen.Truthful user exchange := by
    intro exchange member
    obtain ⟨number, asked⟩ := gives.request_of_mem exchange member
    apply truthful exchange (among exchange member)
    rw [asked]
    exact Client.readsEntries_readingEntries
  obtain ⟨request, reply⟩ := made
  obtain rfl := start.asked
  rw [tally_of_change fulfils]
  simp only [entryFor?_eq_none_iff gives truthfulListing]

/-- What a service goes through around two changes. -/
theorem exists_middle (onlyReads : OnlyReads (front.map (·.2)))
    (onlyReads' : OnlyReads (between.map (·.2))) (onlyReads'' : OnlyReads (behind.map (·.2)))
    (handles : Handles (Ledger.Fulfils user) first
      ((front ++ (earlier, change) :: (between ++ (later, change') :: behind)).map (·.2)) last) :
    ∃ middle, (∀ exchange ∈ front.map (·.2), first.Truthful user exchange) ∧
      Ledger.Fulfils user first change middle ∧
      (∀ exchange ∈ between.map (·.2), middle.Truthful user exchange) ∧
      Ledger.Fulfils user middle change' last := by
  simp only [List.map_append, List.map_cons] at handles
  obtain ⟨before, reads, middle, fulfils, rest⟩ := handles_append.mp handles
  obtain ⟨amid, reads', ending, fulfils', reads''⟩ := handles_append.mp rest
  obtain ⟨rfl, truthful⟩ := Ledger.through_of_reads onlyReads reads
  obtain ⟨rfl, truthful'⟩ := Ledger.through_of_reads onlyReads' reads'
  obtain ⟨rfl, -⟩ := Ledger.through_of_reads onlyReads'' reads''
  exact ⟨_, truthful, fulfils, truthful', fulfils'⟩

end Tallies

/-- How two starts of one timer overlapped, and what came of it. The exchanges that were handled are
reads but for two changes, one of each caller. There are two entries just when the second change
created one; there is one when the second caller listed the day behind the first change; and when it
listed the day before that, there is one only where there was one at first. -/
structure Overlap (project task : Int) (today : Date) (first last : Ledger)
    (earlier later : Caller) (front between behind : List (Caller × Exchange))
    (change change' : Exchange) : Prop where
  apart : earlier ≠ later
  onlyReads : OnlyReads (front.map (·.2)) ∧ OnlyReads (between.map (·.2)) ∧
    OnlyReads (behind.map (·.2))
  altering : alters change = true ∧ alters change' = true
  total : tally project task today last = if change'.request.method = "POST".text then 2 else 1
  renewed : (∀ exchange ∈ own later front, ¬ exchange.request.readsEntries) →
    tally project task today last = 1
  stale : (∀ exchange ∈ own later between, ¬ exchange.request.readsEntries) →
    tally project task today last = if tally project task today first = 0 then 2 else 1

section Overlaps

variable [Console] {client : Client} {user project task : Int} {today : Date} {first last : Ledger}
  {front between behind : List (Caller × Exchange)} {earlier later : Caller}
  {change change' : Exchange}

/-- What two starts listed decides what their changes come to. -/
theorem overlap_of_made {reads reads' : List Exchange} {entries entries' : List TimeEntry}
    {made made' : Exchange} (once : tally project task today first ≤ 1) (apart : earlier ≠ later)
    (onlyReads : OnlyReads (front.map (·.2))) (onlyReads' : OnlyReads (between.map (·.2)))
    (onlyReads'' : OnlyReads (behind.map (·.2))) (altering : alters change = true)
    (altering' : alters change' = true)
    (handles : Handles (Ledger.Fulfils user) first
      ((front ++ (earlier, change) :: (between ++ (later, change') :: behind)).map (·.2)) last)
    (start : Made client user project task today
      (own earlier (front ++ (earlier, change) :: (between ++ (later, change') :: behind))) reads
        entries made)
    (start' : Made client user project task today
      (own later (front ++ (earlier, change) :: (between ++ (later, change') :: behind))) reads'
        entries' made') :
    Overlap project task today first last earlier later front between behind change change' := by
  obtain ⟨tail, past, -⟩ := start.split
  obtain ⟨tail', past', -⟩ := start'.split
  obtain ⟨middle, truthful, fulfils, truthful', fulfils'⟩ :=
    exists_middle onlyReads onlyReads' onlyReads'' handles
  -- Seen by themselves, the exchanges of each caller are its reads and then its change.
  obtain ⟨rfl, rfl⟩ := own_before_change onlyReads altering start.onlyReads start.alters past
  have onlyBefore : OnlyReads ((front ++ between).map (·.2)) := by
    rw [List.map_append]
    exact List.forall_mem_append.mpr ⟨onlyReads, onlyReads'⟩
  rw [own_append, own_cons_other apart, ← own_append, ← List.append_assoc] at past'
  obtain ⟨rfl, rfl⟩ := own_before_change onlyBefore altering' start'.onlyReads start'.alters past'
  have tally_middle : tally project task today middle = 1 := by
    have added := start.tally
      (fun exchange member _ => truthful exchange (List.mem_map_of_mem (mem_own.mp member))) fulfils
    rw [added]
    split <;> omega
  have tally_last (seen : Ledger)
      (inFront : ∀ exchange ∈ own later front, exchange.request.readsEntries →
        seen.Truthful user exchange)
      (inBetween : ∀ exchange ∈ own later between, exchange.request.readsEntries →
        seen.Truthful user exchange) :
      tally project task today last =
        1 + if tally project task today seen = 0 then 1 else 0 := by
    have inBoth : ∀ exchange ∈ own later (front ++ between), exchange.request.readsEntries →
        seen.Truthful user exchange := by
      rw [own_append]
      exact List.forall_mem_append.mpr ⟨inFront, inBetween⟩
    rw [start'.tally inBoth fulfils', tally_middle]
  refine ⟨apart, ⟨onlyReads, onlyReads', onlyReads''⟩, ⟨altering, altering'⟩, ?_, ?_, ?_⟩
  · obtain ⟨request, reply⟩ := change'
    obtain rfl := start'.asked
    rw [tally_of_change fulfils', tally_middle, method_changeFor]
    cases entryFor? project task entries' with
    | none => rfl
    | some entry => rfl
  · intro unread
    rw [tally_last middle (fun exchange member reads => absurd reads (unread exchange member))
      fun exchange member _ => truthful' exchange (List.mem_map_of_mem (mem_own.mp member)),
      tally_middle]
    rfl
  · intro unread
    rw [tally_last first
      (fun exchange member _ => truthful exchange (List.mem_map_of_mem (mem_own.mp member)))
      fun exchange member reads => absurd reads (unread exchange member)]
    split <;> rfl

end Overlaps

theorem relies_fulfils [Console] {client : Client} {user : Int} :
    Relies (Ledger.Fulfils user) (fun _ => True) (Ledger.Answered user) (Lasting client user)
      (fun _ : Caller => Lasts client user) where
  served _ fulfils := ⟨fulfils.answered, trivial⟩
  kept _ lasting := lasting

/-- However two starts of one timer overlap at a service that does not fail, neither of them fails,
and a service that had at most one entry for the project, the task and the day has one or two: two
just when the second of the two changes creates an entry, which it does when the listing that it
rests on was handled before the first change and showed none. -/
theorem tally_of_overlappingStarts [Console] (session : Session) (user project task : Int)
    (today : Date) (first : Ledger) (online : session.client.hasCredentials = true)
    (ofUser : ∀ id, session.user = some id → id = user)
    (once : tally project task today first ≤ 1) {labels : List (Label Caller)}
    {world : World Session Ledger fun _ : Caller => TimeEntry}
    (interleaves : Interleaves (Ledger.Fulfils user)
      (.start session first fun _ => startTimer project task today) labels world)
    {outcomes : Caller → Outcome TimeEntry}
    (ended : ∀ caller, world.tasks caller = .ended (outcomes caller))
    (finished : ∀ caller, outcomes caller ≠ .spent) :
    (∀ caller, ∃ entry, outcomes caller = .returned entry) ∧
    ∃ earlier later front between behind change change',
      handled labels = front ++ (earlier, change) :: (between ++ (later, change') :: behind) ∧
      Overlap project task today first world.server earlier later front between behind change
        change' := by
  have sound := interleaves.sound relies_fulfils (fun _ => abides_startTimer online)
    ⟨rfl, ofUser⟩ trivial
  have starts (caller : Caller) : StartsAs session.client user project task today
      (outcomes caller) (own caller (handled labels)) := by
    have stands := sound.stands caller
    rw [ended caller] at stands
    exact stands.of_ended.2
  have made (caller : Caller) := (starts caller).exists_made (finished caller)
  refine ⟨fun caller => (made caller).1, ?_⟩
  have single (caller : Caller) :
      ∃ change, (own caller (handled labels)).filter alters = [change] := by
    obtain ⟨-, reads, entries, change, start⟩ := made caller
    exact ⟨change, start.filter_alters⟩
  obtain ⟨earlier, later, change, change', apart, order⟩ := exists_order single
  obtain ⟨front, between, behind, split, onlyReads, onlyReads', onlyReads''⟩ := exists_split order
  have altering : ∀ exchange ∈ [(earlier, change), (later, change')], alters exchange.2 = true := by
    intro exchange member
    rw [← order] at member
    exact (List.mem_filter.mp member).2
  have handles := sound.handles
  obtain ⟨-, reads, entries, madeChange, start⟩ := made earlier
  obtain ⟨-, reads', entries', madeChange', start'⟩ := made later
  rw [split] at handles start start'
  exact ⟨earlier, later, front, between, behind, change, change', split,
    overlap_of_made once apart onlyReads onlyReads' onlyReads''
      (altering (earlier, change) List.mem_cons_self)
      (altering (later, change') (List.mem_cons_of_mem _ List.mem_cons_self)) handles start start'⟩

section Runs

/-- Whether a program that reads a reply returns something. -/
def returns {α : Type} : Outcome α → Bool
  | .returned _ => true
  | _ => false

theorem exists_of_returns {α : Type} {outcome : Outcome α} (succeeds : returns outcome = true) :
    ∃ value, outcome = .returned value := by
  cases outcome with
  | returned value => exact ⟨value, rfl⟩
  | failed fault => cases succeeds
  | spent => cases succeeds

def knownSession : Session := { freshSession with user := some 7 }

/-- A caller's next request is handled with a reply, which is delivered at once. -/
def asked (caller : Caller) (reply : Reply) (entries : List TimeEntry) :
    List (Move Caller (List TimeEntry)) := [.handle caller reply entries, .deliver caller]

/-- A start that lists the day when there is nothing and creates an entry. -/
def firstMoves : List (Move Caller (List TimeEntry)) :=
  .begin .one :: asked .one (repliesListing "") [] ++
    asked .one (repliesTracked "1" "true") [tracked 1 true] ++
    asked .one (repliesListing (trackedBody "1" "true")) [tracked 1 true]

/-- Another start, whose listing is handled before the first one creates its entry. -/
def staleMoves : List (Move Caller (List TimeEntry)) :=
  .begin .another :: .handle .another (repliesListing "") [] :: firstMoves ++ [.deliver .another] ++
    asked .another (repliesTracked "2" "true") [tracked 2 true, tracked 1 false] ++
    asked .another (repliesListing (trackedBody "2" "true")) [tracked 2 true, tracked 1 false]

/-- Another start, which has begun before but whose listing is handled behind that. -/
def renewedMoves : List (Move Caller (List TimeEntry)) :=
  .begin .another :: firstMoves ++
    asked .another (repliesListing (trackedBody "1" "true")) [tracked 1 true] ++
    asked .another (repliesTracked "1" "true") [tracked 1 true] ++
    asked .another (repliesListing (trackedBody "1" "true")) [tracked 1 true]

section Deciding

variable [Console]

/-- Whether a reply is the success that its request asks for. The user is told by the path. -/
def answers (user : Int) (exchange : Exchange) : Bool :=
  (exchange.request.path ≠ "/v2/users/me".text ||
    match readAs User.ofJson "user" exchange.reply with
    | .returned found => found.id = user
    | _ => false) &&
  (¬ exchange.request.readsEntries || returns (readAs Page.entries "time entry" exchange.reply)) &&
  (exchange.request.method = "GET".text ||
    returns (readAs TimeEntry.ofJson "time entry" exchange.reply))

theorem answered_of_answers {user : Int} {exchange : Exchange}
    (success : answers user exchange = true) : Ledger.Answered user exchange := by
  obtain ⟨rest, told⟩ := Bool.and_eq_true_iff.mp success
  obtain ⟨named, listed⟩ := Bool.and_eq_true_iff.mp rest
  constructor
  · intro asked
    rw [asked] at named
    simp only [Client.path_user, ne_eq, not_true_eq_false, decide_false, Bool.false_or] at named
    split at named
    · rename_i found read
      exact ⟨found, read, of_decide_eq_true named⟩
    · cases named
  · intro reads
    simp only [reads, not_true_eq_false, decide_false, Bool.false_or] at listed
    exact exists_of_returns listed
  · intro writes
    simp only [writes, decide_false, Bool.false_or] at told
    exact exists_of_returns told

/-- Whether a ledger of one page can go over to another one at a service that does not fail. -/
def fulfilsTo (user : Int) (entries : List TimeEntry) (exchange : Exchange)
    (entries' : List TimeEntry) : Bool :=
  answers user exchange &&
  if exchange.request.method = "GET".text then
    Ledger.tells user entries exchange && entries' = entries
  else if exchange.request.method = "POST".text then
    exchange.request.path = "/v2/time_entries".text &&
      exchange.request.creation?.map (· :: entries.map slot) = some (entries'.map slot)
  else exchange.request.method = "PATCH".text && entries'.map slot = entries.map slot

theorem fulfils_of_fulfilsTo (user : Int) (entries : List TimeEntry) (exchange : Exchange)
    (entries' : List TimeEntry) (goes : fulfilsTo user entries exchange entries' = true) :
    Ledger.Fulfils user (.onOnePage entries) exchange (.onOnePage entries') := by
  obtain ⟨success, goes⟩ := Bool.and_eq_true_iff.mp goes
  have answered := answered_of_answers success
  split at goes
  · rename_i method
    simp only [Bool.and_eq_true, decide_eq_true_eq] at goes
    rw [goes.2]
    exact .reads method answered (Ledger.truthful_of_tells goes.1)
  · split at goes
    · rename_i method
      simp only [Bool.and_eq_true, decide_eq_true_eq] at goes
      obtain ⟨created, creation, slots⟩ := Option.map_eq_some_iff.mp goes.2
      have added : (Ledger.onOnePage entries').slots =
        created :: (Ledger.onOnePage entries).slots := slots.symm
      exact .creates method answered goes.1 creation (.of_eq added)
    · simp only [Bool.and_eq_true, decide_eq_true_eq] at goes
      have same : (Ledger.onOnePage entries').slots = (Ledger.onOnePage entries).slots := goes.2
      exact .changes goes.1 answered (.of_eq same)

def startsBehind (moves : List (Move Caller (List TimeEntry))) :
    Option (Option TimeEntry × Option TimeEntry × Nat) :=
  ((World.start knownSession [] fun _ : Caller =>
    startTimer 1 2 Execution.someDay).moves? (fulfilsTo 7) moves).map fun ended =>
      ((ended.2.tasks .one).value?, (ended.2.tasks .another).value?,
        tally 1 2 Execution.someDay (.onOnePage ended.2.server))

theorem exists_startsBehind {moves : List (Move Caller (List TimeEntry))}
    {one another : TimeEntry} {count : Nat}
    (ended : startsBehind moves = some (some one, some another, count)) :
    ∃ (labels : List (Label Caller)) (world : World Session Ledger fun _ : Caller => TimeEntry),
      Interleaves (Ledger.Fulfils 7)
        (.start knownSession (.onOnePage []) fun _ => startTimer 1 2 Execution.someDay) labels
        world ∧
      (∀ caller, ∃ entry, world.tasks caller = .ended (.returned entry)) ∧
      tally 1 2 Execution.someDay world.server = count := by
  obtain ⟨⟨labels, world⟩, moved, shown⟩ := Option.map_eq_some_iff.mp ended
  obtain ⟨first, rest⟩ := Prod.mk.inj shown
  obtain ⟨second, counted⟩ := Prod.mk.inj rest
  have interleaves := Interleaves.start.moves? (fulfils_of_fulfilsTo 7) moved
  refine ⟨_, world.map Ledger.onOnePage, interleaves, ?_, counted⟩
  intro caller
  cases caller with
  | one => exact ⟨one, Task.ended_of_value? first⟩
  | another => exact ⟨another, Task.ended_of_value? second⟩

end Deciding

/-- A start that lists the day before another one creates its entry makes a second entry. -/
theorem not_alwaysOne :
    ¬ ∀ (labels : List (Label Caller)) (world : World Session Ledger fun _ : Caller => TimeEntry),
      Interleaves (Ledger.Fulfils 7)
        (.start knownSession (.onOnePage []) fun _ => startTimer 1 2 Execution.someDay) labels
        world →
      (∀ caller, ∃ entry, world.tasks caller = .ended (.returned entry)) →
        tally 1 2 Execution.someDay world.server = 1 := by
  intro always
  have ended : startsBehind staleMoves =
      some (some (tracked 1 true), some (tracked 2 true), 2) := by decide +kernel
  obtain ⟨labels, world, interleaves, returned, count⟩ := exists_startsBehind ended
  rw [always labels world interleaves returned] at count
  cases count

/-- A start that has begun before another one, and lists the day behind its creation of an entry,
restarts that entry. -/
theorem renewedStart_one :
    ∃ (labels : List (Label Caller)) (world : World Session Ledger fun _ : Caller => TimeEntry),
      Interleaves (Ledger.Fulfils 7)
        (.start knownSession (.onOnePage []) fun _ => startTimer 1 2 Execution.someDay) labels
        world ∧
      tally 1 2 Execution.someDay world.server = 1 ∧
      ∃ earlier later front between behind change change',
        handled labels = front ++ (earlier, change) :: (between ++ (later, change') :: behind) ∧
        Overlap 1 2 Execution.someDay (.onOnePage []) world.server earlier later front between
          behind change change' := by
  have ended : startsBehind renewedMoves =
      some (some (tracked 1 true), some (tracked 1 true), 1) := by decide +kernel
  obtain ⟨labels, world, interleaves, returned, count⟩ := exists_startsBehind ended
  choose entries tasks using returned
  have ofUser : ∀ id, knownSession.user = some id → id = 7 := by
    intro id same
    cases same
    rfl
  have once : tally 1 2 Execution.someDay (.onOnePage []) ≤ 1 := by decide
  have finished (caller : Caller) : (.returned (entries caller) : Outcome TimeEntry) ≠ .spent :=
    nofun
  have overlap := (tally_of_overlappingStarts knownSession 7 1 2 Execution.someDay (.onOnePage [])
    (by decide) ofUser once interleaves tasks finished).2
  exact ⟨labels, world, interleaves, count, overlap⟩

end Runs
end Session
end TimeReports

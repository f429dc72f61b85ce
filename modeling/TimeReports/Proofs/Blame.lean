import TimeReports.Proofs.Budgets
import TimeReports.Proofs.Timers

set_option autoImplicit false

/- Which replies the end of an operation is to be blamed on. Replies are calm or not, and faults are
expected or not, in such a way that whoever reads a record off a reply that is not calm meets a
fault that is not expected. Then an operation that ends with a value has had calm replies only; and
one that ends with a fault has had them just when the fault is expected. So nothing that an
operation does in between hides such a reply, and nothing else makes it fail unexpectedly. -/
namespace TimeReports

namespace Harvest

variable {calm : Exchange → Prop} {expected : Fault → Prop} {past more : List Exchange}
  {exchange : Exchange}

def Undisturbed (calm : Exchange → Prop) (past : List Exchange) : Prop :=
  ∀ exchange ∈ past, calm exchange

theorem undisturbed_nil : Undisturbed calm [] := nofun

theorem undisturbed_append : Undisturbed calm (past ++ more) ↔
    Undisturbed calm past ∧ Undisturbed calm more :=
  List.forall_mem_append

theorem undisturbed_snoc (undisturbed : Undisturbed calm past) :
    Undisturbed calm (past ++ [exchange]) ↔ calm exchange := by
  rw [undisturbed_append, and_iff_right undisturbed]
  exact List.forall_mem_singleton

/-- A reply is ordinary, too deep, or no reply at all. -/
theorem Reply.cases_ordinary (reply : Reply) : reply.Ordinary ∨
    (∃ response container, reply = .answered response ∧
      Json.ofBytes response.body = .error (.tooDeep container)) ∨
    ∃ fault, reply = .broke fault := by
  cases reply with
  | timedOut => exact Or.inl trivial
  | unreachable message => exact Or.inl trivial
  | broke fault => exact Or.inr (Or.inr ⟨fault, rfl⟩)
  | answered response =>
    by_cases deep : ∃ container, Json.ofBytes response.body = .error (.tooDeep container)
    · obtain ⟨container, decoded⟩ := deep
      exact Or.inr (Or.inl ⟨response, container, rfl, decoded⟩)
    · exact Or.inl fun container decoded => deep ⟨container, decoded⟩

section Reporting

variable [Console]

/-- Faults that are expected, for exchanges that are calm. A lookup of the user meets a failure of
the service itself, by reporting it. -/
structure Blames (calm : Exchange → Prop) (expected : Fault → Prop) : Prop where
  reported : ∀ {fault failure}, fault.apiFailure? = some failure → expected fault
  returned : ∀ {α : Type} (reader : Record.Reader α) (what : String) {request : Request}
    {reply : Reply} {value : α}, request ≠ Client.readingUser →
      readAs reader what reply = .returned value → calm ⟨request, reply⟩
  failed : ∀ {α : Type} (reader : Record.Reader α) (what : String) {request : Request}
    {reply : Reply} {fault : Fault}, request ≠ Client.readingUser →
      readAs reader what reply = .failed fault → (expected fault ↔ calm ⟨request, reply⟩)
  decided : ∀ {reply : Reply} {user : Option Int}, Session.lookedUp reply = .returned user →
    calm ⟨Client.readingUser, reply⟩
  undecided : ∀ {reply : Reply} {fault : Fault}, Session.lookedUp reply = .failed fault →
    (expected fault ↔ calm ⟨Client.readingUser, reply⟩)

/-- Whether the console takes what is said of a connection, if it failed. -/
def Reply.Taken (reply : Reply) : Prop :=
  ∀ message, reply = .unreachable message → Console.Takes (connectionFailedLine message)

/-- The fault that a reply without a record gives, by the kind of reply. -/
inductive Faulted : Reply → Fault → Prop
  | reported {reply : Reply} {failure : ApiFailure} (ordinary : reply.Ordinary)
    (taken : reply.Taken) : Faulted reply (.harvest failure)
  | silenced {reply : Reply} {found : Text.Unencodable} (silenced : Silenced reply found) :
    Faulted reply (.console found)
  | tooDeep {response : Response} {container : Json.Container}
    (decoded : Json.ofBytes response.body = .error (.tooDeep container)) :
    Faulted (.answered response) (.breakdown .depth (Json.depthMessage container))
  | broke {fault : Fault} : Faulted (.broke fault) fault

section Records

variable {α : Type} {reader : Record.Reader α} {what : String} {reply : Reply} {fault : Fault}

theorem readAs_of_tooDeep {response : Response} {container : Json.Container}
    (decoded : Json.ofBytes response.body = .error (.tooDeep container)) :
    readAs reader what (.answered response) =
      .failed (.breakdown .depth (Json.depthMessage container)) := by
  unfold readAs
  simp only [Client.received, Client.bodyOf, Client.valueOf, decoded]
  rfl

theorem readAs_broke : readAs reader what (.broke fault) = .failed fault := rfl

theorem not_taken_of_silenced {found : Text.Unencodable} (silenced : Silenced reply found) :
    ¬ reply.Taken := by
  obtain ⟨message, same, refused⟩ := silenced
  exact fun taken => Console.not_takes_of_refusal refused (taken message same)

theorem Reported.taken {failure : ApiFailure} (reported : Reported reader what reply failure) :
    reply.Taken := by
  rintro message rfl
  cases reported with
  | unreachable _ takes => exact takes

theorem faulted_of_readAs (failed : readAs reader what reply = .failed fault) :
    Faulted reply fault := by
  rcases reply.cases_ordinary with
    ordinary | ⟨response, container, rfl, decoded⟩ | ⟨inner, rfl⟩
  · rcases readAs_of_ordinary reader what ordinary with
      ⟨value, returned⟩ | ⟨failure, reported, refused⟩ | ⟨found, silenced, refused⟩
    · rw [returned] at failed
      cases failed
    · rw [refused] at failed
      cases failed
      exact .reported ordinary reported.taken
    · rw [refused] at failed
      cases failed
      exact .silenced silenced
  · rw [readAs_of_tooDeep decoded] at failed
    cases failed
    exact .tooDeep decoded
  · rw [readAs_broke] at failed
    cases failed
    exact .broke

/-- Only an answer holds a record. -/
theorem taken_of_readAs {value : α} (returned : readAs reader what reply = .returned value) :
    reply.Taken := by
  rintro message rfl
  cases refused : Console.refusal? (connectionFailedLine message) with
  | none => exact refused
  | some found => cases (readAs_unreachable_of_refusal refused).symm.trans returned

/-- A reply that holds a record is ordinary. -/
theorem ordinary_of_readAs {value : α} (returned : readAs reader what reply = .returned value) :
    reply.Ordinary := by
  rcases reply.cases_ordinary with
    ordinary | ⟨response, container, rfl, decoded⟩ | ⟨inner, rfl⟩
  · exact ordinary
  · rw [readAs_of_tooDeep decoded] at returned
    cases returned
  · rw [readAs_broke] at returned
    cases returned

end Records

end Reporting

/-- Whether there were replies for as many pages as a listing may have. -/
def Spends (budget : Nat) (past : List Exchange) : Prop :=
  ∃ pages : List Exchange, pages.Sublist past ∧ pages.length = budget ∧
    ∀ exchange ∈ pages, exchange.reply ≠ notFound

/-- Fewer replies than a listing may have pages are not enough for so many of them. -/
theorem not_spends {σ α : Type} {program : Program σ α} {state : σ} {replies : List Reply}
    {budget : Nat} (enough : replies.length < budget) :
    ¬ Spends budget (program.run state replies).exchanges := by
  rintro ⟨pages, among, length, heard⟩
  obtain ⟨missing, same⟩ := Program.replies_of_run program state replies
  have taken : (pages.map (·.reply)).Sublist (replies ++ List.replicate missing notFound) := by
    rw [← same]
    exact (among.map _).trans (List.sublist_append_left _ _)
  obtain ⟨given, absent, split, front, behind⟩ := List.sublist_append_iff.mp taken
  have none : absent = [] := by
    refine List.eq_nil_iff_forall_not_mem.mpr fun reply member => ?_
    have replied : reply ∈ pages.map (·.reply) := by
      rw [split]
      exact List.mem_append_right _ member
    obtain ⟨exchange, page, rfl⟩ := List.mem_map.mp replied
    exact heard exchange page (List.eq_of_mem_replicate (behind.subset member))
  have lengths := congrArg List.length split
  have few := front.length_le
  rw [none, List.append_nil, List.length_map] at lengths
  omega

variable [Console]

def Source.managed : Source Project where
  request := Client.readingManaged
  read := readAs Page.projects "project"
  endsWhenEmpty := false
  read_ne_spent := readAs_ne_spent

def Source.tasks (project : Int) : Source TaskAssignment where
  request := Client.readingTasks project
  read := readAs Page.tasks "task assignment"
  endsWhenEmpty := false
  read_ne_spent := readAs_ne_spent

end Harvest

namespace Session

open Harvest Program

variable {calm : Exchange → Prop} {expected : Fault → Prop} {client : Client} {α β : Type}

/-- What the end of an operation says of the exchanges. -/
inductive Verdict (calm : Exchange → Prop) (expected : Fault → Prop) (client : Client) :
    Outcome α → List Exchange → Session → Prop
  | returned {value : α} {past : List Exchange} {session : Session}
    (same : session.client = client) (undisturbed : Undisturbed calm past) :
    Verdict calm expected client (.returned value) past session
  | failed {fault : Fault} {past : List Exchange} {session : Session}
    (same : session.client = client) (blamed : expected fault ↔ Undisturbed calm past) :
    Verdict calm expected client (.failed fault) past session
  | spent {past : List Exchange} {session : Session} (same : session.client = client)
    (spends : Spends client.pageBudget past) : Verdict calm expected client .spent past session

/-- Whether a program that starts behind calm exchanges ends as its own deserve. -/
def Accounts (calm : Exchange → Prop) (expected : Fault → Prop) (client : Client)
    (program : SessionProgram α) : Prop :=
  ∀ ⦃past session⦄, session.client = client → Undisturbed calm past →
    program.Assures (fun _ _ => True) (Verdict calm expected client) past session

theorem Accounts.verdict {program : SessionProgram α} (accounts : Accounts calm expected client
      program) {session : Session} (same : session.client = client) (replies : List Reply) :
    Verdict calm expected client (program.run session replies).outcome
      (program.run session replies).exchanges (program.run session replies).state :=
  (accounts same undisturbed_nil).run replies

section Rules

variable {program : SessionProgram α}

theorem accounts_done {value : α} :
    Accounts calm expected client (.done value) :=
  fun _ _ same undisturbed => .returned same undisturbed

theorem accounts_fail {fault : Fault} (within : expected fault) :
    Accounts calm expected client (.fail fault : SessionProgram α) :=
  fun _ _ same undisturbed => .failed same (iff_of_true within undisturbed)

theorem accounts_say [Console] (line : String) :
    Accounts calm expected client (Program.say line.text) := by
  rw [say_text]
  exact fun _ _ same undisturbed => .returned same undisturbed

theorem accounts_modify {change : Session → Session}
    (kept : ∀ session, (change session).client = session.client) :
    Accounts calm expected client (Program.modify change) :=
  fun _ session same undisturbed => .returned ((kept session).trans same) undisturbed

theorem Accounts.bind {next : α → SessionProgram β} (first : Accounts calm expected client program)
    (later : ∀ value, Accounts calm expected client (next value)) :
    Accounts calm expected client (program.bind next) := by
  intro past session same undisturbed
  refine assures_bind.mpr ((first same undisturbed).imp fun outcome past session verdict => ?_)
  cases verdict with
  | returned same undisturbed => exact later _ same undisturbed
  | failed same blamed => exact .failed same blamed
  | spent same spends => exact .spent same spends

theorem accounts_get_bind {next : Session → SessionProgram α}
    (later : ∀ session, session.client = client →
      Accounts calm expected client (next session)) :
    Accounts calm expected client (Program.get.bind next) :=
  fun _ session same undisturbed => later session same same undisturbed

/-- A fault that is turned into another one stays expected or not. -/
theorem Accounts.recover {handler : Fault → SessionProgram α}
    (first : Accounts calm expected client program)
    (turned : ∀ fault, ∃ other, handler fault = .fail other ∧ (expected other ↔ expected fault)) :
    Accounts calm expected client (program.recover handler) := by
  intro past session same undisturbed
  refine assures_recover.mpr ((first same undisturbed).imp fun outcome past session verdict => ?_)
  cases verdict with
  | returned same undisturbed => exact .returned same undisturbed
  | failed same blamed =>
    obtain ⟨other, failed, alike⟩ := turned _
    dsimp only [orElsePost]
    rw [failed]
    exact .failed same (alike.trans blamed)
  | spent same spends => exact .spent same spends

end Rules

section Operations

variable [Console] (blames : Blames calm expected)

include blames

theorem accounts_sends {request : Request} {reader : Record.Reader α} {what : String}
    {program : SessionProgram α} (other : request ≠ Client.readingUser)
    (sends : Sends client.hasCredentials request (readAs reader what) program) :
    Accounts calm expected client program := by
  intro past session same undisturbed
  rw [sends]
  split
  · refine ⟨trivial, fun reply => ?_⟩
    cases read : readAs reader what reply with
    | returned value =>
      exact .returned same
        ((undisturbed_snoc undisturbed).mpr (blames.returned reader what other read))
    | failed fault =>
      exact .failed same
        ((blames.failed reader what other read).trans (undisturbed_snoc undisturbed).symm)
    | spent => exact absurd read (readAs_ne_spent reply)
  · exact .failed same (iff_of_true (blames.reported rfl) undisturbed)

/-- What a listing comes to: its pages were read, except perhaps for the last one. -/
theorem verdict_of_gives {source : Source α} {reader : Record.Reader (Page α)} {what : String}
    (reads : source.read = readAs reader what)
    (other : ∀ number, source.request number ≠ Client.readingUser)
    {past listing : List Exchange} {session : Session} {outcome : Outcome (List α)}
    (same : session.client = client) (undisturbed : Undisturbed calm past)
    (gives : source.Gives client.pageBudget 1 listing outcome) :
    Verdict calm expected client outcome (past ++ listing) session := by
  have calm_of_reads {number : Nat} {exchanges : List Exchange} {pages : List (Page α)}
      (read : source.Reads number exchanges pages) (among : ∀ exchange ∈ exchanges,
        exchange ∈ listing) : Undisturbed calm exchanges := by
    intro exchange member
    obtain ⟨page, returned⟩ := read.read_of_mem exchange member
    obtain ⟨number, asked⟩ := gives.request_of_mem exchange (among exchange member)
    rw [reads] at returned
    exact blames.returned reader what (asked ▸ other number) returned
  cases outcome with
  | returned items =>
    obtain ⟨pages, read, -, -⟩ := gives.exists_pages
    exact .returned same (undisturbed_append.mpr ⟨undisturbed, calm_of_reads read fun _ => id⟩)
  | failed fault =>
    obtain ⟨front, pages, reply, rfl, read, failed⟩ := gives.exists_unread
    rw [reads] at failed
    have before : Undisturbed calm (past ++ front) :=
      undisturbed_append.mpr
        ⟨undisturbed, calm_of_reads read fun _ => List.mem_append_left _⟩
    rw [← List.append_assoc]
    exact .failed same
      ((blames.failed reader what (other _) failed).trans (undisturbed_snoc before).symm)
  | spent =>
    obtain ⟨length, pages, read⟩ := gives.exists_spent
    have refuses : ∃ fault, source.read notFound = .failed fault := by
      rw [reads]
      exact readAs_notFound reader what
    exact .spent same ⟨listing, List.sublist_append_right _ _, length, read.heard refuses⟩

theorem accounts_pages (source : Source α) {reader : Record.Reader (Page α)} {what : String}
    (reads : source.read = readAs reader what)
    (other : ∀ number, source.request number ≠ Client.readingUser)
    {page : Nat → SessionProgram (Page α)}
    (sends : ∀ number, Sends client.hasCredentials (source.request number) source.read
      (page number)) :
    Accounts calm expected client (pagesFrom page source.endsWhenEmpty client.pageBudget 1) := by
  intro past session same undisturbed
  cases credentials : client.hasCredentials with
  | true =>
    rw [credentials] at sends
    apply Source.assures_pagesFrom sends
    intro listing outcome gives
    exact verdict_of_gives blames reads other same undisturbed gives
  | false =>
    rw [credentials] at sends
    cases budget : client.pageBudget with
    | zero => exact .spent same ⟨[], List.nil_sublist _, budget.symm, nofun⟩
    | succ budget =>
      rw [pagesFrom, bind_eq, assures_bind, sends 1]
      exact .failed same (iff_of_true (blames.reported rfl) undisturbed)

theorem accounts_entries (filters : List (Text × Json)) :
    Accounts calm expected client (client.entries filters) :=
  accounts_pages blames (.entries filters) rfl
    (fun _ => Client.readingEntries_ne_readingUser)
    (sends_entryPage client filters)

theorem accounts_refreshUser : Accounts calm expected client refreshUser := by
  intro past session same undisturbed
  apply assures_refreshUser
  · exact fun _ => trivial
  · intro _ reply user decides
    exact .returned same
      ((undisturbed_snoc undisturbed).mpr (blames.decided (decided?_eq_some_iff.mp decides)))
  · intro _ reply fault _ failed
    exact .failed same ((blames.undecided failed).trans (undisturbed_snoc undisturbed).symm)
  · exact fun _ => .returned same undisturbed

theorem accounts_knownUser : Accounts calm expected client knownUser := by
  refine accounts_get_bind fun session _ => ?_
  split
  · exact accounts_done
  · exact accounts_fail (blames.reported rfl)

theorem accounts_ensureUser : Accounts calm expected client ensureUser := by
  rw [ensureUser_eq]
  refine accounts_get_bind fun session _ => ?_
  split
  · exact (accounts_refreshUser blames).bind fun _ => accounts_knownUser blames
  · exact accounts_knownUser blames

theorem accounts_entriesOn (user : Int) (first last : Date) :
    Accounts calm expected client (client.entriesOn user first last) := by
  refine (accounts_entries blames _).recover fun fault => ⟨_, rfl, ?_⟩
  cases fault with
  | harvest failure => exact iff_of_true (blames.reported rfl) (blames.reported rfl)
  | _ => rfl

theorem accounts_fetchEntries (first last : Date) :
    Accounts calm expected client (fetchEntries first last) := by
  refine ((accounts_ensureUser blames).recover fun fault => ?_).bind fun user => ?_
  · cases reported : fault.apiFailure? with
    | some failure =>
      exact ⟨_, rfl, iff_of_true (blames.reported rfl) (blames.reported reported)⟩
    | none => exact ⟨_, rfl, Iff.rfl⟩
  · refine accounts_get_bind fun session same => ?_
    rw [same]
    exact accounts_entriesOn blames user first last

theorem accounts_refreshRunningTimer : Accounts calm expected client refreshRunningTimer := by
  refine accounts_get_bind fun session same => ?_
  split
  · exact accounts_done
  · rw [same]
    exact (accounts_entries blames _).bind fun running =>
      Accounts.bind (accounts_modify fun _ => rfl) fun _ => accounts_done

theorem accounts_announced (line : String) (value : α) :
    Accounts calm expected client (announced line value) :=
  (accounts_say line).bind fun _ =>
    (accounts_refreshRunningTimer blames).bind fun _ => accounts_done

theorem accounts_startTimer (project task : Int) (today : Date) :
    Accounts calm expected client (startTimer project task today) := by
  rw [startTimer_eq]
  refine (accounts_ensureUser blames).bind fun user => accounts_get_bind fun session same => ?_
  rw [same]
  refine (accounts_entriesOn blames user today today).bind fun entries => ?_
  split
  · exact (accounts_sends blames (Client.ne_readingUser_of_method Client.method_changing)
      (sends_changeEntry client _ _)).bind fun _ =>
      accounts_announced blames _ _
  · exact (accounts_sends blames (Client.ne_readingUser_of_method Client.method_creating)
      (sends_createEntry client _ _ _)).bind fun _ =>
      accounts_announced blames _ _

theorem accounts_stopTimer : Accounts calm expected client stopTimer := by
  rw [stopTimer_eq]
  refine accounts_get_bind fun session same => ?_
  split
  · exact accounts_done
  · rw [same]
    exact (accounts_sends blames (Client.ne_readingUser_of_method Client.method_changing)
      (sends_changeEntry client _ _)).bind fun _ =>
      accounts_announced blames _ _

theorem accounts_toggleTimer : Accounts calm expected client toggleTimer :=
  (accounts_refreshRunningTimer blames).bind fun _ => accounts_stopTimer blames

variable {today since : Date} (placed : today.addDays? (-(Client.recentDays : Int)) = some since)

include placed

theorem accounts_finishCollection (listed : List Project) :
    Accounts calm expected client (finishCollection listed today) := by
  refine accounts_get_bind fun session same => ?_
  split
  · exact accounts_done
  · rw [same, Client.recentProjects, placed]
    exact ((accounts_entries blames _).bind fun _ => accounts_done).bind fun _ => accounts_done

theorem accounts_collectProjects : Accounts calm expected client (collectProjects today) := by
  rw [collectProjects_eq]
  refine accounts_get_bind fun session same => ?_
  rw [same]
  refine (accounts_pages blames .managed rfl (fun _ => Client.readingManaged_ne_readingUser)
    (sends_projectPage client)).bind fun listed =>
    accounts_get_bind fun session _ => ?_
  split
  · exact (accounts_refreshUser blames).bind fun _ => accounts_finishCollection blames placed listed
  · exact accounts_finishCollection blames placed listed

theorem accounts_refreshProjects (force : Bool) :
    Accounts calm expected client (refreshProjects force today) := by
  refine accounts_get_bind fun session same => ?_
  split
  · exact accounts_done
  · exact (accounts_collectProjects blames placed).bind fun _ =>
      Accounts.bind (accounts_modify fun _ => rfl) fun _ => accounts_done

theorem accounts_projectTasks (project : Int) :
    Accounts calm expected client (projectTasks project today) := by
  have tasks : Accounts calm expected client (Program.get.bind fun session : Session =>
      session.client.tasksOf
        ((session.findProject? project).getD ⟨project, [], none, none, none⟩)) := by
    refine accounts_get_bind fun session same => ?_
    rw [same]
    unfold Client.tasksOf
    split
    · exact accounts_done
    · exact (accounts_pages blames (.tasks _) rfl (fun _ => Client.readingTasks_ne_readingUser)
        (sends_taskPage client _)).bind fun _ =>
        accounts_done
  refine accounts_get_bind fun session same => ?_
  split
  · exact (accounts_refreshProjects blames placed false).bind fun _ => tasks
  · exact tasks

end Operations
end Session
end TimeReports

import TimeReports.Proofs.RouteFailures

set_option autoImplicit false

namespace TimeReports

namespace Record

variable {α β : Type}

namespace Checked

theorem apply_eq_ok_iff {f : Checked (α → β)} {value : Checked α} {result : β} :
    f.apply value = .ok result ↔
      ∃ function argument,
        f = .ok function ∧ value = .ok argument ∧ function argument = result := by
  cases f <;> cases value <;> simp [apply]

theorem inside_eq_ok_iff {step : Place} {value : Checked α} {result : α} :
    value.inside step = .ok result ↔ value = .ok result := by
  cases value <;> simp [inside, Except.mapError]

end Checked

theorem length_of_itemsFrom {reader : Reader α} {values : List Json} {index : Nat}
    {items : List α} (read : itemsFrom reader index values = .ok items) :
    items.length = values.length := by
  induction values generalizing index items with
  | nil =>
    cases read
    rfl
  | cons value rest ih =>
    obtain ⟨function, others, first, behind, rfl⟩ := Checked.apply_eq_ok_iff.mp read
    cases one : (reader value).inside (.item index) with
    | error faults =>
      rw [one] at first
      cases first
    | ok item =>
      rw [one] at first
      cases first
      rw [List.length_cons, List.length_cons, ih behind]

/-- A list that may be left out is an array, or it is left out and empty. -/
theorem cases_of_optional_listOf {reader : Reader α} {members : List (Text × Json)} {name : String}
    {items : List α} (read : optional members name (listOf reader) [] = .ok items) :
    (∃ values, Json.member? members name.text = some (.array values) ∧
        items.length = values.length) ∨
      Json.member? members name.text = none ∧ items = [] := by
  unfold optional at read
  cases present : Json.member? members name.text with
  | none =>
    rw [present] at read
    cases read
    exact .inr ⟨rfl, rfl⟩
  | some value =>
    rw [present] at read
    have listed := Checked.inside_eq_ok_iff.mp read
    cases value with
    | array values => exact .inl ⟨values, rfl, length_of_itemsFrom listed⟩
    | _ => cases listed

end Record

namespace Harvest

open Program
open Record (Reader)
open Service (Calm blames_service)

section Pages

variable {α : Type} {reader : Reader α} {what : String} {reply : Reply} {exchange : Exchange}

def Reply.members? : Reply → Option (List (Text × Json))
  | .answered response =>
    match response.isSuccess, Json.ofBytes response.body with
    | true, .ok (.object members) => some members
    | _, _ => none
  | _ => none

/-- Whether a reply lists time entries: it is an object with an array of them. -/
def Reply.Lists (reply : Reply) (values : List Json) : Prop :=
  ∃ members, reply.members? = some members ∧
    Json.member? members "time_entries".text = some (.array values)

/-- A page that cannot be read fails the listing that it is in. -/
theorem Source.Gives.failed_of_mem {source : Source α} {budget number : Nat}
    {exchanges : List Exchange} {outcome : Outcome (List α)} {fault : Fault}
    (gives : source.Gives budget number exchanges outcome) (member : exchange ∈ exchanges)
    (failed : source.read exchange.reply = .failed fault) : outcome = .failed fault := by
  induction gives with
  | last read ends =>
    rw [List.mem_singleton.mp member, read] at failed
    cases failed
  | more read goesOn others ih =>
    rcases List.mem_cons.mp member with rfl | behind
    · cases read.symm.trans failed
    · rw [ih behind]
      rfl
  | unread unread =>
    rw [List.mem_singleton.mp member] at failed
    cases unread.symm.trans failed
    rfl
  | spent => cases member

/-- A page without items ends the listing that it is in. -/
theorem Source.Gives.returned_of_mem {source : Source α} {budget number : Nat}
    {exchanges : List Exchange} {outcome : Outcome (List α)} {page : Page α}
    (gives : source.Gives budget number exchanges outcome) (ends : source.endsWhenEmpty = true)
    (member : exchange ∈ exchanges) (read : source.read exchange.reply = .returned page)
    (none : page.items = []) : ∃ items, outcome = .returned items := by
  induction gives with
  | last => exact ⟨_, rfl⟩
  | more readFirst goesOn others ih =>
    rcases List.mem_cons.mp member with rfl | behind
    · rw [readFirst] at read
      cases read
      exact absurd (.inr ⟨ends, none⟩) goesOn
    · obtain ⟨items, rfl⟩ := ih behind
      exact ⟨_, rfl⟩
  | unread failed =>
    rw [List.mem_singleton.mp member, failed] at read
    cases read
  | spent => cases member

variable [Console]

/-- Whether a reply is an object that says nothing of entries and yet reads as a page of them. -/
def Reply.Unlisted (reply : Reply) : Prop :=
  (∃ members, reply.members? = some members ∧ Json.member? members "time_entries".text = none) ∧
    ∃ page, readAs Page.entries "time entry" reply = .returned page

theorem not_unlisted_of_lists {values : List Json} (lists : reply.Lists values) :
    ¬ reply.Unlisted := by
  obtain ⟨members, holds, present⟩ := lists
  rintro ⟨⟨others, holds', absent⟩, -⟩
  obtain rfl := Option.some.inj (holds.symm.trans holds')
  rw [present] at absent
  cases absent

/-- A record is read off the body of a success. -/
theorem exists_body_of_readAs {value : α} (returned : readAs reader what reply = .returned value) :
    ∃ response body, reply = .answered response ∧ response.isSuccess = true ∧
      Json.ofBytes response.body = .ok body ∧ reader body = .ok value := by
  cases reply with
  | answered response =>
    cases status : response.isSuccess with
    | false =>
      rw [readAs_of_refused status (ordinary_of_readAs returned)] at returned
      cases returned
    | true =>
      unfold readAs at returned
      simp only [Client.received, Client.bodyOf, Client.valueOf, status] at returned
      cases decoded : Json.ofBytes response.body with
      | ok body =>
        rw [decoded] at returned
        simp only [narrow, bind_eq, pure_eq, Program.bind, if_true] at returned
        cases read : reader body with
        | ok record =>
          rw [read] at returned
          cases returned
          exact ⟨response, body, rfl, status, decoded, read⟩
        | error faults =>
          rw [read] at returned
          cases returned
      | error fault =>
        rw [decoded] at returned
        cases fault <;> cases returned
  | timedOut => cases returned
  | unreachable message =>
    have takes := taken_of_readAs returned message rfl
    cases (readAs_unreachable_of_takes takes).symm.trans returned
  | broke fault => cases returned

/-- A page of entries lists them, or says nothing of them and has none. -/
theorem lists_or_unlisted {page : Page TimeEntry}
    (read : readAs Page.entries "time entry" reply = .returned page) :
    (∃ values, reply.Lists values ∧ page.items.length = values.length) ∨
      reply.Unlisted ∧ page.items = [] := by
  obtain ⟨response, body, rfl, status, decoded, narrowed⟩ := exists_body_of_readAs read
  cases body with
  | object members =>
    have holds : (Reply.answered response).members? = some members := by
      simp only [Reply.members?, status, decoded]
    obtain ⟨withTotal, number, front, -, rfl⟩ := Record.Checked.apply_eq_ok_iff.mp narrowed
    obtain ⟨withItems, total, items, -, rfl⟩ := Record.Checked.apply_eq_ok_iff.mp front
    obtain ⟨make, items, made, listed, rfl⟩ := Record.Checked.apply_eq_ok_iff.mp items
    obtain rfl := Except.ok.inj made
    exact (Record.cases_of_optional_listOf listed).imp
      (fun ⟨values, present, length⟩ => ⟨values, ⟨members, holds, present⟩, length⟩)
      fun ⟨absent, empty⟩ => ⟨⟨⟨members, holds, absent⟩, _, read⟩, empty⟩
  | _ => cases narrowed

/-- Whether the reply to a request of a fetch says what was asked for: a user, or a page that lists
time entries. -/
inductive Explicit (exchange : Exchange) : Prop
  | user {user : User} (asked : exchange.request = Client.readingUser)
    (read : readAs User.ofJson "user" exchange.reply = .returned user)
  | page {page : Page TimeEntry} {values : List Json}
    (asked : exchange.request ≠ Client.readingUser)
    (read : readAs Page.entries "time entry" exchange.reply = .returned page)
    (lists : exchange.reply.Lists values)

/-- Whether an exchange asks for a page and is given one that says nothing of entries. -/
def Evades (exchange : Exchange) : Prop :=
  exchange.request ≠ Client.readingUser ∧ exchange.reply.Unlisted

theorem not_explicit_of_evades (evades : Evades exchange) : ¬ Explicit exchange := by
  intro explicit
  cases explicit with
  | user asked read => exact evades.1 asked
  | page asked read lists => exact not_unlisted_of_lists lists evades.2

/-- A page that was read lists its entries or evades. -/
theorem explicit_or_evades {page : Page TimeEntry} (asked : exchange.request ≠ Client.readingUser)
    (read : readAs Page.entries "time entry" exchange.reply = .returned page) :
    Explicit exchange ∨ Evades exchange :=
  (lists_or_unlisted read).imp (fun ⟨_, lists, _⟩ => .page asked read lists)
    fun ⟨unlisted, _⟩ => ⟨asked, unlisted⟩

/-- Whether the console takes what an execution says of a page, if it fails. -/
def Sayable (exchange : Exchange) : Prop :=
  exchange.request ≠ Client.readingUser → ∀ fault failure,
    readAs Page.entries "time entry" exchange.reply = .failed fault →
      fault.apiFailure? = some failure → Console.Takes failure.message

theorem calm_of_explicit (explicit : Explicit exchange) : Calm exchange := by
  obtain ⟨request, reply⟩ := exchange
  cases explicit with
  | @user user asked read =>
    dsimp only at asked read
    subst asked
    have looked : Session.lookedUp reply = .returned (some user.id) := by
      simp only [Session.lookedUp, read]
    exact blames_service.decided looked
  | page asked read lists => exact blames_service.returned _ _ asked read

theorem sayable_of_explicit (explicit : Explicit exchange) : Sayable exchange := by
  intro asked fault failure failed
  cases explicit with
  | user same => exact absurd same asked
  | page _ read => cases read.symm.trans failed

/-- What is reported of an answer of success, and of one that is not there, any console takes. -/
theorem takes_of_success {response : Response} {fault : Fault} {failure : ApiFailure}
    (plain : response.isSuccess = true ∨ Reply.answered response = notFound)
    (failed : readAs reader what (.answered response) = .failed fault)
    (reported : fault.apiFailure? = some failure) : Text.Whole failure.message := by
  rcases plain with status | absent
  · cases faulted_of_readAs failed with
    | silenced | tooDeep => cases reported
    | reported ordinary =>
      cases reported
      rcases readAs_of_success reader what status ordinary with
        ⟨value, returned⟩ | ⟨failure, told, refused⟩
      · cases returned.symm.trans failed
      · cases refused.symm.trans failed
        cases told with
        | refused status' | refusedSilently status' => cases status.symm.trans status'
        | undecodable => exact Text.whole_text _
        | misshapen =>
          exact Text.whole_append (Text.whole_append (Text.whole_text _) (Text.whole_text _))
            (Text.whole_text _)
  · have missing : readAs reader what notFound =
        .failed (.harvest ⟨"Harvest API Error: Not Found".text, some 404⟩) := rfl
    rw [absent, missing] at failed
    cases failed
    cases reported
    exact Text.whole_text _

/-- Whatever is asked for, an answer of success, or one that is not there, is calm and can be said
if it is ordinary. -/
theorem calm_and_sayable {response : Response} {request : Request}
    (plain : response.isSuccess = true ∨ Reply.answered response = notFound)
    (ordinary : (Reply.answered response).Ordinary) :
    Calm ⟨request, .answered response⟩ ∧ Sayable ⟨request, .answered response⟩ := by
  refine ⟨⟨Or.inl ordinary, nofun, fun _ fault failure failed reported => ?_⟩,
    fun _ fault failure failed reported => ?_⟩
  · exact Console.takes_of_whole
      (Text.whole_append (Text.whole_text _) (takes_of_success plain failed reported))
  · exact Console.takes_of_whole (takes_of_success plain failed reported)

end Pages

end Harvest

namespace Session

open Harvest Program
open Service (Calm blames_service)

section Fetches

variable [Console] {client : Client} {exchanges : List Exchange}
  {outcome : Outcome (List TimeEntry)} {entries : List TimeEntry} {exchange : Exchange}

/-- What a fetch of entries comes to: behind a lookup of the user, or without one, it is a listing.
It may break off before the listing. -/
inductive ComesTo (client : Client) : List Exchange → Outcome (List TimeEntry) → Prop
  | listed {lookup listing : List Exchange} {outcome : Outcome (List TimeEntry)}
    {filters : List (Text × Json)}
    (found : ∀ exchange ∈ lookup, Explicit exchange ∧ exchange.request = Client.readingUser)
    (gives : (Source.entries filters).Gives client.pageBudget 1 listing outcome) :
    ComesTo client (lookup ++ listing) (asFetched outcome)
  | refused {reply : Reply} (refused : decided? reply = some none) :
    ComesTo client [⟨Client.readingUser, reply⟩] (.failed (.fetch userUnknown))
  | undecided {reply : Reply} {fault : TimeReports.Fault}
    (failed : lookedUp reply = .failed fault) (unreported : fault.apiFailure? = none) :
    ComesTo client [⟨Client.readingUser, reply⟩] (.failed fault)
  | offline {lookup : List Exchange} {outcome : Outcome (List TimeEntry)}
    (found : ∀ exchange ∈ lookup, Explicit exchange ∧ exchange.request = Client.readingUser)
    (breaks : outcome.Breaks) : ComesTo client lookup outcome

theorem explicit_of_resolved {known : Option Int} {lookup : List Exchange} {user : Int}
    (resolved : Resolved known lookup user) :
    ∀ exchange ∈ lookup, Explicit exchange ∧ exchange.request = Client.readingUser := by
  cases resolved with
  | known => nofun
  | @found reply _ found =>
    intro exchange member
    obtain rfl := List.mem_singleton.mp member
    obtain ⟨user, read, -⟩ := exists_user_of_decided found
    exact ⟨.user rfl read, rfl⟩

/-- What fetches entries for a report: the client for a user, or the session for its own user. -/
inductive Fetching where
  | ofUser (user : Int)
  | ofSession

def Fetching.fetch (client : Client) : Fetching → Execution.SessionFetcher
  | ofUser user => fun first last => client.entriesOn user first last
  | ofSession => fetchEntries

theorem assures_comesTo (fetching : Fetching) (session : Session) (first last : Date) :
    (fetching.fetch session.client first last).Assures (fun _ _ => True)
      (fun outcome past _ => ComesTo session.client past outcome) [] session := by
  cases fetching with
  | ofUser user =>
    apply assures_entriesOn
    · intro online listing outcome gives
      have unasked : ∀ exchange ∈ ([] : List Exchange),
          Explicit exchange ∧ exchange.request = Client.readingUser := nofun
      exact .listed unasked gives
    · intro offline outcome breaks
      exact .offline nofun breaks
  | ofSession =>
    rw [Fetching.fetch, fetchEntries, bind_eq, assures_bind, assures_recover]
    apply assures_ensureUser
    · intro lookup user resolved
      simp only [orElsePost, thenPost, bind_eq, assures_bind, assures_get]
      apply assures_entriesOn
      · intro online listing outcome gives
        exact .listed (explicit_of_resolved resolved) gives
      · intro offline outcome breaks
        exact .offline (explicit_of_resolved resolved) breaks
    · intro unknown reply refused
      exact .refused refused
    · intro unknown reply fault _ failed
      have unreported := apiFailure?_of_lookedUp failed
      simp only [orElsePost, unreported]
      exact .undecided failed unreported
    · intro unknown offline
      exact .offline nofun trivial

def Fetching.gathered (fetching : Fetching) (first last : Date) (session : Session)
    (replies : List Reply) : Run Session (List TimeEntry) :=
  (fetching.fetch session.client first last).run session replies

theorem comesTo_gathered (fetching : Fetching) (first last : Date) (session : Session)
    (replies : List Reply) : ComesTo session.client
      (fetching.gathered first last session replies).exchanges
      (fetching.gathered first last session replies).outcome :=
  (assures_comesTo fetching session first last).run replies

theorem request_of_mem_listing {filters : List (Text × Json)} {listing : List Exchange}
    {budget : Nat} {outcome : Outcome (List TimeEntry)}
    (gives : (Source.entries filters).Gives budget 1 listing outcome)
    (member : exchange ∈ listing) :
    exchange.request ≠ Client.readingUser := by
  obtain ⟨number, asked⟩ := gives.request_of_mem exchange member
  rw [asked]
  exact Client.readingEntries_ne_readingUser

namespace ComesTo

/-- A page that says nothing of entries ends the fetch with entries. -/
theorem returned_of_evades (comes : ComesTo client exchanges outcome)
    (member : exchange ∈ exchanges) (evades : Evades exchange) :
    ∃ entries, outcome = .returned entries := by
  cases comes with
  | listed found gives =>
    rcases List.mem_append.mp member with front | inside
    · exact absurd (found exchange front).2 evades.1
    · obtain ⟨page, read⟩ := evades.2.2
      have empty : page.items = [] := by
        rcases lists_or_unlisted read with ⟨values, lists, -⟩ | ⟨-, empty⟩
        · exact absurd evades.2 (not_unlisted_of_lists lists)
        · exact empty
      obtain ⟨items, rfl⟩ := gives.returned_of_mem rfl inside read empty
      exact ⟨items, rfl⟩
  | refused =>
    rw [List.mem_singleton.mp member] at evades
    exact absurd rfl evades.1
  | undecided =>
    rw [List.mem_singleton.mp member] at evades
    exact absurd rfl evades.1
  | offline found breaks => exact absurd (found exchange member).2 evades.1

/-- A fetch that gives entries has been told of them on every page that did not evade. -/
theorem explicit_of_returned (comes : ComesTo client exchanges (.returned entries))
    (none : ∀ exchange ∈ exchanges, ¬ Evades exchange) :
    ∀ exchange ∈ exchanges, Explicit exchange := by
  intro exchange member
  generalize ending : Outcome.returned entries = outcome at comes
  cases comes with
  | @listed lookup listing outcome filters found gives =>
    rcases List.mem_append.mp member with front | inside
    · exact (found exchange front).1
    · cases outcome with
      | returned items =>
        obtain ⟨pages, reads, -, -⟩ := gives.exists_pages
        obtain ⟨page, read⟩ := reads.read_of_mem exchange inside
        exact (explicit_or_evades (request_of_mem_listing gives inside) read).resolve_right
          (none exchange member)
      | failed fault => cases ending
      | spent => cases ending
  | refused => cases ending
  | undecided => cases ending
  | offline found breaks =>
    subst ending
    exact breaks.elim

/-- A fetch that gives no entries has been told that there are none. -/
theorem lists_nil_of_returned (comes : ComesTo client exchanges (.returned []))
    (none : ∀ exchange ∈ exchanges, ¬ Evades exchange) :
    (∃ exchange ∈ exchanges, exchange.request ≠ Client.readingUser) ∧
      ∀ exchange ∈ exchanges, exchange.request ≠ Client.readingUser → exchange.reply.Lists [] := by
  generalize ending : Outcome.returned [] = outcome at comes
  cases comes with
  | @listed lookup listing outcome filters found gives =>
    cases outcome with
    | returned items =>
      cases ending
      obtain ⟨pages, reads, complete, empty⟩ := gives.exists_pages
      refine ⟨?_, fun exchange member asked => ?_⟩
      · cases reads with
        | nil => cases complete
        | cons read others =>
          exact ⟨_, List.mem_append_right _ List.mem_cons_self,
            request_of_mem_listing gives List.mem_cons_self⟩
      · have inside : exchange ∈ listing := (List.mem_append.mp member).resolve_left
          fun front => asked (found exchange front).2
        obtain ⟨page, among, read⟩ := reads.page_of_mem exchange inside
        rcases lists_or_unlisted read with ⟨values, lists, length⟩ | ⟨unlisted, -⟩
        · rw [List.flatMap_eq_nil_iff.mp empty.symm page among, List.length_nil] at length
          rwa [List.length_eq_zero_iff.mp length.symm] at lists
        · exact absurd ⟨asked, unlisted⟩ (none exchange member)
    | failed fault => cases ending
    | spent => cases ending
  | refused => cases ending
  | undecided => cases ending
  | offline found breaks =>
    subst ending
    exact breaks.elim

/-- A page that cannot be read fails the fetch as it fails itself. -/
theorem failed_of_mem {fault : TimeReports.Fault} (comes : ComesTo client exchanges outcome)
    (member : exchange ∈ exchanges) (asked : exchange.request ≠ Client.readingUser)
    (failed : readAs Page.entries "time entry" exchange.reply = .failed fault) :
    outcome = asFetched (.failed fault) := by
  cases comes with
  | listed found gives =>
    rcases List.mem_append.mp member with front | inside
    · exact absurd (found exchange front).2 asked
    · rw [gives.failed_of_mem inside failed]
  | refused => exact absurd (List.mem_singleton.mp member ▸ rfl) asked
  | undecided => exact absurd (List.mem_singleton.mp member ▸ rfl) asked
  | offline found breaks => exact absurd (found exchange member).2 asked

/-- A fetch behind calm exchanges that is not told what it asks for fails as a fetch, and that can
be said. -/
theorem failed_of_not_explicit (comes : ComesTo client exchanges outcome)
    (sound : ∀ exchange ∈ exchanges, Calm exchange ∧ ¬ Evades exchange ∧ Sayable exchange)
    (member : exchange ∈ exchanges) (silent : ¬ Explicit exchange) :
    ∃ failure, outcome = .failed (.fetch failure) ∧ Console.Takes failure.message := by
  cases comes with
  | @listed lookup listing outcome filters found gives =>
    have inside : exchange ∈ listing := (List.mem_append.mp member).resolve_left
      fun front => silent (found exchange front).1
    have told {page : Page TimeEntry} :
        readAs Page.entries "time entry" exchange.reply ≠ .returned page := fun read =>
      ((explicit_or_evades (request_of_mem_listing gives inside) read).elim silent
        (sound exchange member).2.1)
    cases outcome with
    | returned items =>
      obtain ⟨pages, reads, -, -⟩ := gives.exists_pages
      obtain ⟨page, read⟩ := reads.read_of_mem exchange inside
      exact absurd read told
    | failed fault =>
      obtain ⟨front, pages, reply, rfl, -, failed⟩ := gives.exists_unread
      obtain ⟨calm, -, sayable⟩ := sound _ (List.mem_append_right _
        (List.mem_append_right front (List.mem_singleton.mpr rfl)))
      have asked : Client.readingEntries filters (1 + pages.length) ≠ Client.readingUser :=
        Client.readingEntries_ne_readingUser
      obtain ⟨failure, reported⟩ := (blames_service.failed _ _ asked failed).mpr calm
      have takes := sayable asked fault failure failed reported
      cases fault with
      | harvest failure =>
        cases reported
        exact ⟨failure, rfl, takes⟩
      | fetch failure =>
        cases reported
        exact ⟨failure, rfl, takes⟩
      | _ => cases reported
    | spent =>
      obtain ⟨-, pages, reads⟩ := gives.exists_spent
      obtain ⟨page, read⟩ := reads.read_of_mem exchange inside
      exact absurd read told
  | refused => exact ⟨userUnknown, rfl, Console.takes_of_whole (Text.whole_text _)⟩
  | undecided failed unreported =>
    obtain ⟨failure, reported⟩ :=
      (blames_service.undecided failed).mpr (sound _ List.mem_cons_self).1
    cases unreported.symm.trans reported
  | offline found breaks => exact absurd (found exchange member).1 silent

end ComesTo

/-- The exchanges of a fetch that fails with a failure of the service were calm. -/
theorem calm_of_failed {fetching : Fetching} {first last : Date} {session : Session}
    {replies : List Reply} {failure : ApiFailure}
    (failed : (fetching.gathered first last session replies).outcome = .failed (.fetch failure)) :
    ∀ exchange ∈ (fetching.gathered first last session replies).exchanges, Calm exchange := by
  have accounts : Accounts Calm (fun fault => ∃ failure, fault.apiFailure? = some failure)
      session.client (fetching.fetch session.client first last) := by
    cases fetching with
    | ofUser user => exact accounts_entriesOn blames_service user first last
    | ofSession => exact accounts_fetchEntries blames_service first last
  have verdict := accounts.verdict rfl replies
  unfold Fetching.gathered at failed ⊢
  rw [failed] at verdict
  cases verdict with
  | failed same blamed => exact blamed.mp ⟨failure, rfl⟩

/-- A fetch that gives entries was told of them on every page, just when no page evaded. -/
theorem explicit_iff_not_evades (fetching : Fetching) (first last : Date) (session : Session)
    (replies : List Reply) :
    (∀ entries, (fetching.gathered first last session replies).outcome = .returned entries →
        ∀ exchange ∈ (fetching.gathered first last session replies).exchanges,
          Explicit exchange) ↔
      ∀ exchange ∈ (fetching.gathered first last session replies).exchanges,
        ¬ Evades exchange := by
  have comes := comesTo_gathered fetching first last session replies
  constructor
  · intro told exchange member evades
    obtain ⟨entries, returned⟩ := comes.returned_of_evades member evades
    exact not_explicit_of_evades evades (told entries returned exchange member)
  · intro none entries returned
    rw [returned] at comes
    exact comes.explicit_of_returned none

end Fetches

end Session

/-- Only entries are reported as something. -/
theorem Report.aggregate_eq_noEntries_iff {entries : List TimeEntry} {kind : ReportKind} :
    Report.aggregate entries kind = .noEntries ↔ entries = [] := by
  cases entries with
  | nil => exact iff_of_true rfl rfl
  | cons entry rest => cases kind <;> exact iff_of_false nofun (List.cons_ne_nil entry rest)

namespace Display

theorem children_message_ne {text : Text} {style : String}
    (other : style.text ≠ "harvest-empty".text) :
    Tree.message text style ≠ render .noEntries := by
  intro same
  injection (congrArg Tree.children same) with node
  injection node with _ _ styles
  exact other (Option.some.inj styles)

/-- Nothing but a view without entries is shown as one. -/
theorem render_eq_noEntries_iff {view : Report.View} :
    render view = render .noEntries ↔ view = .noEntries := by
  refine ⟨fun same => ?_, fun same => same ▸ rfl⟩
  have children := congrArg Tree.children same
  cases view with
  | noEntries => rfl
  | list rows => cases children
  | summary summary => cases children

end Display

namespace Execution

open Harvest Program Session
open Service (Calm)

section Executions

variable [Console] {source : Text} {fetching : Fetching} {location : Option Location} {today : Date}
  {desk : Desk} {replies : List Reply} {query : Query} {result : Result}

/-- How the end of an execution agrees with what its fetch was told. -/
structure Faithful (exchanges : List Exchange) (executed : Run Desk Result) : Prop where
  /-- A report without entries is shown where the service listed none. -/
  empty : ∀ result, executed.outcome = .returned result →
    result.display = Display.render .noEntries →
      (∃ exchange ∈ exchanges, exchange.request ≠ Client.readingUser) ∧
        ∀ exchange ∈ exchanges, exchange.request ≠ Client.readingUser → exchange.reply.Lists []
  /-- Any reply that does not say what was asked for ends the execution as a failed fetch. -/
  failed : ∀ exchange ∈ exchanges, ¬ Explicit exchange →
    ∃ result, executed.outcome = .returned result ∧ result.state = .fetchFailed

/-- An execution that shows a report without entries has fetched none. -/
theorem returned_nil_of_display {fetch : SessionFetcher} (reads : Reads source today query)
    (returned : (executed source fetch location today desk replies).outcome = .returned result)
    (display : result.display = Display.render .noEntries) :
    (answered fetch query desk replies).outcome = .returned [] := by
  have none {other : Query} {entries : List TimeEntry} (reads' : Reads source today other)
      (found : (answered fetch other desk replies).outcome = .returned entries)
      (shown : (report other entries).display = Display.render .noEntries) :
      (answered fetch query desk replies).outcome = .returned [] := by
    obtain rfl := reads_unique reads reads'
    rwa [Report.aggregate_eq_noEntries_iff.mp (Display.render_eq_noEntries_iff.mp shown)] at found
  have ending := ending_of_returned returned
  generalize executed source fetch location today desk replies = run at ending returned
  cases ending with
  | malformed fault malformed =>
    cases returned
    exact absurd display (Display.children_message_ne (by decide))
  | unfetched other failure reads' failed =>
    cases returned
    exact absurd display (Display.children_message_ne (by decide))
  | live other entries reads' found live =>
    cases returned
    exact none reads' found display
  | frozen other entries markup place after reads' found flag written placed replaced =>
    cases returned
    exact none reads' found display
  | kept other entries markup fault after reads' found flag written unreplaced =>
    cases returned
    exact absurd display (Display.children_message_ne (by decide))

/-- All that is said of a failed fetch but its message are characters. -/
theorem takes_fetchFailedLine_iff {failure : ApiFailure} :
    Console.Takes (fetchFailedLine query failure) ↔ Console.Takes failure.message := by
  have prefixed : Text.Whole ("  Fetch failed for ".text ++ query.range.first.iso ++ "..".text
      ++ query.range.last.iso ++ ": ".text) :=
    Text.whole_append (Text.whole_append (Text.whole_append (Text.whole_append (Text.whole_text _)
      (Client.whole_iso _)) (Text.whole_text _)) (Client.whole_iso _)) (Text.whole_text _)
  rw [fetchFailedLine, Console.takes_append_iff, and_iff_right (Console.takes_of_whole prefixed)]

/-- A fetch that fails, and that can be said, ends its execution as a failed fetch. -/
theorem exists_fetchFailed {fetch : SessionFetcher} {failure : ApiFailure}
    (reads : Reads source today query)
    (failed : (answered fetch query desk replies).outcome = .failed (.fetch failure))
    (takes : Console.Takes failure.message) :
    ∃ result, (executed source fetch location today desk replies).outcome = .returned result ∧
      result.state = .fetchFailed := by
  rw [executed_of_unfetched reads failed (takes_fetchFailedLine_iff.mpr takes)]
  exact ⟨unfetched query, rfl, rfl⟩

theorem failed_of_fetchFailed {fetch : SessionFetcher} (reads : Reads source today query)
    (returned : (executed source fetch location today desk replies).outcome = .returned result)
    (state : result.state = .fetchFailed) : ∃ failure,
      (answered fetch query desk replies).outcome = .failed (.fetch failure) ∧
        Console.Takes failure.message := by
  have ending := ending_of_returned returned
  generalize executed source fetch location today desk replies = run at ending returned
  cases ending with
  | unfetched other failure reads' failed takes =>
    obtain rfl := reads_unique reads reads'
    exact ⟨failure, failed, takes_fetchFailedLine_iff.mp takes⟩
  | _ =>
    cases returned
    cases state

/-- An execution shows a report without entries only where the service listed none, and ends as a
failed fetch whenever it was not told what it asked for, just when every reply could be read, no
page evaded, and the console takes what is said of the failures. -/
theorem faithful_iff (reads : Reads source today query) :
    Faithful (fetching.gathered query.range.first query.range.last desk.session replies).exchanges
        (executed source (fetching.fetch desk.session.client) location today desk replies) ↔
      ∀ exchange ∈ (fetching.gathered query.range.first query.range.last desk.session
        replies).exchanges, Calm exchange ∧ ¬ Evades exchange ∧ Sayable exchange := by
  have comes := comesTo_gathered fetching query.range.first query.range.last desk.session replies
  constructor
  · intro faithful exchange member
    by_cases explicit : Explicit exchange
    · exact ⟨calm_of_explicit explicit, fun evades => not_explicit_of_evades evades explicit,
        sayable_of_explicit explicit⟩
    · obtain ⟨result, returned, state⟩ := faithful.failed exchange member explicit
      obtain ⟨failure, failed, takes⟩ := failed_of_fetchFailed reads returned state
      refine ⟨calm_of_failed failed exchange member, fun evades => ?_,
        fun asked fault other unread reported => ?_⟩
      · obtain ⟨entries, found⟩ := comes.returned_of_evades member evades
        cases found.symm.trans failed
      · have same := failed.symm.trans (comes.failed_of_mem member asked unread)
        cases fault with
        | harvest failure | fetch failure =>
          cases reported
          cases same
          exact takes
        | _ => cases reported
  · intro sound
    constructor
    · intro result returned display
      have none := returned_nil_of_display reads returned display
      change (fetching.gathered query.range.first query.range.last desk.session
        replies).outcome = .returned [] at none
      rw [none] at comes
      exact comes.lists_nil_of_returned fun exchange member => (sound exchange member).2.1
    · intro exchange member silent
      obtain ⟨failure, failed, takes⟩ := comes.failed_of_not_explicit sound member silent
      exact exists_fetchFailed reads failed takes

/-- No fetch takes a page that says nothing of entries for one that lists none, and no execution
shows or freezes a report without entries for it, just when no such page comes, every reply can be
read, and the console takes what is said of the failures. -/
theorem empty_reports_are_listed_iff (fetching : Fetching) :
    (∀ first last session replies,
      (∀ entries, (fetching.gathered first last session replies).outcome = .returned entries →
        ∀ exchange ∈ (fetching.gathered first last session replies).exchanges,
          Explicit exchange) ↔
      ∀ exchange ∈ (fetching.gathered first last session replies).exchanges,
        ¬ Evades exchange) ∧
    ∀ source location today desk replies query, Reads source today query →
      (Faithful (fetching.gathered query.range.first query.range.last desk.session
          replies).exchanges
        (executed source (fetching.fetch desk.session.client) location today desk replies) ↔
      ∀ exchange ∈ (fetching.gathered query.range.first query.range.last desk.session
        replies).exchanges, Calm exchange ∧ ¬ Evades exchange ∧ Sayable exchange) :=
  ⟨explicit_iff_not_evades fetching, fun _ _ _ _ _ _ reads => faithful_iff reads⟩

end Executions

/-- The small desk with credentials and a user. -/
def knownDesk : Desk :=
  { smallDesk .none with session := .start ⟨"t".text, "a".text, 3⟩ (some 7) }

/-- The fetch for the small desk's block. -/
def knownFetch (body : String) : Run Session (List TimeEntry) :=
  Fetching.ofSession.gathered someDay someDay knownDesk.session [successWith body]

/-- The execution of the small desk's block. -/
def knownRun (body : String) : Run Desk Result :=
  executed "LIST TODAY --static".text (Fetching.ofSession.fetch knownDesk.session.client)
    (some smallPlace) someDay knownDesk [successWith body]

theorem reads_today : Reads "LIST TODAY --static".text someDay ⟨.list, .single someDay⟩ := by
  unfold Reads
  decide +kernel

def emptyPage : String := "\x7b\"time_entries\": []\x7d"

def arrayLength? : Json → Option Nat
  | .array items => some items.length
  | _ => none

theorem lists_emptyPage : (successWith emptyPage).Lists [] := by
  have listed : ((successWith emptyPage).members?.bind fun members =>
      (Json.member? members "time_entries".text).bind arrayLength?) = some 0 := by decide +kernel
  obtain ⟨members, holds, listed⟩ := Option.bind_eq_some_iff.mp listed
  obtain ⟨value, present, length⟩ := Option.bind_eq_some_iff.mp listed
  refine ⟨members, holds, ?_⟩
  cases value with
  | array values => rw [present, List.length_eq_zero_iff.mp (Option.some.inj length)]
  | _ => cases length

/-- A block is frozen where a page lists no entries. -/
theorem knownRun_faithful : endState? (knownRun emptyPage) = some (.done, true) ∧
    Faithful (knownFetch emptyPage).exchanges (knownRun emptyPage) := by
  refine ⟨by decide +kernel, ?_⟩
  refine ((empty_reports_are_listed_iff .ofSession).2 _ _ _ _ _ _ reads_today).mpr ?_
  intro exchange member
  obtain ⟨request, reply⟩ := exchange
  rcases reply_of_mem_exchanges member with given | absent
  · obtain rfl : reply = successWith emptyPage := List.mem_singleton.mp given
    have both : Calm ⟨request, successWith emptyPage⟩ ∧ Sayable ⟨request, successWith emptyPage⟩ :=
      calm_and_sayable (Or.inl rfl) (by decide +kernel)
    exact ⟨both.1, fun evades => not_unlisted_of_lists lists_emptyPage evades.2, both.2⟩
  · obtain rfl : reply = notFound := absent
    have both : Calm ⟨request, notFound⟩ ∧ Sayable ⟨request, notFound⟩ :=
      calm_and_sayable (Or.inr rfl) ordinary_notFound
    refine ⟨both.1, fun evades => ?_, both.2⟩
    obtain ⟨page, read⟩ := evades.2.2
    cases read

def bareObject : String := "\x7b\x7d"

theorem not_lists_bareObject (values : List Json) : ¬ (successWith bareObject).Lists values := by
  have absent : ((successWith bareObject).members?.all fun members =>
      (Json.member? members "time_entries".text).isNone) = true := by decide +kernel
  rintro ⟨members, holds, present⟩
  rw [holds, Option.all_some, present] at absent
  cases absent

/-- Where the page is an object that lists nothing at all, the block is frozen all the same. -/
theorem knownRun_unfaithful : endState? (knownRun bareObject) = some (.done, true) ∧
    (knownFetch bareObject).outcome = .returned [] ∧
    ¬ (∀ exchange ∈ (knownFetch bareObject).exchanges, Explicit exchange) ∧
    ¬ Faithful (knownFetch bareObject).exchanges (knownRun bareObject) := by
  have ends : endState? (knownRun bareObject) = some (.done, true) := by decide +kernel
  have none : (knownFetch bareObject).outcome = .returned [] := by
    have count : (knownFetch bareObject).value?.map List.length = some 0 := by decide +kernel
    obtain ⟨entries, valued, length⟩ := Option.map_eq_some_iff.mp count
    rw [Run.value?_eq_some_iff.mp valued, List.length_eq_zero_iff.mp length]
  have untold : ¬ ∀ exchange ∈ (knownFetch bareObject).exchanges, Explicit exchange := by
    intro told
    have comes := comesTo_gathered .ofSession someDay someDay knownDesk.session
      [successWith bareObject]
    change ComesTo _ (knownFetch bareObject).exchanges (knownFetch bareObject).outcome at comes
    rw [none] at comes
    obtain ⟨⟨exchange, member, asked⟩, listed⟩ := comes.lists_nil_of_returned
      fun exchange member evades => not_explicit_of_evades evades (told exchange member)
    have lists := listed exchange member asked
    rcases reply_of_mem_exchanges member with given | absent
    · rw [List.mem_singleton.mp given] at lists
      exact not_lists_bareObject _ lists
    · rw [absent] at lists
      obtain ⟨members, holds, -⟩ := lists
      cases holds
  refine ⟨ends, none, untold, fun faithful => untold fun exchange member => ?_⟩
  by_contra silent
  obtain ⟨result, returned, state⟩ := faithful.failed exchange member silent
  obtain ⟨other, returned', done, -⟩ := exists_of_endState? ends
  cases returned.symm.trans returned'
  rw [state] at done
  cases done

end Execution
end TimeReports

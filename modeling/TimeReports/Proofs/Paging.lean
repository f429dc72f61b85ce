import TimeReports.Proofs.Blame
import TimeReports.Proofs.Following
import TimeReports.Proofs.Servers

set_option autoImplicit false

namespace TimeReports.Harvest

open Program

variable {σ α β : Type}

section Requests

/-- The request for a page of time entries: the filters, the number of the page and how many entries
a page holds. -/
def entriesRequest (filters : List (Text × Json)) (number : Nat) : Request :=
  ⟨"GET".text, "/v2/time_entries".text,
    Text.formQuery (Client.fields filters ++
      [("page".text, Text.natDigits number), ("per_page".text, "2000".text)]), none⟩

theorem number_of_query {front back : List (Text × Text)} {number other : Nat}
    (same : Text.formQuery (front ++ ("page".text, Text.natDigits number) :: back) =
      Text.formQuery (front ++ ("page".text, Text.natDigits other) :: back)) : number = other :=
  Text.natDigits_inj.mp (Text.value_of_formQuery (Text.whole_natDigits number)
    (Text.whole_natDigits other) same)

variable [Console]

theorem request_entries (filters : List (Text × Json)) (number : Nat) :
    (Source.entries filters).request number = entriesRequest filters number := by
  have path : (Client.readingEntries filters number).path = "/v2/time_entries".text :=
    Client.path_reading (Text.whole_text _) (by decide) _
  have query : (Client.readingEntries filters number).query =
      Text.formQuery (Client.fields filters ++
        [("page".text, Text.natDigits number), ("per_page".text, "2000".text)]) := by
    change Text.formQuery (Client.fields (_ ++ _)) = _
    rw [Client.fields, List.flatMap_append]
    rfl
  change Client.readingEntries filters number = _
  rw [entriesRequest, ← path, ← query]
  rfl

/-- Requests for different pages differ, so a server may have any page for any number. -/
theorem injective_request_entries (filters : List (Text × Json)) :
    Function.Injective (Source.entries filters).request := by
  intro number other same
  rw [request_entries, request_entries] at same
  exact number_of_query (congrArg Request.query same)

theorem injective_request_managed : Function.Injective Source.managed.request := by
  intro number other same
  have queries : Text.formQuery ([("is_active".text, "true".text)] ++
        [("page".text, Text.natDigits number)]) =
      Text.formQuery ([("is_active".text, "true".text)] ++
        [("page".text, Text.natDigits other)]) := congrArg Request.query same
  exact number_of_query queries

theorem injective_request_tasks (project : Int) :
    Function.Injective (Source.tasks project).request := by
  intro number other same
  have queries : Text.formQuery ([] ++ [("page".text, Text.natDigits number)]) =
      Text.formQuery ([] ++ [("page".text, Text.natDigits other)]) := congrArg Request.query same
  exact number_of_query queries

end Requests

section Entries

variable [Console] {filters : List (Text × Json)}

/-- The pages at which a listing of time entries can stop: those that cannot be read, those whose
total is no larger than their number, and those that are empty. -/
theorem stops_entries (server : Request → Reply) : (Source.entries filters).stops server =
    {number | 1 ≤ number ∧ ∀ page, (Source.entries filters).pageAt server number =
      .returned page → page.totalPages ≤ number ∨ page.items = []} := by
  simp only [Source.stops, Source.StopsAt, Source.Ends, Source.entries, true_and]

/-- A server whose pages up to a total all have items and claim that total is read up to there. -/
theorem isLeast_stops_of_total {server : Request → Reply} {total : Nat} (first : 1 ≤ total)
    (pages : ∀ number, 1 ≤ number → number ≤ total → ∃ page : Page TimeEntry,
      (Source.entries filters).pageAt server number = .returned page ∧
        page.totalPages = total ∧ page.items ≠ []) :
    IsLeast ((Source.entries filters).stops server) total := by
  constructor
  · obtain ⟨page, read, same, -⟩ := pages total first (Nat.le_refl total)
    exact ⟨first, (Source.stopsAt_of_returned read).mpr (Or.inl same.le)⟩
  · intro number stops
    by_contra early
    obtain ⟨page, read, same, items⟩ := pages number stops.1 (Nat.le_of_not_le early)
    rcases stops.2 page read with claimed | ⟨-, empty⟩
    · omega
    · exact items empty

theorem served_entries (client : Client) (online : client.hasCredentials = true)
    (filters : List (Text × Json)) (server : Request → Reply) (state : σ) :
    let run := (client.entries filters : Program σ (List TimeEntry)).against server state
    (Source.entries filters).Served server client.pageBudget 1 run.exchanges run.outcome ∧
      run.state = state :=
  (Source.entries filters).served_pagesFrom fun number =>
    online ▸ sends_entryPage client filters number

/-- A listing of time entries asks for the pages up to the first one at which it can stop, once each
and in order, with the same filters and the same size, and gives their entries in order; where that
page cannot be read it fails as that page does. It ends of itself, if its budget reaches so far,
exactly when there is such a page. -/
theorem entries_paged (client : Client) (online : client.hasCredentials = true)
    (filters : List (Text × Json)) (server : Request → Reply) (state : σ) :
    let pageAt := (Source.entries filters).pageAt server
    let stops := {number | 1 ≤ number ∧ ∀ page, pageAt number = .returned page →
      page.totalPages ≤ number ∨ page.items = []}
    let asked := fun last => (List.range' 1 last).map fun number =>
      (⟨entriesRequest filters number, server (entriesRequest filters number)⟩ : Exchange)
    let entries := fun last =>
      (List.range' 1 last).flatMap ((Source.entries filters).itemsAt server)
    let run := (client.entries filters : Program σ (List TimeEntry)).against server state
    (∀ last ≤ client.pageBudget, IsLeast stops last → run.exchanges = asked last ∧
      (∀ page, pageAt last = .returned page → run.outcome = .returned (entries last)) ∧
      ∀ fault, pageAt last = .failed fault → run.outcome = .failed fault) ∧
    (∀ total ≤ client.pageBudget, 1 ≤ total →
      (∀ number, 1 ≤ number → number ≤ total → ∃ page, pageAt number = .returned page ∧
        page.totalPages = total ∧ page.items ≠ []) →
      run.exchanges = asked total ∧ run.outcome = .returned (entries total)) ∧
    (run.outcome = .spent ↔ ∀ number ∈ stops, client.pageBudget < number) ∧
    run.state = state := by
  intro pageAt stops asked entries run
  obtain ⟨served, kept⟩ := served_entries client online filters server state
  have same : (Source.entries filters).stops server = stops := stops_entries server
  have asked_eq (last : Nat) : (Source.entries filters).asked server 1 last = asked last := by
    simp only [Source.asked, request_entries, asked]
  have upTo {last : Nat} (within : last ≤ client.pageBudget) (least : IsLeast stops last) :
      run.exchanges = asked last ∧
        run.outcome = (pageAt last).map fun _ => entries last := by
    obtain ⟨exchanges, outcome⟩ := served.of_isLeast (same ▸ least) within
    exact ⟨exchanges.trans (asked_eq last), outcome⟩
  refine ⟨?stopped, ?constant, same ▸ served.spent_iff, kept⟩
  case stopped =>
    intro last within least
    obtain ⟨exchanges, outcome⟩ := upTo within least
    refine ⟨exchanges, fun page read => ?_, fun fault failed => ?_⟩
    · rw [outcome, read]
      rfl
    · rw [outcome, failed]
      rfl
  case constant =>
    intro total within first pages
    obtain ⟨exchanges, outcome⟩ := upTo within (same ▸ isLeast_stops_of_total first pages)
    obtain ⟨page, read, -⟩ := pages total first (Nat.le_refl total)
    refine ⟨exchanges, ?_⟩
    rw [outcome, read]
    rfl

end Entries

/-- A server whose total shrinks while it is read: its first page claims three pages, and all behind
that one claim two. -/
def shrinkingServer (request : Request) : Reply :=
  let page (entry total : String) : Reply :=
    Session.successWith ("\x7b\"time_entries\": [\x7b\"id\": " ++ entry
      ++ ", \"spent_date\": \"2025-01-15\", \"hours\": 1, \"project\": \x7b\"id\": 1, "
      ++ "\"name\": \"P\"\x7d, \"task\": \x7b\"id\": 2, \"name\": \"T\"\x7d\x7d], "
      ++ "\"total_pages\": " ++ total ++ "\x7d")
  if request.field? "page" = some "1".text then page "1" "3" else page "2" "2"

/-- Two pages are asked for, although the first one claims three. -/
theorem shrinkingServer_paged :
    let run := (Client.entries ⟨"t".text, "a".text, 9⟩ (Client.runningFilters 7) :
      Program Unit (List TimeEntry)).against shrinkingServer ()
    run.exchanges.length = 2 ∧
      ∃ entries, run.outcome = .returned entries ∧ entries.map (·.id) = [1, 2] := by
  intro run
  have first : ((Source.entries (Client.runningFilters 7)).pageAt shrinkingServer 1).map
      (fun page => (page.totalPages, page.items.map (·.id))) = .returned (3, [1]) := by
    decide +kernel
  have second : ((Source.entries (Client.runningFilters 7)).pageAt shrinkingServer 2).map
      (fun page => (page.totalPages, page.items.map (·.id))) = .returned (2, [2]) := by
    decide +kernel
  obtain ⟨one, readOne, shownOne⟩ := Outcome.map_eq_returned_iff.mp first
  obtain ⟨two, readTwo, shownTwo⟩ := Outcome.map_eq_returned_iff.mp second
  obtain ⟨total, ids⟩ := Prod.mk.inj shownOne
  obtain ⟨total', ids'⟩ := Prod.mk.inj shownTwo
  have least : IsLeast ((Source.entries (Client.runningFilters 7)).stops shrinkingServer) 2 := by
    refine ⟨⟨by decide, (Source.stopsAt_of_returned readTwo).mpr (Or.inl total'.le)⟩, ?_⟩
    intro number stop
    by_contra early
    obtain rfl : number = 1 := by
      have := stop.1
      omega
    rcases (Source.stopsAt_of_returned readOne).mp stop.2 with claimed | ⟨-, empty⟩
    · rw [total] at claimed
      exact absurd claimed (by decide)
    · rw [empty] at ids
      cases ids
  rw [stops_entries] at least
  obtain ⟨exchanges, gives, -⟩ := (entries_paged ⟨"t".text, "a".text, 9⟩ (by decide)
    (Client.runningFilters 7) shrinkingServer ()).1 2 (by decide) least
  refine ⟨by rw [exchanges]; rfl, _, gives two readTwo, ?_⟩
  rw [List.map_flatMap, show List.range' 1 2 = [1, 2] from rfl]
  simp only [List.flatMap_cons, List.flatMap_nil, List.append_nil,
    Source.itemsAt_of_returned readOne, Source.itemsAt_of_returned readTwo, ids, ids']
  rfl

section Empty

def Client.within (client : Client) (budget : Nat) : Client := { client with pageBudget := budget }

namespace Source

variable {source : Source α} {server : Request → Reply} {runs : Nat → Run σ β} {number : Nat}

def Valid (source : Source α) (server : Request → Reply) : Prop :=
  ∀ number, 1 ≤ number → ∃ page, source.pageAt server number = .returned page

/-- The pages without items. -/
def empties (source : Source α) (server : Request → Reply) : Set Nat :=
  {number | 1 ≤ number ∧ ∃ page, source.pageAt server number = .returned page ∧ page.items = []}

/-- The pages whose number has come up to the total that they claim. -/
def claimedLast (source : Source α) (server : Request → Reply) : Set Nat :=
  {number | 1 ≤ number ∧ ∃ page, source.pageAt server number = .returned page ∧
    page.totalPages ≤ number}

theorem empties_subset_stops (guarded : source.endsWhenEmpty = true) :
    source.empties server ⊆ source.stops server := by
  rintro number ⟨positive, page, read, empty⟩
  exact ⟨positive, (stopsAt_of_returned read).mpr (Or.inr ⟨guarded, empty⟩)⟩

/-- A listing that empty pages do not end can stop only where a page claims to be the last one. -/
theorem stops_eq_claimedLast (unguarded : source.endsWhenEmpty = false)
    (valid : source.Valid server) : source.stops server = source.claimedLast server := by
  ext number
  refine and_congr_right fun positive => ?_
  obtain ⟨page, read⟩ := valid number positive
  rw [stopsAt_of_returned read, Ends, unguarded]
  simp [read]

/-- Whether runs, one for each budget, are ended by the totals that pages claim and by nothing else:
they ask for the pages up to the first one that claims to be the last; so they halt by the first
empty page exactly if a page up to there claims it, and end at all exactly if some page does. -/
structure EndsByTotal (source : Source α) (server : Request → Reply) (runs : Nat → Run σ β) :
    Prop where
  asks : ∀ last, IsLeast (source.claimedLast server) last → ∀ budget ≥ last,
    (runs budget).exchanges = source.asked server 1 last
  halts_iff : ∀ empty, IsLeast (source.empties server) empty →
    (source.HaltsBy server runs empty ↔ ∃ number ∈ source.claimedLast server, number ≤ empty)
  ends_iff : (∃ budget, (runs budget).outcome ≠ .spent) ↔ (source.claimedLast server).Nonempty

theorem Lists.endsByTotal (lists : source.Lists server runs)
    (unguarded : source.endsWhenEmpty = false) (valid : source.Valid server) :
    source.EndsByTotal server runs := by
  have same := stops_eq_claimedLast unguarded valid
  refine ⟨?asks, fun empty _ => same ▸ lists.haltsBy_iff, ?ends⟩
  case asks =>
    intro last least budget reaches
    obtain ⟨outcome, served, -⟩ := lists budget
    exact (served.of_isLeast (same ▸ least) reaches).1
  case ends =>
    simp only [lists.ne_spent_iff, same]
    constructor
    · rintro ⟨budget, number, claimed, -⟩
      exact ⟨number, claimed⟩
    · rintro ⟨number, claimed⟩
      exact ⟨number, number, claimed, Nat.le_refl number⟩

/-- A server that always gives the same empty page has all pages, and the first one is empty. -/
theorem first_empty {reply : Reply} {page : Page α} (read : source.read reply = .returned page)
    (empty : page.items = []) :
    source.Valid (fun _ => reply) ∧ IsLeast (source.empties fun _ => reply) 1 :=
  ⟨fun _ _ => ⟨page, read⟩, ⟨Nat.le_refl 1, page, read, empty⟩, fun _ inside => inside.1⟩

/-- A listing that empty pages do not end asks such a server for more than the first page, if that
one claims more. -/
theorem Lists.not_haltsBy_first {reply : Reply} {page : Page α}
    (lists : source.Lists (fun _ => reply) runs) (unguarded : source.endsWhenEmpty = false)
    (read : source.read reply = .returned page) (claims : 1 < page.totalPages) :
    ¬ source.HaltsBy (fun _ => reply) runs 1 := by
  rw [lists.haltsBy_iff]
  rintro ⟨number, stops, within⟩
  rcases stops.2 page read with claimed | ⟨guarded, -⟩
  · omega
  · rw [unguarded] at guarded
    cases guarded

end Source

section Listings

variable [Console] (client : Client) (online : client.hasCredentials = true)
  (server : Request → Reply) (state : σ)

include online

theorem lists_entries (filters : List (Text × Json)) : (Source.entries filters).Lists server
    fun budget => ((client.within budget).entries filters :
      Program σ (List TimeEntry)).against server state :=
  fun budget => ⟨_, (served_entries (client.within budget) online filters server state).1, Iff.rfl⟩

theorem lists_managed : Source.managed.Lists server
    fun budget => ((client.within budget).managedProjects :
      Program σ (List Project)).against server state :=
  fun budget => ⟨_, (Source.managed.served_pagesFrom fun number =>
    (show (client.within budget).hasCredentials = true from online) ▸
      sends_projectPage (client.within budget) number).1, Iff.rfl⟩

theorem lists_tasks (project : Project) (bare : project.tasks.getD [] = []) :
    (Source.tasks project.id).Lists server
      fun budget => ((client.within budget).tasksOf project :
        Program σ (List TaskAssignment)).against server state := by
  intro budget
  have listed : ((client.within budget).tasksOf project : Program σ (List TaskAssignment)) =
      (pagesFrom ((client.within budget).taskPage project.id)
        (Source.tasks project.id).endsWhenEmpty budget 1).bind
          fun tasks => .done (tasks.filter (·.isActive)) := by
    unfold Client.tasksOf
    split
    · rename_i some_tasks
      rw [some_tasks] at bare
      cases bare
    · rfl
  have assured : ((client.within budget).tasksOf project : Program σ _).Assures (fun _ _ => True)
      (fun outcome past _ => ∃ items, (Source.tasks project.id).Gives budget 1 past items ∧
        outcome = items.map fun tasks => tasks.filter (·.isActive)) [] state := by
    rw [listed, assures_bind]
    refine (Source.tasks project.id).assures_pagesFrom (fun number =>
      (show (client.within budget).hasCredentials = true from online) ▸
        sends_taskPage (client.within budget) project.id number) fun exchanges outcome gives => ?_
    cases outcome <;> exact ⟨_, gives, rfl⟩
  obtain ⟨items, gives, same⟩ := assured.against server
  exact ⟨items, gives.served reply_of_mem_against, by rw [same, Outcome.map_eq_spent_iff]⟩

/-- A listing of time entries halts by the first empty page of a server, whatever the pages claim.
Those of projects and of tasks do not look whether a page is empty, and are ended by the claims
alone. -/
theorem halts_at_empty_or_by_total :
    (∀ filters empty, IsLeast ((Source.entries filters).empties server) empty →
      (Source.entries filters).HaltsBy server (fun budget =>
        ((client.within budget).entries filters : Program σ _).against server state) empty) ∧
    (Source.managed.Valid server → Source.managed.EndsByTotal server fun budget =>
      ((client.within budget).managedProjects : Program σ _).against server state) ∧
    ∀ project : Project, project.tasks.getD [] = [] → (Source.tasks project.id).Valid server →
      (Source.tasks project.id).EndsByTotal server fun budget =>
        ((client.within budget).tasksOf project : Program σ _).against server state := by
  refine ⟨fun filters empty least => ?_, fun valid => ?_, fun project bare valid => ?_⟩
  · exact (lists_entries client online server state filters).haltsBy_iff.mpr
      ⟨empty, Source.empties_subset_stops rfl least.1, Nat.le_refl empty⟩
  · exact (lists_managed client online server state).endsByTotal rfl valid
  · exact (lists_tasks client online server state project bare).endsByTotal rfl valid

end Listings

/-- A page without items that claims a total, as each of the three listings reads it. -/
def emptyPage (total : String) : Reply :=
  Session.successWith ("\x7b\"time_entries\": [], \"projects\": [], \"task_assignments\": [], "
    ++ "\"total_pages\": " ++ total ++ "\x7d")

/-- An empty page that claims to be the only one ends the listing of projects. -/
theorem emptyPage_halts : Source.managed.HaltsBy (fun _ => emptyPage "1")
    (fun budget => ((Client.within ⟨"t".text, "a".text, 9⟩ budget).managedProjects :
      Program Unit _).against (fun _ => emptyPage "1") ()) 1 := by
  have read : Source.managed.read (emptyPage "1") = .returned ⟨[], 1, 1⟩ := by decide +kernel
  obtain ⟨valid, least⟩ := Source.first_empty read rfl
  have ends := (halts_at_empty_or_by_total ⟨"t".text, "a".text, 9⟩ (by decide)
    (fun _ => emptyPage "1") ()).2.1 valid
  exact (ends.halts_iff 1 least).mpr ⟨1, ⟨Nat.le_refl 1, _, read, by decide⟩, Nat.le_refl 1⟩

/-- An empty page that claims a second one is not the last page that is asked for. -/
theorem emptyPage_overrun :
    let server := fun _ : Request => emptyPage "2"
    let managed := fun budget =>
      ((Client.within ⟨"t".text, "a".text, 9⟩ budget).managedProjects :
        Program Unit _).against server ()
    let tasks := fun budget =>
      ((Client.within ⟨"t".text, "a".text, 9⟩ budget).tasksOf ⟨5, "P".text, none, none, none⟩ :
        Program Unit _).against server ()
    (Source.managed.Valid server ∧ IsLeast (Source.managed.empties server) 1 ∧
      ¬ Source.managed.HaltsBy server managed 1) ∧
    (Source.tasks 5).Valid server ∧ IsLeast ((Source.tasks 5).empties server) 1 ∧
      ¬ (Source.tasks 5).HaltsBy server tasks 1 := by
  intro server managed tasks
  have readManaged : Source.managed.read (emptyPage "2") = .returned ⟨[], 2, 1⟩ := by
    decide +kernel
  have readTasks : (Source.tasks 5).read (emptyPage "2") = .returned ⟨[], 2, 1⟩ := by
    decide +kernel
  obtain ⟨validManaged, leastManaged⟩ := Source.first_empty readManaged rfl
  obtain ⟨validTasks, leastTasks⟩ := Source.first_empty readTasks rfl
  have listsManaged : Source.managed.Lists server managed :=
    lists_managed ⟨"t".text, "a".text, 9⟩ (by decide) server ()
  have listsTasks : (Source.tasks 5).Lists server tasks :=
    lists_tasks ⟨"t".text, "a".text, 9⟩ (by decide) server () ⟨5, "P".text, none, none, none⟩ rfl
  exact ⟨⟨validManaged, leastManaged, listsManaged.not_haltsBy_first rfl readManaged (by decide)⟩,
    validTasks, leastTasks, listsTasks.not_haltsBy_first rfl readTasks (by decide)⟩

end Empty
end TimeReports.Harvest

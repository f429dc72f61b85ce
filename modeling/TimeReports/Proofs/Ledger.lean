import TimeReports.Proofs.Grammar
import TimeReports.Proofs.Timers

set_option autoImplicit false

/- A time tracking service as its clients see it: the time entries that it keeps for a user, what it
says of them page by page, and what a request may have done to them by the time that its reply is
there. A reply may be lost after the request took effect. -/
namespace TimeReports.Harvest

/-- Which time entries are asked for. -/
structure Filter where
  first : Option Date
  last : Option Date
  runningOnly : Bool

/-- Which time entries a request asks for. -/
def Request.filter (request : Request) : Filter where
  first := (request.field? "from").bind Calendar.ofLiteral?
  last := (request.field? "to").bind Calendar.ofLiteral?
  runningOnly := request.field? "is_running" = some "true".text

def Filter.admits (filter : Filter) (entry : TimeEntry) : Bool :=
  filter.first.all (· ≤ entry.spentDate) && filter.last.all (entry.spentDate ≤ ·)
    && (!filter.runningOnly || entry.isRunning)

/-- The project, the task and the day of the entry that a request is to create, if it names them. -/
def Request.creation? (request : Request) : Option (Int × Int × Date) :=
  match request.body with
  | some (.object members) =>
    match Json.member? members "project_id".text, Json.member? members "task_id".text,
      Json.member? members "spent_date".text with
    | some (.int project), some (.int task), some (.string literal) =>
      (Calendar.ofLiteral? literal).map fun day => (project, task, day)
    | _, _, _ => none
  | _ => none

theorem creation?_creating {project task : Int} {day : Date} :
    (Client.creating project task day).creation? = some (project, task, day) := by
  change (Calendar.ofLiteral? day.iso).map (fun day => (project, task, day)) = _
  rw [Calendar.ofLiteral?_iso]
  rfl

/-- The time entries of a user as a service keeps them, and the pages on which it lists those that
are asked for. No page is empty unless there is nothing to list. -/
structure Ledger where
  entries : List TimeEntry
  pages : Filter → List (List TimeEntry)
  listed : ∀ filter, (pages filter).flatten.Perm (entries.filter filter.admits)
  filled : ∀ filter, [] ∈ pages filter → (pages filter).flatten = []

/-- The project, the task and the day of an entry. -/
def slot (entry : TimeEntry) : Int × Int × Date :=
  (entry.project.id, entry.task.id, entry.spentDate)

namespace Ledger

/-- The projects, tasks and days of the entries. -/
def slots (ledger : Ledger) : List (Int × Int × Date) := ledger.entries.map slot

/-- Whether there is at most one entry for each project, task and day. -/
def AtMostOnce (ledger : Ledger) : Prop := ledger.slots.Nodup

def onDays (first last : Date) : Filter := ⟨some first, some last, false⟩

theorem admits_onDays {first last : Date} {entry : TimeEntry} :
    (onDays first last).admits entry = true ↔
      first ≤ entry.spentDate ∧ entry.spentDate ≤ last := by
  simp [Filter.admits, onDays]

/-- Nothing is listed behind a last page that says so by its number, or that is empty. -/
theorem items_of_ends {items : List TimeEntry} {pages : List (List TimeEntry)} {index : Nat}
    (filled : [] ∈ pages → pages.flatten = []) (held : items = pages[index]?.getD [])
    (ends : pages.length ≤ index + 1 ∨ items = []) : items = (pages.drop index).flatten := by
  by_cases inside : index < pages.length
  · rw [List.getElem?_eq_getElem inside, Option.getD_some] at held
    rw [List.drop_eq_getElem_cons inside, List.flatten_cons, ← held]
    rcases ends with few | empty
    · rw [List.drop_eq_nil_of_le few, List.flatten_nil, List.append_nil]
    · have nothing : pages.flatten = [] := by
        apply filled
        rw [← empty, held]
        exact List.getElem_mem inside
      have behind : (pages.drop (index + 1)).flatten = [] := by
        rw [List.flatten_eq_nil_iff] at nothing ⊢
        intro page member
        exact nothing page (List.mem_of_mem_drop member)
      rw [behind, List.append_nil]
  · have outside : pages.length ≤ index := by omega
    rw [List.getElem?_eq_none outside, Option.getD_none] at held
    rw [List.drop_eq_nil_of_le outside, List.flatten_nil, held]

/-- A ledger that lists whatever is asked for on one page. -/
def onOnePage (entries : List TimeEntry) : Ledger where
  entries := entries
  pages filter := [entries.filter filter.admits]
  listed filter := by simp
  filled filter := by simp

variable [Console]

/-- Whether the reply to a request that reads says what there is, as far as it can be read: who the
user is, or a page of the user's entries. -/
structure Truthful (user : Int) (ledger : Ledger) (exchange : Exchange) : Prop where
  names : exchange.request.path = "/v2/users/me".text →
    ∀ found, readAs User.ofJson "user" exchange.reply = .returned found → found.id = user
  lists : exchange.request.readsEntries →
    exchange.request.field? "user_id" = some (Text.intDigits user) →
    ∀ index, exchange.request.field? "page" = some (Text.natDigits (index + 1)) →
    ∀ page, readAs Page.entries "time entry" exchange.reply = .returned page →
      page.items = (ledger.pages exchange.request.filter)[index]?.getD [] ∧
        page.totalPages = (ledger.pages exchange.request.filter).length

/-- What a request can do to the entries, whatever the reply. -/
inductive Serves (user : Int) : Ledger → Exchange → Ledger → Prop
  | reads {ledger : Ledger} {exchange : Exchange} (method : exchange.request.method = "GET".text)
    (truthful : ledger.Truthful user exchange) : Serves user ledger exchange ledger
  /-- A request that fails before it takes effect. -/
  | withoutEffect {ledger : Ledger} {exchange : Exchange}
    (method : exchange.request.method ≠ "GET".text) : Serves user ledger exchange ledger
  | creates {ledger ledger' : Ledger} {exchange : Exchange} {created : Int × Int × Date}
    (method : exchange.request.method = "POST".text)
    (path : exchange.request.path = "/v2/time_entries".text)
    (named : exchange.request.creation? = some created)
    (added : ledger'.slots.Perm (created :: ledger.slots)) : Serves user ledger exchange ledger'
  /-- A change of entries that leaves their projects, tasks and days alone. -/
  | changes {ledger ledger' : Ledger} {exchange : Exchange}
    (method : exchange.request.method = "PATCH".text) (same : ledger'.slots.Perm ledger.slots) :
    Serves user ledger exchange ledger'

/-- The ledgers that a service can have after exchanges. -/
inductive Reaches (user : Int) (first : Ledger) : List Exchange → Ledger → Prop
  | start : Reaches user first [] first
  | step {past : List Exchange} {exchange : Exchange} {ledger ledger' : Ledger}
    (reached : Reaches user first past ledger) (served : Serves user ledger exchange ledger') :
    Reaches user first (past ++ [exchange]) ledger'

section Exchanges

variable {user : Int} {first ledger ledger' : Ledger} {past listing : List Exchange}
  {exchange : Exchange}

theorem Serves.of_get (served : Serves user ledger exchange ledger')
    (method : exchange.request.method = "GET".text) :
    ledger' = ledger ∧ ledger.Truthful user exchange := by
  cases served with
  | reads _ truthful => exact ⟨rfl, truthful⟩
  | withoutEffect other => exact absurd method other
  | creates post =>
    rw [post] at method
    exact absurd method (by decide)
  | changes patch =>
    rw [patch] at method
    exact absurd method (by decide)

/-- Only the creation of an entry can make two of one. -/
theorem Serves.atMostOnce (served : Serves user ledger exchange ledger')
    (method : exchange.request.method ≠ "POST".text) (once : ledger.AtMostOnce) :
    ledger'.AtMostOnce := by
  cases served with
  | reads => exact once
  | withoutEffect => exact once
  | creates post => exact absurd post method
  | changes _ same => exact same.nodup_iff.mpr once

/-- The creation of an entry takes effect or does not, and the reply does not tell. -/
theorem Serves.of_creating {project task : Int} {day : Date} {reply : Reply}
    (served : Serves user ledger ⟨Client.creating project task day, reply⟩ ledger') :
    ledger' = ledger ∨ ledger'.slots.Perm ((project, task, day) :: ledger.slots) := by
  cases served with
  | reads => exact Or.inl rfl
  | withoutEffect => exact Or.inl rfl
  | creates method path named added =>
    rw [creation?_creating] at named
    cases named
    exact Or.inr added
  | changes method => exact absurd method (by change "POST".text ≠ "PATCH".text; decide)

theorem Reaches.eq_start (reached : Reaches user first [] ledger) : ledger = first := by
  generalize nothing : [] = past at reached
  cases reached with
  | start => rfl
  | step => simp at nothing

theorem Reaches.last (reached : Reaches user first (past ++ [exchange]) ledger') :
    ∃ ledger, Reaches user first past ledger ∧ Serves user ledger exchange ledger' := by
  generalize same : past ++ [exchange] = whole at reached
  cases reached with
  | start => simp at same
  | step reached served =>
    obtain ⟨rfl, rfl⟩ := snoc_inj same
    exact ⟨_, reached, served⟩

/-- What is read between two changes is read off one ledger. -/
theorem Reaches.through (reads : OnlyReads listing)
    (reached : Reaches user first (past ++ listing) ledger) :
    Reaches user first past ledger ∧ ∀ exchange ∈ listing, ledger.Truthful user exchange := by
  induction listing using List.reverseRecOn with
  | nil =>
    rw [List.append_nil] at reached
    exact ⟨reached, by simp⟩
  | append_singleton listing exchange ih =>
    rw [← List.append_assoc] at reached
    obtain ⟨before, earlier, served⟩ := reached.last
    have method : exchange.request.method = "GET".text :=
      reads exchange (List.mem_append_right _ (List.mem_singleton.mpr rfl))
    obtain ⟨rfl, truthful⟩ := served.of_get method
    obtain ⟨atFirst, others⟩ := ih (fun other member => reads other (List.mem_append_left _ member))
      earlier
    refine ⟨atFirst, ?_⟩
    intro other member
    rcases List.mem_append.mp member with among | same
    · exact others other among
    · rw [List.mem_singleton.mp same]
      exact truthful

theorem Reaches.truthful_of_mem (reached : Reaches user first past ledger)
    (member : exchange ∈ past) (method : exchange.request.method = "GET".text) :
    ∃ ledger, Truthful user ledger exchange := by
  induction reached with
  | start => cases member
  | step reached served ih =>
    rcases List.mem_append.mp member with among | same
    · exact ih among
    · rw [List.mem_singleton.mp same] at method ⊢
      exact ⟨_, (served.of_get method).2⟩

end Exchanges

section Listings

variable {user : Int} {first last : Date} {ledger : Ledger} {entries : List TimeEntry}
  {listing : List Exchange} {budget number index : Nat}

theorem field?_range (name : String) :
    ((Source.range first last user).request number).field? name =
      [("from".text, first.iso), ("to".text, last.iso), ("user_id".text, Text.intDigits user),
        ("page".text, Text.natDigits number), ("per_page".text, "2000".text)].lookup name.text :=
  Client.field?_readingEntries Client.whole_rangeFilters name

theorem filter_range : ((Source.range first last user).request number).filter =
    onDays first last := by
  have from_field : ((Source.range first last user).request number).field? "from" =
      some first.iso := field?_range "from"
  have to_field : ((Source.range first last user).request number).field? "to" =
      some last.iso := field?_range "to"
  have running_field : ((Source.range first last user).request number).field? "is_running" =
      none := field?_range "is_running"
  rw [Request.filter, from_field, to_field, running_field, Option.bind_some, Option.bind_some,
    Calendar.ofLiteral?_iso, Calendar.ofLiteral?_iso]
  rfl

/-- A page that a truthful reply holds is that of the ledger. -/
theorem Truthful.page {reply : Reply} {page : Page TimeEntry}
    (truthful : ledger.Truthful user ⟨(Source.range first last user).request (index + 1), reply⟩)
    (read : (Source.range first last user).read reply = .returned page) :
    page.items = (ledger.pages (onDays first last))[index]?.getD [] ∧
      page.totalPages = (ledger.pages (onDays first last)).length := by
  have page_field : ((Source.range first last user).request (index + 1)).field? "page" =
      some (Text.natDigits (index + 1)) := field?_range "page"
  have listed := truthful.lists Client.readsEntries_readingEntries Client.user_range index
    page_field page read
  dsimp only at listed
  rw [filter_range] at listed
  exact listed

/-- What a listing gives from a page on is all that the ledger has from there on. -/
theorem items_of_gives
    (gives : (Source.range first last user).Gives budget (index + 1) listing (.returned entries))
    (truthful : ∀ exchange ∈ listing, ledger.Truthful user exchange) :
    entries = ((ledger.pages (onDays first last)).drop index).flatten := by
  generalize numbered : index + 1 = number at gives
  generalize ending : Outcome.returned entries = outcome at gives
  induction gives generalizing index entries with
  | last read ends =>
    subst numbered
    cases ending
    obtain ⟨held, total⟩ := (truthful _ List.mem_cons_self).page read
    apply items_of_ends (ledger.filled _) held
    rcases ends with few | ⟨-, empty⟩
    · rw [total] at few
      exact Or.inl (by omega)
    · exact Or.inr empty
  | more read goesOn others ih =>
    rename_i page exchanges outcome
    subst numbered
    obtain ⟨held, total⟩ := (truthful _ List.mem_cons_self).page read
    have inside : index < (ledger.pages (onDays first last)).length := by
      have further : ¬ page.totalPages ≤ ((index + 1 : Nat) : Int) := fun few => goesOn (Or.inl few)
      rw [total] at further
      omega
    cases outcome with
    | returned behind =>
      cases ending
      have rest := ih (fun exchange member => truthful exchange (List.mem_cons_of_mem _ member))
        rfl rfl
      rw [List.drop_eq_getElem_cons inside, List.flatten_cons, ← rest, held,
        List.getElem?_eq_getElem inside, Option.getD_some]
    | failed fault => cases ending
    | spent => cases ending
  | unread failed => cases ending
  | spent => cases ending

/-- A listing of a day that gives no entry for a project and a task leaves room for one. -/
theorem not_mem_slots {project task : Int} {day : Date}
    (gives : (Source.range day day user).Gives budget 1 listing (.returned entries))
    (truthful : ∀ exchange ∈ listing, ledger.Truthful user exchange)
    (absent : ∀ entry ∈ entries, ¬ (entry.project.id = project ∧ entry.task.id = task)) :
    (project, task, day) ∉ ledger.slots := by
  intro taken
  obtain ⟨entry, kept, same⟩ := List.mem_map.mp taken
  obtain ⟨onProject, onTask, onDay⟩ : entry.project.id = project ∧ entry.task.id = task ∧
      entry.spentDate = day := by
    simpa [slot] using same
  have whole : entries = (ledger.pages (onDays day day)).flatten := items_of_gives gives truthful
  have admitted : (onDays day day).admits entry = true := by
    rw [admits_onDays, onDay]
    exact ⟨Nat.le_refl _, Nat.le_refl _⟩
  have listed : entry ∈ entries := by
    rw [whole, (ledger.listed _).mem_iff]
    exact List.mem_filter.mpr ⟨kept, admitted⟩
  exact absent entry listed ⟨onProject, onTask⟩

end Listings

section OnePage

deriving instance DecidableEq for TimeEntry

variable {user : Int} {first : Ledger} {past exchanges : List Exchange} {exchange : Exchange}
  {entries entries' : List TimeEntry} {states : List (List TimeEntry)}

/-- Whether a reply says what there is in a ledger of one page. -/
def tells (user : Int) (entries : List TimeEntry) (exchange : Exchange) : Bool :=
  (match readAs User.ofJson "user" exchange.reply with
    | .returned found => exchange.request.path ≠ "/v2/users/me".text || found.id = user
    | _ => true) &&
  match readAs Page.entries "time entry" exchange.reply with
  | .returned page => ¬ exchange.request.readsEntries ||
    (exchange.request.field? "page" = some "1".text &&
      page.items = entries.filter exchange.request.filter.admits && page.totalPages = 1)
  | _ => true

theorem truthful_of_tells (told : tells user entries exchange = true) :
    (onOnePage entries).Truthful user exchange := by
  obtain ⟨named, listed⟩ := Bool.and_eq_true_iff.mp told
  constructor
  · intro path found read
    rw [read] at named
    simpa [path] using named
  · intro reads _ index numbered page read
    rw [read] at listed
    simp only [reads, not_true_eq_false, decide_false, Bool.false_or, Bool.and_eq_true,
      decide_eq_true_eq] at listed
    obtain ⟨⟨one, items⟩, total⟩ := listed
    rw [numbered] at one
    have only : index + 1 = 1 := Text.natDigits_inj.mp (Option.some.inj one)
    obtain rfl : index = 0 := by omega
    exact ⟨items, total⟩

/-- Whether a ledger of one page can go over to another one with an exchange. -/
def goesTo (user : Int) (entries : List TimeEntry) (exchange : Exchange)
    (entries' : List TimeEntry) : Bool :=
  if exchange.request.method = "GET".text then tells user entries exchange && entries' = entries
  else entries' = entries ||
    (exchange.request.method = "POST".text && exchange.request.path = "/v2/time_entries".text &&
      exchange.request.creation?.map (· :: entries.map slot) = some (entries'.map slot))

theorem serves_of_goesTo (goes : goesTo user entries exchange entries' = true) :
    Serves user (onOnePage entries) exchange (onOnePage entries') := by
  unfold goesTo at goes
  split at goes
  · rename_i method
    simp only [Bool.and_eq_true, decide_eq_true_eq] at goes
    rw [goes.2]
    exact .reads method (truthful_of_tells goes.1)
  · rename_i method
    simp only [Bool.or_eq_true, Bool.and_eq_true, decide_eq_true_eq] at goes
    rcases goes with same | ⟨⟨post, path⟩, named⟩
    · rw [same]
      exact .withoutEffect method
    · obtain ⟨created, creation, slots⟩ := Option.map_eq_some_iff.mp named
      have added : (onOnePage entries').slots = created :: (onOnePage entries).slots := slots.symm
      exact .creates post path creation (.of_eq added)

/-- Whether a ledger of one page can go through states with exchanges. -/
def goesThrough (user : Int) : List TimeEntry → List Exchange → List (List TimeEntry) → Bool
  | _, [], [] => true
  | entries, exchange :: exchanges, next :: states =>
    goesTo user entries exchange next && goesThrough user next exchanges states
  | _, _, _ => false

theorem Reaches.goesThrough (reached : Reaches user first past (onOnePage entries))
    (through : goesThrough user entries exchanges states = true) :
    Reaches user first (past ++ exchanges) (onOnePage (states.getLastD entries)) := by
  induction exchanges generalizing past entries states with
  | nil =>
    cases states with
    | nil =>
      rw [List.append_nil]
      exact reached
    | cons next states => cases through
  | cons exchange exchanges ih =>
    cases states with
    | nil => cases through
    | cons next states =>
      obtain ⟨goes, others⟩ := Bool.and_eq_true_iff.mp through
      have there := ih (reached.step (serves_of_goesTo goes)) others
      rw [List.append_assoc] at there
      rw [List.getLastD_cons]
      exact there

end OnePage

end Ledger
end TimeReports.Harvest

import Mathlib.Order.Bounds.Basic
import Mathlib.Order.Nat
import TimeReports.Proofs.Listings

set_option autoImplicit false

namespace TimeReports

variable {σ α β : Type}

deriving instance DecidableEq for Outcome

namespace Outcome

variable {change : α → β} {outcome : Outcome α}

theorem map_eq_returned_iff {value : β} :
    outcome.map change = .returned value ↔ ∃ first, outcome = .returned first ∧
      change first = value := by
  cases outcome <;> simp [Outcome.map]

theorem map_eq_spent_iff : outcome.map change = .spent ↔ outcome = .spent := by
  cases outcome <;> simp [Outcome.map]

end Outcome

namespace Program

/-- Runs a program against a server. No replies are left over, since none were laid out. -/
def against (server : Harvest.Request → Harvest.Reply) : Program σ α → σ → Run σ α
  | done value, state => ⟨.returned value, state, [], []⟩
  | fail fault, state => ⟨.failed fault, state, [], []⟩
  | spent, state => ⟨.spent, state, [], []⟩
  | look next, state => (next state).against server state
  | put state next, _ => next.against server state
  | tell notice next, state => (next.against server state).after (.noticed notice)
  | ask request next, state =>
    ((next (server request)).against server state).after (.exchanged request (server request))

variable {server : Harvest.Request → Harvest.Reply}

/-- A run against a server is the run against the replies that it gave. -/
theorem run_against (program : Program σ α) (state : σ) :
    program.run state ((program.against server state).exchanges.map (·.reply)) =
      program.against server state := by
  induction program generalizing state with
  | done value => rfl
  | fail fault => rfl
  | spent => rfl
  | look next ih => exact ih state state
  | put changed next ih => exact ih changed
  | tell notice next ih => exact congrArg (Run.after (.noticed notice)) (ih state)
  | ask request next ih =>
    exact congrArg (Run.after (.exchanged request (server request))) (ih (server request) state)

theorem reply_of_mem_against {program : Program σ α} {state : σ} :
    ∀ exchange ∈ (program.against server state).exchanges,
      exchange.reply = server exchange.request := by
  induction program generalizing state with
  | done value => nofun
  | fail fault => nofun
  | spent => nofun
  | look next ih => exact ih state
  | put changed next ih => exact ih
  | tell notice next ih => exact ih
  | ask request next ih => exact List.forall_mem_cons.mpr ⟨rfl, ih (server request)⟩

/-- What a program assures of its end holds at the end of a run against a server. -/
theorem Assures.against {holds : List Exchange → σ → Prop}
    {post : Outcome α → List Exchange → σ → Prop} {program : Program σ α} {state : σ}
    (assured : program.Assures holds post [] state) (server : Harvest.Request → Harvest.Reply) :
    post (program.against server state).outcome (program.against server state).exchanges
      (program.against server state).state := by
  have ended := assured.run ((program.against server state).exchanges.map (·.reply))
  rw [run_against, List.nil_append] at ended
  exact ended

end Program

namespace Harvest.Source

open Program

variable {source : Source α} {server : Request → Reply} {budget number last : Nat}
  {exchanges : List Exchange} {outcome : Outcome (List α)}

/-- What a server has as the page of a number: the page, or the fault in its place. -/
def pageAt (source : Source α) (server : Request → Reply) (number : Nat) : Outcome (Page α) :=
  source.read (server (source.request number))

/-- Where the requests for different pages differ, a server may have anything as the page of each
number. -/
theorem exists_server (apart : Function.Injective source.request) (answers : Nat → Reply) :
    ∃ server : Request → Reply, ∀ number, server (source.request number) = answers number :=
  ⟨Function.extend source.request answers fun _ => notFound, apart.extend_apply answers _⟩

/-- The items of the page of a number; a page that cannot be read has none. -/
def itemsAt (source : Source α) (server : Request → Reply) (number : Nat) : List α :=
  match source.pageAt server number with
  | .returned page => page.items
  | _ => []

/-- Whether a listing stops at the page of a number: it cannot be read, or it is the last one. -/
def StopsAt (source : Source α) (server : Request → Reply) (number : Nat) : Prop :=
  ∀ page, source.pageAt server number = .returned page → source.Ends page number

/-- The pages at which a listing can stop. -/
def stops (source : Source α) (server : Request → Reply) : Set Nat :=
  {number | 1 ≤ number ∧ source.StopsAt server number}

/-- So many pages from the one of a number on, as they are asked for. -/
def asked (source : Source α) (server : Request → Reply) (number count : Nat) : List Exchange :=
  (List.range' number count).map fun number =>
    ⟨source.request number, server (source.request number)⟩

/-- The items of so many pages from the one of a number on, in order. -/
def itemsOf (source : Source α) (server : Request → Reply) (number count : Nat) : List α :=
  (List.range' number count).flatMap (source.itemsAt server)

theorem itemsAt_of_returned {page : Page α} (read : source.pageAt server number = .returned page) :
    source.itemsAt server number = page.items := by
  rw [itemsAt, read]

theorem stopsAt_of_returned {page : Page α} (read : source.pageAt server number = .returned page) :
    source.StopsAt server number ↔ source.Ends page number := by
  refine ⟨fun stops => stops page read, fun ends other read' => ?_⟩
  rw [read] at read'
  cases read'
  exact ends

theorem stopsAt_of_failed {fault : Fault} (failed : source.pageAt server number = .failed fault) :
    source.StopsAt server number := by
  intro page read
  rw [failed] at read
  cases read

/-- What a listing of a server comes to from the page of a number on: it stops at the first page at
which it can, or it spends its budget before. -/
inductive Served (source : Source α) (server : Request → Reply) (budget number : Nat) :
    List Exchange → Outcome (List α) → Prop
  | stopped {count : Nat} (within : count < budget)
    (before : ∀ offset < count, ¬ source.StopsAt server (number + offset))
    (stops : source.StopsAt server (number + count)) :
    Served source server budget number (source.asked server number (count + 1))
      ((source.pageAt server (number + count)).map fun _ =>
        source.itemsOf server number (count + 1))
  | spent (goesOn : ∀ offset < budget, ¬ source.StopsAt server (number + offset)) :
    Served source server budget number (source.asked server number budget) .spent

/-- A listing that goes on behind a page comes to what the pages behind it come to. -/
theorem Served.cons {page : Page α} (read : source.pageAt server number = .returned page)
    (goesOn : ¬ source.Ends page number)
    (served : source.Served server budget (number + 1) exchanges outcome) :
    source.Served server (budget + 1) number
      (⟨source.request number, server (source.request number)⟩ :: exchanges)
      (outcome.map (page.items ++ ·)) := by
  have first : ¬ source.StopsAt server number := (stopsAt_of_returned read).not.mpr goesOn
  have shifted {count : Nat} (before : ∀ offset < count,
      ¬ source.StopsAt server (number + 1 + offset)) :
      ∀ offset < count + 1, ¬ source.StopsAt server (number + offset) := by
    intro offset below
    cases offset with
    | zero => exact first
    | succ offset =>
      rw [← Nat.succ_add_eq_add_succ]
      exact before offset (Nat.lt_of_succ_lt_succ below)
  cases served with
  | @stopped count within before stops =>
    rw [Nat.add_assoc, Nat.add_comm 1] at stops ⊢
    have whole := Served.stopped (Nat.succ_lt_succ within) (shifted before) stops
    have items : source.itemsOf server number (count + 1 + 1) =
        page.items ++ source.itemsOf server (number + 1) (count + 1) := by
      rw [itemsOf, List.range'_succ, List.flatMap_cons, itemsAt_of_returned read]
      rfl
    rw [items] at whole
    cases ending : source.pageAt server (number + (count + 1)) <;>
      rw [ending] at whole <;> exact whole
  | spent goesOn => exact .spent (shifted goesOn)

theorem Gives.served (gives : source.Gives budget number exchanges outcome)
    (replied : ∀ exchange ∈ exchanges, exchange.reply = server exchange.request) :
    source.Served server budget number exchanges outcome := by
  -- Each reply is the server's, so each page that was read is the one it has of that number.
  induction gives with
  | @last budget number reply page read ends =>
    obtain rfl : reply = server (source.request number) := replied _ List.mem_cons_self
    have here : source.pageAt server number = .returned page := read
    have served := Served.stopped (Nat.succ_pos budget) nofun ((stopsAt_of_returned here).mpr ends)
    rw [Nat.add_zero number, here, itemsOf, List.range'_one, List.flatMap_singleton,
      itemsAt_of_returned here] at served
    exact served
  | @more budget number reply page exchanges outcome read goesOn others ih =>
    obtain rfl : reply = server (source.request number) := replied _ List.mem_cons_self
    exact (ih fun exchange behind => replied exchange (List.mem_cons_of_mem _ behind)).cons read
      goesOn
  | @unread budget number reply fault failed =>
    obtain rfl : reply = server (source.request number) := replied _ List.mem_cons_self
    have here : source.pageAt server number = .failed fault := failed
    have served := Served.stopped (Nat.succ_pos budget) nofun (stopsAt_of_failed here)
    rw [Nat.add_zero number, here] at served
    exact served
  | spent => exact .spent nofun

theorem mem_stops_of_served {count : Nat}
    (before : ∀ offset < count, ¬ source.StopsAt server (1 + offset))
    (number : Nat) (stops : number ∈ source.stops server) : 1 + count ≤ number := by
  by_contra early
  obtain ⟨offset, rfl⟩ := Nat.exists_eq_add_of_le stops.1
  exact before offset (by omega) stops.2

/-- A listing from the first page on stops at the first page at which it can. -/
theorem Served.of_isLeast (served : source.Served server budget 1 exchanges outcome)
    (least : IsLeast (source.stops server) last) (within : last ≤ budget) :
    exchanges = source.asked server 1 last ∧
      outcome = (source.pageAt server last).map fun _ => source.itemsOf server 1 last := by
  cases served with
  | @stopped count _ before stops =>
    have first : IsLeast (source.stops server) (1 + count) :=
      ⟨⟨Nat.le_add_right 1 count, stops⟩, mem_stops_of_served before⟩
    obtain rfl := first.unique least
    rw [Nat.add_comm 1]
    exact ⟨rfl, rfl⟩
  | spent goesOn =>
    have behind := mem_stops_of_served goesOn last least.1
    omega

/-- A listing that cannot stop within its budget spends it. -/
theorem Served.of_forall_lt (served : source.Served server budget 1 exchanges outcome)
    (late : ∀ number ∈ source.stops server, budget < number) :
    exchanges = source.asked server 1 budget ∧ outcome = .spent := by
  cases served with
  | @stopped count within before stops =>
    have behind := late (1 + count) ⟨Nat.le_add_right 1 count, stops⟩
    omega
  | spent goesOn => exact ⟨rfl, rfl⟩

/-- A listing spends its budget exactly if it can stop at no page within it. -/
theorem Served.spent_iff (served : source.Served server budget 1 exchanges outcome) :
    outcome = .spent ↔ ∀ number ∈ source.stops server, budget < number := by
  refine ⟨fun spent => ?_, fun late => (served.of_forall_lt late).2⟩
  cases served with
  | @stopped count within before stops =>
    have read : source.pageAt server (1 + count) ≠ .spent := source.read_ne_spent _
    exact absurd (Outcome.map_eq_spent_iff.mp spent) read
  | spent goesOn =>
    intro number stop
    exact Nat.one_add_le_iff.mp (mem_stops_of_served goesOn number stop)

/-- A listing whose page requests are answered by a server comes to what the server has, and leaves
the state alone. -/
theorem served_pagesFrom {page : Nat → Program σ (Page α)} {state : σ}
    (sends : ∀ number, Sends true (source.request number) source.read (page number)) :
    let run := (pagesFrom page source.endsWhenEmpty budget 1).against server state
    source.Served server budget 1 run.exchanges run.outcome ∧ run.state = state := by
  intro run
  have assured : (pagesFrom page source.endsWhenEmpty budget 1).Assures (fun _ _ => True)
      (fun outcome past after => source.Gives budget 1 past outcome ∧ after = state) [] state :=
    source.assures_pagesFrom sends fun exchanges outcome gives => ⟨gives, rfl⟩
  obtain ⟨gives, kept⟩ := assured.against server
  exact ⟨gives.served reply_of_mem_against, kept⟩

section Halting

variable {runs : Nat → Run σ β}

/-- Whether runs, one for each budget, are those of a listing of a server, whatever is made of the
items in the end. -/
def Lists (source : Source α) (server : Request → Reply) (runs : Nat → Run σ β) : Prop :=
  ∀ budget, ∃ outcome, source.Served server budget 1 (runs budget).exchanges outcome ∧
    ((runs budget).outcome = .spent ↔ outcome = .spent)

/-- Whether runs, one for each budget, ask for no page behind that of a number, and end of
themselves once their budget reaches so far. -/
def HaltsBy (source : Source α) (server : Request → Reply) (runs : Nat → Run σ β) (number : Nat) :
    Prop :=
  ∀ budget, (∃ count ≤ number, (runs budget).exchanges = source.asked server 1 count) ∧
    (number ≤ budget → (runs budget).outcome ≠ .spent)

/-- A listing of a server ends of itself exactly if there is a page at which it can stop and its
budget reaches there. -/
theorem Lists.ne_spent_iff (lists : source.Lists server runs) :
    (runs budget).outcome ≠ .spent ↔ ∃ number ∈ source.stops server, number ≤ budget := by
  obtain ⟨outcome, served, same⟩ := lists budget
  rw [Ne, same, served.spent_iff]
  push Not
  rfl

/-- A listing of a server halts by a page exactly if it can stop there or before. -/
theorem Lists.haltsBy_iff (lists : source.Lists server runs) :
    source.HaltsBy server runs number ↔ ∃ stop ∈ source.stops server, stop ≤ number := by
  constructor
  · intro halts
    exact lists.ne_spent_iff.mp ((halts number).2 (Nat.le_refl number))
  · rintro ⟨stop, stops, within⟩ budget
    classical
    have least := Set.Nonempty.isLeast_natFind ⟨stop, stops⟩
    have first := (least.2 stops).trans within
    refine ⟨?_, fun reaches => lists.ne_spent_iff.mpr ⟨stop, stops, within.trans reaches⟩⟩
    obtain ⟨outcome, served, -⟩ := lists budget
    by_cases reaches : Nat.find ⟨stop, stops⟩ ≤ budget
    · exact ⟨_, first, (served.of_isLeast least reaches).1⟩
    · have late : ∀ number ∈ source.stops server, budget < number :=
        fun number stops => Nat.lt_of_lt_of_le (Nat.lt_of_not_le reaches) (least.2 stops)
      exact ⟨budget, by omega, (served.of_forall_lt late).1⟩

end Halting

end Harvest.Source
end TimeReports

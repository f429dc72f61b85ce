import TimeReports.Proofs.Requests

set_option autoImplicit false

namespace TimeReports

/-- Whether a program ended without a value. -/
def Outcome.Breaks {α : Type} : Outcome α → Prop
  | .returned _ => False
  | _ => True

theorem Program.thenPost_of_breaks {σ α β : Type} {holds : List Exchange → σ → Prop}
    {post : Outcome β → List Exchange → σ → Prop} {next : α → Program σ β} {outcome : Outcome α}
    {past : List Exchange} {state : σ} (breaks : outcome.Breaks)
    (wanted : ∀ outcome, outcome.Breaks → post outcome past state) :
    thenPost holds post next outcome past state := by
  cases outcome with
  | returned value => exact breaks.elim
  | failed fault => exact wanted _ trivial
  | spent => exact wanted _ trivial

namespace Harvest

open Program

theorem snoc_inj {α : Type} {front back : List α} {first last : α}
    (same : front ++ [first] = back ++ [last]) : front = back ∧ first = last :=
  (List.append_inj' same rfl).imp id List.singleton_inj.mp

/-- A kind of listing: what the request for a page asks for, what a reply says of the page, and
whether a page without items is the last one. -/
structure Listing (α : Type) where
  subject : Option Text → Subject
  subject_inj : ∀ {first second}, subject first = subject second → first = second
  read : Reply → Outcome (Page α)
  endsWhenEmpty : Bool

namespace Listing

variable {α σ : Type} {listing : Listing α} {number : Nat} {before segment : List Exchange}
  {items : List α} {exchange : Exchange}

def Asks (listing : Listing α) (number : Nat) (request : Request) : Prop :=
  request.subject = listing.subject (some (Text.natDigits number))

def IsLast (listing : Listing α) (page : Page α) (number : Nat) : Prop :=
  page.totalPages ≤ number ∨ listing.endsWhenEmpty = true ∧ page.items = []

/-- The exchanges for the first pages of a listing, all of them received and with more to come, and
the items on them. -/
inductive Begun (listing : Listing α) : Nat → List Exchange → List α → Prop
  | start : Begun listing 0 [] []
  | more {number : Nat} {segment : List Exchange} {items : List α} {request : Request}
    {reply : Reply} {page : Page α} (begun : Begun listing number segment items)
    (asked : listing.Asks (number + 1) request) (read : listing.read reply = .returned page)
    (goesOn : ¬ listing.IsLast page (number + 1)) :
    Begun listing (number + 1) (segment ++ [⟨request, reply⟩]) (items ++ page.items)

/-- The exchanges for all pages of a listing, and the items on them. -/
inductive Received (listing : Listing α) : List Exchange → List α → Prop
  | last {number : Nat} {segment : List Exchange} {items : List α} {request : Request}
    {reply : Reply} {page : Page α} (begun : listing.Begun number segment items)
    (asked : listing.Asks (number + 1) request) (read : listing.read reply = .returned page)
    (ends : listing.IsLast page (number + 1)) :
    Received listing (segment ++ [⟨request, reply⟩]) (items ++ page.items)

/-- Whether an exchange gives the last page of a listing. -/
def Closes (listing : Listing α) (exchange : Exchange) : Prop :=
  ∃ number page, listing.Asks number exchange.request ∧
    listing.read exchange.reply = .returned page ∧ listing.IsLast page number

theorem Asks.unique {request : Request} {first second : Nat} (one : listing.Asks first request)
    (other : listing.Asks second request) : first = second :=
  Text.natDigits_inj.mp (Option.some.inj (listing.subject_inj (one.symm.trans other)))

theorem Received.closes {past : List Exchange} (received : listing.Received segment items)
    (split : past ++ [exchange] = before ++ segment) : listing.Closes exchange := by
  cases received with
  | last begun asked read ends =>
    rw [← List.append_assoc] at split
    obtain ⟨-, rfl⟩ := snoc_inj split
    exact ⟨_, _, asked, read, ends⟩

theorem not_closes_of_breaks (broken : (listing.read exchange.reply).Breaks) :
    ¬ listing.Closes exchange := by
  rintro ⟨number, page, -, read, -⟩
  rw [read] at broken
  exact broken

theorem not_closes_of_more {page : Page α} (asked : listing.Asks number exchange.request)
    (read : listing.read exchange.reply = .returned page) (goesOn : ¬ listing.IsLast page number) :
    ¬ listing.Closes exchange := by
  rintro ⟨other, last, otherAsked, otherRead, ends⟩
  rw [read] at otherRead
  cases otherRead
  exact goesOn (asked.unique otherAsked ▸ ends)

theorem not_closes_of_subject
    (other : ∀ page, exchange.request.subject ≠ listing.subject page) :
    ¬ listing.Closes exchange :=
  fun ⟨_, _, asked, _⟩ => other _ asked

theorem Begun.of_mem (begun : listing.Begun number segment items) (inside : exchange ∈ segment) :
    (∃ number, listing.Asks number exchange.request) ∧ ¬ listing.Closes exchange := by
  induction begun with
  | start => cases inside
  | more begun asked read goesOn ih =>
    rcases List.mem_append.mp inside with inside | last
    · exact ih inside
    · obtain rfl := List.mem_singleton.mp last
      exact ⟨⟨_, asked⟩, not_closes_of_more asked read goesOn⟩

theorem Received.of_mem (received : listing.Received segment items) (inside : exchange ∈ segment) :
    ∃ number, listing.Asks number exchange.request := by
  cases received with
  | last begun asked read ends =>
    rcases List.mem_append.mp inside with inside | last
    · exact (begun.of_mem inside).1
    · obtain rfl := List.mem_singleton.mp last
      exact ⟨_, asked⟩

theorem Begun.unique {before' segment' : List Exchange} {items' : List α}
    (one : listing.Begun number segment items) (other : listing.Begun number segment' items')
    (same : before ++ segment = before' ++ segment') :
    before = before' ∧ segment = segment' ∧ items = items' := by
  induction one generalizing segment' items' with
  | start =>
    cases other
    exact ⟨by simpa using same, rfl, rfl⟩
  | more begun asked read goesOn ih =>
    cases other with
    | more begun' asked' read' goesOn' =>
      rw [← List.append_assoc, ← List.append_assoc] at same
      obtain ⟨front, last⟩ := snoc_inj same
      cases last
      obtain ⟨rfl, rfl, rfl⟩ := ih begun' front
      rw [read] at read'
      cases read'
      exact ⟨rfl, rfl, rfl⟩

/-- Exchanges end with at most one listing of a kind. -/
theorem Received.unique {before' segment' : List Exchange} {items' : List α}
    (one : listing.Received segment items) (other : listing.Received segment' items')
    (same : before ++ segment = before' ++ segment') :
    before = before' ∧ segment = segment' ∧ items = items' := by
  cases one with
  | last begun asked read ends =>
    cases other with
    | last begun' asked' read' ends' =>
      rw [← List.append_assoc, ← List.append_assoc] at same
      obtain ⟨front, last⟩ := snoc_inj same
      cases last
      cases asked.unique asked'
      obtain ⟨rfl, rfl, rfl⟩ := begun.unique begun' front
      rw [read] at read'
      cases read'
      exact ⟨rfl, rfl, rfl⟩

/-- What is wanted at each point at which a listing can stand, for it to assure `post`. -/
structure Handled (listing : Listing α) (holds : List Exchange → σ → Prop)
    (post : Outcome (List α) → List Exchange → σ → Prop) (past : List Exchange) (state : σ) :
    Prop where
  asking : ∀ {number segment items}, listing.Begun number segment items →
    holds (past ++ segment) state
  received : ∀ {segment items}, listing.Received segment items →
    post (.returned items) (past ++ segment) state
  broken : ∀ {number segment items exchange}, listing.Begun number segment items →
    listing.Asks (number + 1) exchange.request → (listing.read exchange.reply).Breaks →
      ∀ outcome, outcome.Breaks → post outcome (past ++ (segment ++ [exchange])) state
  spent : ∀ {number segment items}, listing.Begun number segment items →
    post .spent (past ++ segment) state

variable {credentials : Bool} {holds : List Exchange → σ → Prop}
  {post : Outcome (List α) → List Exchange → σ → Prop} {past : List Exchange} {state : σ}
  {request : Nat → Request} {page : Nat → Program σ (Page α)}

theorem isLast_iff {page : Page α} :
    (page.totalPages ≤ number || (listing.endsWhenEmpty && page.items.isEmpty)) = true ↔
      listing.IsLast page number := by
  simp [IsLast]

/-- The pages from a number on, behind those that have been received. -/
theorem Handled.assures_pagesFrom (handled : listing.Handled holds post past state)
    (sends : ∀ number, Sends true (request number) listing.read (page number))
    (asks : ∀ number, listing.Asks number (request number)) (budget : Nat)
    (begun : listing.Begun number segment items) :
    (pagesFrom page listing.endsWhenEmpty budget (number + 1)).Assures holds
      (thenPost holds post fun others => done (items ++ others)) (past ++ segment) state := by
  induction budget generalizing number segment items with
  | zero => exact handled.spent begun
  | succ budget ih =>
    rw [pagesFrom, bind_eq, assures_bind, sends (number + 1), if_pos rfl]
    refine ⟨handled.asking begun, fun reply => ?_⟩
    rw [List.append_assoc]
    cases read : listing.read reply with
    | failed fault => exact handled.broken begun (asks _) (by rw [read]; trivial) _ trivial
    | spent => exact handled.broken begun (asks _) (by rw [read]; trivial) _ trivial
    | returned page =>
      dsimp only [thenPost]
      split
      · next ends => exact handled.received (.last begun (asks _) read (isLast_iff.mp ends))
      · next goesOn =>
        rw [bind_eq, assures_bind]
        have further := ih (.more begun (asks _) read fun last => goesOn (isLast_iff.mpr last))
        refine further.imp fun outcome past state wanted => ?_
        cases outcome with
        | returned others => simpa [thenPost] using wanted
        | failed fault => exact wanted
        | spent => exact wanted

/-- A listing from its first page on. Without credentials it breaks off at once. -/
theorem assures_pages (listing : Listing α) {post : Outcome (List α) → List Exchange → σ → Prop}
    (sends : ∀ number, Sends credentials (request number) listing.read
      (page number)) (asks : ∀ number, listing.Asks number (request number))
    (online : credentials = true → listing.Handled holds post past state)
    (offline : credentials = false → ∀ outcome, outcome.Breaks → post outcome past state)
    (budget : Nat) :
    (pagesFrom page listing.endsWhenEmpty budget 1).Assures holds post past state := by
  cases credentials with
  | true =>
    have behind := (online rfl).assures_pagesFrom sends asks budget .start
    rw [List.append_nil] at behind
    refine behind.imp fun outcome past state wanted => ?_
    cases outcome <;> exact wanted
  | false =>
    cases budget with
    | zero => exact offline rfl _ trivial
    | succ budget =>
      rw [pagesFrom, bind_eq, assures_bind, sends 1]
      exact offline rfl _ trivial

end Listing

/-- A listing keeps what each of its exchanges keeps. -/
theorem assures_pages_kept {α σ : Type} {credentials : Bool} {holds : List Exchange → σ → Prop}
    {post : Outcome (List α) → List Exchange → σ → Prop} {past : List Exchange} {state : σ}
    {request : Nat → Request} {page : Nat → Program σ (Page α)} {read : Reply → Outcome (Page α)}
    (Kept : List Exchange → Prop)
    (sends : ∀ number, Sends credentials (request number) read (page number))
    (goesOn : ∀ {past} number reply, credentials = true → Kept past →
      Kept (past ++ [⟨request number, reply⟩]))
    (asking : ∀ {past}, credentials = true → Kept past → holds past state)
    (ends : ∀ {past} outcome, Kept past → post outcome past state) (endsWhenEmpty : Bool)
    (budget number : Nat) (kept : Kept past) :
    (pagesFrom page endsWhenEmpty budget number).Assures holds post past state := by
  induction budget generalizing number past post with
  | zero => exact ends _ kept
  | succ budget ih =>
    rw [pagesFrom, bind_eq, assures_bind, sends number]
    split
    · next online =>
      refine ⟨asking online kept, fun reply => ?_⟩
      have keptOn := goesOn number reply online kept
      cases read reply with
      | failed fault => exact ends _ keptOn
      | spent => exact ends _ keptOn
      | returned page =>
        dsimp only [thenPost]
        split
        · exact ends _ keptOn
        · rw [bind_eq, assures_bind]
          refine ih (fun outcome kept => ?_) _ keptOn
          cases outcome <;> exact ends _ kept
    · exact ends _ kept

end Harvest
end TimeReports

import TimeReports.Proofs.Ownership

set_option autoImplicit false

namespace TimeReports.Service

open Harvest (Reply)
open Program (bind_eq pure_eq)

variable {serverKey : Text} {incoming : Incoming} {stamp : Stamp} {today : Date} {answer : Answer}

/-- The paths that a key is needed for are all below this one. -/
def guardedPath : Text := "/v1/".text

/-- A request that needs the key of the service and does not carry it: there is none, or the header
with the key is missing or differs. -/
def Unauthorised (serverKey : Text) (incoming : Incoming) : Prop :=
  guardedPath <+: incoming.path ∧
    (serverKey = [] ∨ incoming.header? "x-api-key" ≠ some serverKey)

instance (serverKey : Text) (incoming : Incoming) : Decidable (Unauthorised serverKey incoming) :=
  inferInstanceAs (Decidable (_ ∧ _))

def Answer.Succeeds (answer : Answer) : Prop := 200 ≤ answer.status ∧ answer.status < 300

instance (answer : Answer) : Decidable answer.Succeeds := inferInstanceAs (Decidable (_ ∧ _))

/-- A program that answers at once, without success. -/
def Rejects (program : Program Service Answer) : Prop :=
  ∃ answer : Answer, ¬ answer.Succeeds ∧ program = .done answer

theorem checkKey_ne_right (unauthorised : Unauthorised serverKey incoming) :
    checkKey serverKey incoming ≠ .right := by
  intro right
  unfold checkKey at right
  split at right
  · cases right
  · next key carried =>
    split at right
    · cases right
    · next some_key =>
      split at right
      · cases right
      · split at right
        · next same =>
          rcases unauthorised.2 with rfl | differs
          · exact some_key rfl
          · exact differs (carried.trans (congrArg some same))
        · cases right

theorem eq_withoutLineFeed (path : Text) :
    path = Text.withoutLineFeed path ∨ path = Text.withoutLineFeed path ++ [.char '\n'] := by
  unfold Text.withoutLineFeed
  split
  · next last => exact Or.inr (List.dropLast_append_getLast? _ last).symm
  · exact Or.inl rfl

theorem ofPath?_eq_some {path : Text} {route : Route} (found : Route.ofPath? path = some route) :
    (Text.withoutLineFeed path, route) ∈ fixedPaths ∨ ∃ project, route = .tasks project := by
  unfold Route.ofPath? at found
  dsimp only at found
  split at found
  · next fixed =>
    cases found
    obtain ⟨before, behind, split_eq, -⟩ := List.lookup_eq_some_iff.mp fixed
    exact Or.inl (by simp [split_eq])
  · split at found
    · split at found
      · cases found
        exact Or.inr ⟨_, rfl⟩
      · cases found
    · cases found

/-- What is open to everyone is not below the guarded path. -/
theorem guarded_of_find {route : Route} (below : guardedPath <+: incoming.path)
    (found : Route.find incoming = .ok route) : route ≠ .health ∧ route ≠ .description := by
  have placed : Route.ofPath? incoming.path = some route := by
    unfold Route.find at found
    dsimp only at found
    split at found
    · next other placed =>
      split at found
      · cases found
        exact placed
      · cases found
    · split at found <;> cases found
  have outside : ∀ entry ∈ fixedPaths, entry.2 = .health ∨ entry.2 = .description →
      ¬ guardedPath <+: entry.1 ∧ ¬ guardedPath <+: entry.1 ++ [.char '\n'] := by decide
  rw [← not_or]
  intro isOpen
  rcases ofPath?_eq_some placed with fixed | ⟨project, rfl⟩
  · obtain ⟨apart, apart'⟩ := outside _ fixed isOpen
    rcases eq_withoutLineFeed incoming.path with same | same
    · exact apart (same ▸ below)
    · exact apart' (same ▸ below)
  · rcases isOpen with impossible | impossible <;> cases impossible

theorem not_succeeds_of_find (unplaced : Route.find incoming = .error answer) :
    ¬ answer.Succeeds := by
  unfold Route.find at unplaced
  dsimp only at unplaced
  split at unplaced
  · split at unplaced
    · cases unplaced
    · cases unplaced
      decide
  · split at unplaced
    · cases unplaced
      exact fun succeeds => absurd succeeds.2 (by simp [Answer.status])
    · cases unplaced
      decide

/-- A body that is not read is refused, or known to be unreadable. -/
theorem cases_of_readBody (unread : readBody incoming = .error answer) :
    answer = .unreadableBody ∨ ∃ faults, answer = .refused faults := by
  unfold readBody at unread
  split at unread
  · cases unread
  · split at unread
    · cases unread
    · split at unread
      · cases unread
      · cases unread
      · cases unread
        exact .inr ⟨_, rfl⟩
      · cases unread
        exact .inl rfl

theorem not_succeeds_refused (faults : List Record.Fault) : ¬ (Answer.refused faults).Succeeds :=
  fun succeeds => absurd succeeds.2 (by simp [Answer.status])

theorem not_succeeds_of_readBody (unread : readBody incoming = .error answer) :
    ¬ answer.Succeeds := by
  rcases cases_of_readBody unread with rfl | ⟨faults, rfl⟩
  · decide
  · exact not_succeeds_refused faults

theorem not_succeeds_showing (body : Body) (rejected : ¬ answer.Succeeds) :
    ¬ (showing body answer).Succeeds := by
  unfold showing
  split
  · split
    · exact rejected
    · decide
  · exact rejected

theorem not_succeeds_sendable (rejected : ¬ answer.Succeeds) : ¬ (sendable answer).Succeeds := by
  unfold sendable
  split
  · split
    · exact rejected
    · decide
  · split
    · exact rejected
    · decide
  · exact rejected

theorem rejects_guarded {α : Type} {check : KeyCheck} (wrong : check ≠ .right)
    (parameters : Record.Checked α) (handler : α → Program Service Answer) :
    Rejects (guarded check parameters handler) := by
  unfold guarded
  split
  · exact ⟨_, not_succeeds_refused _, rfl⟩
  · exact ⟨_, not_succeeds_refused _, rfl⟩
  · exact ⟨_, by decide, rfl⟩
  · exact ⟨_, by decide, rfl⟩
  · exact ⟨_, by decide, rfl⟩
  · exact absurd rfl wrong
  · exact absurd rfl wrong

theorem rejects_guardedBody {α : Type} {check : KeyCheck} (wrong : check ≠ .right)
    (incoming : Incoming) (reader : Record.Reader α) (handler : α → Program Service Answer) :
    Rejects (guardedBody check incoming reader handler) := by
  unfold guardedBody
  split
  · next unread => exact ⟨_, not_succeeds_of_readBody unread, rfl⟩
  · next body read =>
    obtain ⟨answer, rejected, same⟩ := rejects_guarded wrong (narrowBody reader body) handler
    rw [same]
    exact ⟨_, not_succeeds_showing body rejected, rfl⟩

/-- Whether a turn is a request that needs the key of the service and does not carry it. -/
def Turn.Unauthorised (serverKey : Text) : Turn → Prop
  | request _ _ incoming => Service.Unauthorised serverKey incoming
  | poll => False

instance (serverKey : Text) : DecidablePred (Turn.Unauthorised serverKey) := fun turn =>
  match turn with
  | .request _ _ incoming => inferInstanceAs (Decidable (Service.Unauthorised serverKey incoming))
  | .poll => inferInstanceAs (Decidable False)

/-- A turn that was taken: how it ended, and what happened during it. -/
structure Taken where
  turn : Turn
  outcome : Outcome (Option Answer)
  events : List Event

/-- Turns that were taken one after another, and what they left. -/
structure Sequence where
  taken : List Taken
  service : Service
  unused : List Reply

/-- A sequence without the turns that are requests without the key. -/
def Sequence.authorised (serverKey : Text) (sequence : Sequence) : Sequence :=
  { sequence with taken := sequence.taken.filter fun taken => ¬ taken.turn.Unauthorised serverKey }

section Sequences

variable [Console]

/-- A request that needs the key and does not carry it is answered at once, without success. -/
theorem rejects_handle (stamp : Stamp) (today : Date)
    (unauthorised : Unauthorised serverKey incoming) :
    Rejects (handle serverKey stamp today incoming) := by
  have wrong := checkKey_ne_right unauthorised
  have answered : Rejects (answerOf serverKey stamp today incoming) := by
    unfold answerOf
    cases found : Route.find incoming with
    | error answer => exact ⟨answer, not_succeeds_of_find found, rfl⟩
    | ok route =>
      obtain ⟨not_health, not_description⟩ := guarded_of_find unauthorised.1 found
      cases route with
      | health => exact absurd rfl not_health
      | description => exact absurd rfl not_description
      | render => exact rejects_guardedBody wrong _ _ _
      | startTimer => exact rejects_guardedBody wrong _ _ _
      | _ => exact rejects_guarded wrong _ _
  obtain ⟨answer, rejected, same⟩ := answered
  unfold handle
  rw [same]
  exact ⟨_, not_succeeds_sendable rejected, rfl⟩

def Turn.answering (serverKey : Text) : Turn → Program Service (Option Answer)
  | request stamp today incoming => do return some (← handle serverKey stamp today incoming)
  | poll => do
    inSession Session.pollOnce
    return none

/-- Takes turns one after another, each from where the one before it ended or broke off. -/
def sequence (serverKey : Text) (service : Service) (replies : List Reply) :
    List Turn → Sequence
  | [] => ⟨[], service, replies⟩
  | turn :: later =>
    let run := (turn.answering serverKey).run service replies
    let rest := sequence serverKey run.state run.unused later
    { rest with taken := ⟨turn, run.outcome, run.events⟩ :: rest.taken }

theorem map_turn_sequence (serverKey : Text) (service : Service) (replies : List Reply)
    (turns : List Turn) :
    (sequence serverKey service replies turns).taken.map (·.turn) = turns := by
  induction turns generalizing service replies with
  | nil => rfl
  | cons turn later ih => simp only [sequence, List.map_cons, ih]

/-- A request without the key leaves a sequence as it would go on without it. -/
theorem run_unauthorised {turn : Turn} (unauthorised : turn.Unauthorised serverKey)
    (service : Service) (replies : List Reply) : ∃ answer : Answer, ¬ answer.Succeeds ∧
      (turn.answering serverKey).run service replies =
        ⟨.returned (some answer), service, replies, []⟩ := by
  cases turn with
  | poll => cases unauthorised
  | request stamp today incoming =>
    obtain ⟨answer, rejected, same⟩ := rejects_handle stamp today unauthorised
    refine ⟨answer, rejected, ?_⟩
    simp only [Turn.answering, same, bind_eq, Program.bind, pure_eq, Program.run]

theorem sequence_filter (serverKey : Text) (turns : List Turn) (service : Service)
    (replies : List Reply) :
    sequence serverKey service replies (turns.filter fun turn => ¬ turn.Unauthorised serverKey) =
      (sequence serverKey service replies turns).authorised serverKey := by
  induction turns generalizing service replies with
  | nil => rfl
  | cons turn later ih =>
    by_cases unauthorised : turn.Unauthorised serverKey
    · obtain ⟨answer, -, idle⟩ := run_unauthorised unauthorised service replies
      simp only [sequence, idle, ih, Sequence.authorised, unauthorised, List.filter_cons,
        not_true_eq_false, decide_false, Bool.false_eq_true, ↓reduceIte]
    · simp only [sequence, ih, Sequence.authorised, unauthorised, List.filter_cons,
        not_false_eq_true, decide_true, ↓reduceIte]

/-- Requests without the key have no effect. Each is answered without success, asks nothing of the
time tracking service and leaves the whole service as it is; and a sequence of turns goes on for the
other ones, and ends, as it does when these requests are left out. -/
theorem unauthorised_without_effect (serverKey : Text) :
    (∀ stamp today incoming service replies, Unauthorised serverKey incoming →
      ∃ answer : Answer, ¬ answer.Succeeds ∧
        (handle serverKey stamp today incoming).run service replies =
          ⟨.returned answer, service, replies, []⟩) ∧
    ∀ turns service replies,
      (sequence serverKey service replies turns).taken.map (·.turn) = turns ∧
      sequence serverKey service replies (turns.filter fun turn => ¬ turn.Unauthorised serverKey) =
        (sequence serverKey service replies turns).authorised serverKey := by
  constructor
  · intro stamp today incoming service replies unauthorised
    obtain ⟨answer, rejected, same⟩ := rejects_handle stamp today unauthorised
    exact ⟨answer, rejected, by rw [same]; rfl⟩
  · intro turns service replies
    exact ⟨map_turn_sequence serverKey service replies turns,
      sequence_filter serverKey turns service replies⟩

end Sequences

def knownService : Service :=
  ⟨⟨.start ⟨"t".text, "a".text, 3⟩ (some 42), ⟨[], [], [], .none⟩⟩, .empty⟩

theorem timerRequest_without_effect : Unauthorised "other".text timerRequest ∧
    ∃ answer : Answer, ¬ answer.Succeeds ∧
      (handle "other".text ⟨[], [], 0⟩ Execution.someDay timerRequest).run knownService
          Session.timerReplies =
        ⟨.returned answer, knownService, Session.timerReplies, []⟩ :=
  ⟨by decide, (unauthorised_without_effect "other".text).1 _ _ _ _ _ (by decide)⟩

end TimeReports.Service

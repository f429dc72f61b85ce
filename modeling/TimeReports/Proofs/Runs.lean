import TimeReports.Harvest.Program

set_option autoImplicit false

namespace TimeReports

variable {σ τ α β : Type}

theorem Outcome.failed_ne_spent (fault : Fault) : (.failed fault : Outcome α) ≠ .spent := by
  intro same
  cases same

namespace Run

/-- A run with things that happened before it. -/
def behind (events : List Event) (run : Run σ α) : Run σ α :=
  { run with events := events ++ run.events }

@[simp] theorem behind_nil (run : Run σ α) : run.behind [] = run := rfl

@[simp] theorem outcome_behind (events : List Event) (run : Run σ α) :
    (run.behind events).outcome = run.outcome := rfl

@[simp] theorem state_behind (events : List Event) (run : Run σ α) :
    (run.behind events).state = run.state := rfl

@[simp] theorem unused_behind (events : List Event) (run : Run σ α) :
    (run.behind events).unused = run.unused := rfl

@[simp] theorem outcome_after (event : Event) (run : Run σ α) :
    (run.after event).outcome = run.outcome := rfl

@[simp] theorem state_after (event : Event) (run : Run σ α) :
    (run.after event).state = run.state := rfl

@[simp] theorem unused_after (event : Event) (run : Run σ α) :
    (run.after event).unused = run.unused := rfl

@[simp] theorem events_after (event : Event) (run : Run σ α) :
    (run.after event).events = event :: run.events := rfl

def value? (run : Run σ α) : Option α :=
  match run.outcome with
  | .returned value => some value
  | _ => none

theorem value?_eq_some_iff {run : Run σ α} {value : α} :
    run.value? = some value ↔ run.outcome = .returned value := by
  unfold value?
  cases run.outcome <;> simp

/-- A run that goes on with another program once a value is there. -/
def andThen (run : Run σ α) (next : α → Program σ β) : Run σ β :=
  match run.outcome with
  | .returned value => ((next value).run run.state run.unused).behind run.events
  | .failed fault => ⟨.failed fault, run.state, run.unused, run.events⟩
  | .spent => ⟨.spent, run.state, run.unused, run.events⟩

theorem andThen_of_returned {run : Run σ α} {value : α} (next : α → Program σ β)
    (returned : run.outcome = .returned value) :
    run.andThen next = ((next value).run run.state run.unused).behind run.events := by
  simp only [andThen, returned]

theorem andThen_of_failed {run : Run σ α} {fault : Fault} (next : α → Program σ β)
    (failed : run.outcome = .failed fault) :
    run.andThen next = ⟨.failed fault, run.state, run.unused, run.events⟩ := by
  simp only [andThen, failed]

theorem andThen_after (event : Event) (run : Run σ α) (next : α → Program σ β) :
    (run.after event).andThen next = (run.andThen next).after event := by
  unfold andThen
  simp only [outcome_after, state_after, unused_after, events_after]
  split <;> rfl

/-- A value at the end of a composed run comes from a value of its first part. -/
theorem andThen_returned {run : Run σ α} {next : α → Program σ β} {value : β}
    (returned : (run.andThen next).outcome = .returned value) :
    ∃ first, run.outcome = .returned first ∧
      ((next first).run run.state run.unused).outcome = .returned value := by
  cases ending : run.outcome with
  | returned first =>
    rw [andThen_of_returned next ending] at returned
    exact ⟨first, rfl, returned⟩
  | failed fault =>
    rw [andThen_of_failed next ending] at returned
    cases returned
  | spent =>
    simp only [andThen, ending] at returned
    cases returned

def orElse (run : Run σ α) (handler : Fault → Program σ α) : Run σ α :=
  match run.outcome with
  | .failed fault => ((handler fault).run run.state run.unused).behind run.events
  | _ => run

theorem orElse_after (event : Event) (run : Run σ α) (handler : Fault → Program σ α) :
    (run.after event).orElse handler = (run.orElse handler).after event := by
  unfold orElse
  simp only [outcome_after, state_after, unused_after, events_after]
  split <;> rfl

/-- A run whose value is its own, or its fault. -/
def attempted (run : Run σ α) : Run σ (Except Fault α) where
  outcome :=
    match run.outcome with
    | .returned value => .returned (.ok value)
    | .failed fault => .returned (.error fault)
    | .spent => .spent
  state := run.state
  unused := run.unused
  events := run.events

theorem attempted_of_returned {run : Run σ α} {value : α}
    (returned : run.outcome = .returned value) :
    run.attempted = ⟨.returned (.ok value), run.state, run.unused, run.events⟩ := by
  simp only [attempted, returned]

theorem attempted_of_failed {run : Run σ α} {fault : Fault} (failed : run.outcome = .failed fault) :
    run.attempted = ⟨.returned (.error fault), run.state, run.unused, run.events⟩ := by
  simp only [attempted, failed]

end Run

namespace Program

@[simp] theorem bind_eq (program : Program σ α) (next : α → Program σ β) :
    program >>= next = program.bind next := rfl

@[simp] theorem pure_eq (value : α) : (pure value : Program σ α) = done value := rfl

theorem run_bind (program : Program σ α) (next : α → Program σ β) (state : σ)
    (replies : List Harvest.Reply) :
    (program.bind next).run state replies = (program.run state replies).andThen next := by
  induction program generalizing state replies with
  | done value => simp only [bind, run, Run.andThen, Run.behind_nil]
  | fail fault => rfl
  | spent => rfl
  | look program ih => exact ih state state replies
  | put changed program ih => exact ih changed replies
  | tell notice program ih => simp only [bind, run, ih, Run.andThen_after]
  | ask request program ih =>
    cases replies <;> simp only [bind, run, ih, Run.andThen_after]

theorem run_recover (program : Program σ α) (handler : Fault → Program σ α) (state : σ)
    (replies : List Harvest.Reply) :
    (program.recover handler).run state replies = (program.run state replies).orElse handler := by
  induction program generalizing state replies with
  | done value => rfl
  | fail fault => simp only [recover, run, Run.orElse, Run.behind_nil]
  | spent => rfl
  | look program ih => exact ih state state replies
  | put changed program ih => exact ih changed replies
  | tell notice program ih => simp only [recover, run, ih, Run.orElse_after]
  | ask request program ih =>
    cases replies <;> simp only [recover, run, ih, Run.orElse_after]

theorem run_attempt (program : Program σ α) (state : σ) (replies : List Harvest.Reply) :
    program.attempt.run state replies = (program.run state replies).attempted := by
  unfold attempt
  rw [run_recover, run_bind]
  generalize program.run state replies = first
  cases ending : first.outcome <;>
    simp [Run.andThen, Run.orElse, Run.attempted, ending, run, Run.behind]

/-- A program over a part leaves the rest of the state as it is. -/
theorem run_zoom (part : τ → σ) (withPart : τ → σ → τ)
    (same : ∀ state, withPart state (part state) = state)
    (got : ∀ state inner, part (withPart state inner) = inner)
    (twice : ∀ state first last, withPart (withPart state first) last = withPart state last)
    (program : Program σ α) (state : τ) (replies : List Harvest.Reply) :
    (program.zoom part withPart).run state replies =
      { outcome := (program.run (part state) replies).outcome
        state := withPart state (program.run (part state) replies).state
        unused := (program.run (part state) replies).unused
        events := (program.run (part state) replies).events } := by
  induction program generalizing state replies with
  | done value => simp only [zoom, run, same]
  | fail fault => simp only [zoom, run, same]
  | spent => simp only [zoom, run, same]
  | look program ih => exact ih (part state) state replies
  | put inner program ih =>
    simp only [zoom, run, ih, got, twice]
  | tell notice program ih =>
    simp only [zoom, run, ih]
    rfl
  | ask request program ih =>
    cases replies <;> simp only [zoom, run, ih] <;> rfl

/-- Whether a program ends in every state and against all replies, with a value of a kind or with a
fault of a kind. -/
def Ends (good : α → Prop) (expected : Fault → Prop) (program : Program σ α) : Prop :=
  ∀ state replies,
    (∃ value, good value ∧ (program.run state replies).outcome = .returned value) ∨
      ∃ fault, expected fault ∧ (program.run state replies).outcome = .failed fault

variable {good : α → Prop} {right : β → Prop} {expected handled : Fault → Prop}
  {program : Program σ α}

theorem ends_done (expected : Fault → Prop) {value : α} (holds : good value) :
    (done value : Program σ α).Ends good expected :=
  fun _ _ => Or.inl ⟨value, holds, rfl⟩

theorem Ends.tell (ends : program.Ends good expected) (notice : Notice) :
    (tell notice program).Ends good expected :=
  fun state replies => ends state replies

theorem Ends.bind {next : α → Program σ β} (ends : program.Ends good expected)
    (later : ∀ value, good value → (next value).Ends right expected) :
    (program.bind next).Ends right expected := by
  intro state replies
  rw [run_bind]
  rcases ends state replies with ⟨value, holds, returned⟩ | ⟨fault, within, failed⟩
  · rw [Run.andThen_of_returned next returned]
    exact later value holds _ _
  · rw [Run.andThen_of_failed next failed]
    exact Or.inr ⟨fault, within, rfl⟩

/-- The faults of a program that is attempted are handed on as values. -/
theorem Ends.attempt_bind {next : Except Fault α → Program σ β} (ends : program.Ends good handled)
    (value : ∀ value, good value → (next (.ok value)).Ends right expected)
    (fault : ∀ fault, handled fault → (next (.error fault)).Ends right expected) :
    (program.attempt.bind next).Ends right expected := by
  intro state replies
  rw [run_bind, run_attempt]
  rcases ends state replies with ⟨result, holds, returned⟩ | ⟨reason, within, failed⟩
  · rw [Run.attempted_of_returned returned, Run.andThen_of_returned next rfl]
    exact value result holds _ _
  · rw [Run.attempted_of_failed failed, Run.andThen_of_returned next rfl]
    exact fault reason within _ _

end Program
end TimeReports

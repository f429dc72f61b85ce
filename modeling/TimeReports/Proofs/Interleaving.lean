import Mathlib.Logic.Function.Basic
import TimeReports.Proofs.Labels

set_option autoImplicit false

/- Programs that overlap on one state. Each of them runs on its own up to its next request, and then
waits; the service handles a request at some time after it was sent, and the reply is delivered at
some time after that, in whatever order. What a program does is said by a judgement that allows for
changes of the state by others while it waits; from the judgements of all programs follows what
holds along every interleaving of them. -/
namespace TimeReports

open Harvest (Request Reply)

variable {σ ψ ι α β : Type}

/-- How far a program has come. -/
inductive Task (σ α : Type) where
  /-- It has not begun. -/
  | ready (program : Program σ α)
  /-- It waits for the reply to a request that was not handled yet. -/
  | sent (request : Request) (next : Reply → Program σ α)
  /-- It waits for a reply that is on its way. -/
  | served (request : Request) (reply : Reply) (next : Reply → Program σ α)
  | ended (outcome : Outcome α)

/-- A program run up to its next request or its end, and the state that it leaves. -/
def Program.advance : Program σ α → σ → Task σ α × σ
  | done value, state => (.ended (.returned value), state)
  | fail fault, state => (.ended (.failed fault), state)
  | spent, state => (.ended .spent, state)
  | look next, state => (next state).advance state
  | put state next, _ => next.advance state
  | tell _ next, state => next.advance state
  | ask request next, state => (.sent request next, state)

/-- Programs that overlap on one state, and the service that they ask. -/
structure World (σ ψ : Type) {ι : Type} (α : ι → Type) where
  state : σ
  server : ψ
  tasks : ∀ who, Task σ (α who)

section Worlds

variable {α : ι → Type} [DecidableEq ι]

def World.resume (world : World σ ψ α) (who : ι) (program : Program σ (α who)) : World σ ψ α where
  state := (program.advance world.state).2
  server := world.server
  tasks := Function.update world.tasks who (program.advance world.state).1

/-- What can happen next, where the service does what `serves` allows. -/
inductive Step (serves : ψ → Exchange → ψ → Prop) (world : World σ ψ α) :
    Label ι → World σ ψ α → Prop
  | begun {who : ι} {program : Program σ (α who)} (ready : world.tasks who = .ready program) :
    Step serves world (.begun who) (world.resume who program)
  | handled {who : ι} {request : Request} {next : Reply → Program σ (α who)} {reply : Reply}
    {server : ψ} (sent : world.tasks who = .sent request next)
    (served : serves world.server ⟨request, reply⟩ server) :
    Step serves world (.handled who ⟨request, reply⟩)
      { world with
        server
        tasks := Function.update world.tasks who (.served request reply next) }
  | delivered {who : ι} {request : Request} {reply : Reply} {next : Reply → Program σ (α who)}
    (served : world.tasks who = .served request reply next) :
    Step serves world (.delivered who ⟨request, reply⟩) (world.resume who (next reply))

/-- The interleavings of programs from a world on. -/
inductive Interleaves (serves : ψ → Exchange → ψ → Prop) (first : World σ ψ α) :
    List (Label ι) → World σ ψ α → Prop
  | start : Interleaves serves first [] first
  | step {labels : List (Label ι)} {label : Label ι} {world world' : World σ ψ α}
    (interleaves : Interleaves serves first labels world) (step : Step serves world label world') :
    Interleaves serves first (labels ++ [label]) world'

end Worlds

/-- What a service can come to by handling requests, one after another. -/
def Handles (serves : ψ → Exchange → ψ → Prop) : ψ → List Exchange → ψ → Prop
  | first, [], last => first = last
  | first, exchange :: others, last =>
    ∃ next, serves first exchange next ∧ Handles serves next others last

theorem handles_append {serves : ψ → Exchange → ψ → Prop} {first last : ψ}
    {front back : List Exchange} : Handles serves first (front ++ back) last ↔
      ∃ middle, Handles serves first front middle ∧ Handles serves middle back last := by
  induction front generalizing first with
  | nil =>
    constructor
    · intro handles
      exact ⟨first, rfl, handles⟩
    · intro ⟨middle, same, handles⟩
      cases same
      exact handles
  | cons exchange front ih =>
    constructor
    · intro ⟨next, serves, others⟩
      obtain ⟨middle, before, behind⟩ := ih.mp others
      exact ⟨middle, ⟨next, serves, before⟩, behind⟩
    · intro ⟨middle, ⟨next, serves, before⟩, behind⟩
      exact ⟨next, serves, ih.mpr ⟨middle, before, behind⟩⟩

namespace Program

/-- What a program does, after the exchanges of `past`, when it went on in the state `entered` and
has come to a state. Up to each request and to its end it takes the state where `act` allows; while
it waits the state may become any other one in which `inv` holds; replies are those that `may`
come. -/
def Behaves (may : Exchange → Prop) (inv : σ → Prop) (act : List Exchange → σ → σ → Prop)
    (post : Outcome α → List Exchange → σ → σ → Prop) :
    Program σ α → List Exchange → σ → σ → Prop
  | done value, past, entered, state => post (.returned value) past entered state
  | fail fault, past, entered, state => post (.failed fault) past entered state
  | spent, past, entered, state => post .spent past entered state
  | look next, past, entered, state => (next state).Behaves may inv act post past entered state
  | put state next, past, entered, _ => next.Behaves may inv act post past entered state
  | tell _ next, past, entered, state => next.Behaves may inv act post past entered state
  | ask request next, past, entered, state => act past entered state ∧
    ∀ reply, may ⟨request, reply⟩ → ∀ resumed, inv resumed →
      (next reply).Behaves may inv act post (past ++ [⟨request, reply⟩]) resumed resumed

section Rules

variable {may : Exchange → Prop} {inv : σ → Prop} {act : List Exchange → σ → σ → Prop}
  {post : Outcome α → List Exchange → σ → σ → Prop} {past : List Exchange}
  {entered state : σ}

theorem behaves_get {post : Outcome σ → List Exchange → σ → σ → Prop} :
    (get : Program σ σ).Behaves may inv act post past entered state ↔
      post (.returned state) past entered state :=
  Iff.rfl

theorem behaves_say [Console] {text : Text} {post : Outcome Unit → List Exchange → σ → σ → Prop} :
    (say text).Behaves may inv act post past entered state ↔
      post (said text) past entered state := by
  unfold say said
  cases Console.refusal? text <;> rfl

/-- A program that asks for nothing does among others what it does by itself. -/
theorem Assures.behaves {program : Program σ α}
    (alone : program.Assures (fun _ _ => False)
      (fun outcome past state => post outcome past entered state) past state) :
    program.Behaves may inv act post past entered state := by
  induction program generalizing state with
  | done value => exact alone
  | fail fault => exact alone
  | spent => exact alone
  | look program ih => exact ih state alone
  | put changed program ih => exact ih alone
  | tell notice program ih => exact ih alone
  | ask request program ih => exact alone.1.elim

/-- What is wanted of the end of a program for what follows it. -/
def behavesThen (may : Exchange → Prop) (inv : σ → Prop) (act : List Exchange → σ → σ → Prop)
    (post : Outcome β → List Exchange → σ → σ → Prop) (next : α → Program σ β) :
    Outcome α → List Exchange → σ → σ → Prop
  | .returned value, past, entered, state =>
    (next value).Behaves may inv act post past entered state
  | .failed fault, past, entered, state => post (.failed fault) past entered state
  | .spent, past, entered, state => post .spent past entered state

theorem behaves_bind {program : Program σ α} {next : α → Program σ β}
    {post : Outcome β → List Exchange → σ → σ → Prop} :
    (program.bind next).Behaves may inv act post past entered state ↔
      program.Behaves may inv act (behavesThen may inv act post next) past entered state := by
  induction program generalizing past entered state with
  | done value => rfl
  | fail fault => rfl
  | spent => rfl
  | look program ih => exact ih state
  | put changed program ih => exact ih
  | tell notice program ih => exact ih
  | ask request program ih => simp only [bind, Behaves, ih]

/-- What is wanted of the end of a program whose faults are answered. -/
def behavesElse (may : Exchange → Prop) (inv : σ → Prop) (act : List Exchange → σ → σ → Prop)
    (post : Outcome α → List Exchange → σ → σ → Prop) (handler : Fault → Program σ α) :
    Outcome α → List Exchange → σ → σ → Prop
  | .failed fault, past, entered, state =>
    (handler fault).Behaves may inv act post past entered state
  | outcome, past, entered, state => post outcome past entered state

theorem behaves_recover {program : Program σ α} {handler : Fault → Program σ α} :
    (program.recover handler).Behaves may inv act post past entered state ↔
      program.Behaves may inv act (behavesElse may inv act post handler) past entered state := by
  induction program generalizing past entered state with
  | done value => rfl
  | fail fault => rfl
  | spent => rfl
  | look program ih => exact ih state
  | put changed program ih => exact ih
  | tell notice program ih => exact ih
  | ask request program ih => simp only [recover, Behaves, ih]

/-- What is wanted of the end of a program that is attempted. -/
def behavesAttempt (post : Outcome (Except Fault α) → List Exchange → σ → σ → Prop) :
    Outcome α → List Exchange → σ → σ → Prop
  | .returned value, past, entered, state => post (.returned (.ok value)) past entered state
  | .failed fault, past, entered, state => post (.returned (.error fault)) past entered state
  | .spent, past, entered, state => post .spent past entered state

theorem behaves_attempt {program : Program σ α}
    {post : Outcome (Except Fault α) → List Exchange → σ → σ → Prop} :
    program.attempt.Behaves may inv act post past entered state ↔
      program.Behaves may inv act (behavesAttempt post) past entered state := by
  rw [attempt, behaves_recover, behaves_bind]
  suffices same : behavesThen may inv act
      (behavesElse may inv act post fun fault => done (.error fault))
      (fun value => done (.ok value)) = behavesAttempt post by rw [same]
  funext outcome past entered state
  cases outcome <;> rfl

end Rules

/-- What is wanted of the end of a program: it acts as `act` allows up to there, and `goal` is
reached with its outcome and its exchanges. -/
def behavesEnd (act : List Exchange → σ → σ → Prop) (goal : Outcome α → List Exchange → Prop)
    (outcome : Outcome α) (past : List Exchange) (entered state : σ) : Prop :=
  act past entered state ∧ goal outcome past

/-- Whether a program abides by `act` and reaches its goal wherever `inv` holds. -/
def Abides (may : Exchange → Prop) (inv : σ → Prop) (act : List Exchange → σ → σ → Prop)
    (goal : Outcome α → List Exchange → Prop) (program : Program σ α) : Prop :=
  ∀ state, inv state → program.Behaves may inv act (behavesEnd act goal) [] state state

end Program

open Program

/-- Where a program that abides by `act` stands, with its exchanges that were handled and those that
were delivered. -/
inductive Task.Stands (may : Exchange → Prop) (inv : σ → Prop) (act : List Exchange → σ → σ → Prop)
    (goal : Outcome α → List Exchange → Prop) : Task σ α → List Exchange → List Exchange → Prop
  | ready {program : Program σ α} (abides : program.Abides may inv act goal) :
    Stands may inv act goal (.ready program) [] []
  | sent {request : Request} {next : Reply → Program σ α} {past : List Exchange}
    (goesOn : ∀ reply, may ⟨request, reply⟩ → ∀ resumed, inv resumed →
      (next reply).Behaves may inv act (behavesEnd act goal) (past ++ [⟨request, reply⟩]) resumed
        resumed) :
    Stands may inv act goal (.sent request next) past past
  | served {request : Request} {reply : Reply} {next : Reply → Program σ α} {past : List Exchange}
    (goesOn : ∀ resumed, inv resumed →
      (next reply).Behaves may inv act (behavesEnd act goal) (past ++ [⟨request, reply⟩]) resumed
        resumed) :
    Stands may inv act goal (.served request reply next) (past ++ [⟨request, reply⟩]) past
  | ended {outcome : Outcome α} {past : List Exchange} (reached : goal outcome past) :
    Stands may inv act goal (.ended outcome) past past

section Stands

variable {may : Exchange → Prop} {inv : σ → Prop} {act : List Exchange → σ → σ → Prop}
  {goal : Outcome α → List Exchange → Prop} {past past' : List Exchange}

theorem Program.Behaves.advance {program : Program σ α} {entered state : σ}
    (behaves : program.Behaves may inv act (behavesEnd act goal) past entered state) :
    act past entered (program.advance state).2 ∧
      (program.advance state).1.Stands may inv act goal past past := by
  induction program generalizing state with
  | done value => exact ⟨behaves.1, .ended behaves.2⟩
  | fail fault => exact ⟨behaves.1, .ended behaves.2⟩
  | spent => exact ⟨behaves.1, .ended behaves.2⟩
  | look program ih => exact ih state behaves
  | put changed program ih => exact ih behaves
  | tell notice program ih => exact ih behaves
  | ask request program ih => exact ⟨behaves.1, .sent behaves.2⟩

/-- All replies to a program that has ended were delivered. -/
theorem Task.Stands.of_ended {outcome : Outcome α}
    (stands : (Task.ended outcome : Task σ α).Stands may inv act goal past past') :
    past = past' ∧ goal outcome past := by
  cases stands with
  | ended reached => exact ⟨rfl, reached⟩

end Stands

/-- How a state comes about by what programs do to it, each at its beginning and behind each reply
that is delivered to it. -/
inductive Evolves [DecidableEq ι] (act : ι → List Exchange → σ → σ → Prop) (first : σ) :
    List (Label ι) → σ → Prop
  | start : Evolves act first [] first
  | begun {labels : List (Label ι)} {who : ι} {state state' : σ}
    (evolves : Evolves act first labels state) (acts : act who [] state state') :
    Evolves act first (labels ++ [.begun who]) state'
  | handled {labels : List (Label ι)} {who : ι} {exchange : Exchange} {state : σ}
    (evolves : Evolves act first labels state) :
    Evolves act first (labels ++ [.handled who exchange]) state
  | delivered {labels : List (Label ι)} {who : ι} {exchange : Exchange} {state state' : σ}
    (evolves : Evolves act first labels state)
    (acts : act who (own who (TimeReports.delivered labels) ++ [exchange]) state state') :
    Evolves act first (labels ++ [.delivered who exchange]) state'

/-- What programs rely on while they wait, and each other program and the service guarantee:
`held` of the service, and `inv` of the state. -/
structure Relies (serves : ψ → Exchange → ψ → Prop) (held : ψ → Prop) (may : Exchange → Prop)
    (inv : σ → Prop) (act : ι → List Exchange → σ → σ → Prop) : Prop where
  served : ∀ {server exchange server'}, held server → serves server exchange server' →
    may exchange ∧ held server'
  kept : ∀ {who past state state'}, inv state → act who past state state' → inv state'

section Sound

variable [DecidableEq ι] {α : ι → Type} {serves : ψ → Exchange → ψ → Prop} {held : ψ → Prop}
  {may : Exchange → Prop} {inv : σ → Prop} {act : ι → List Exchange → σ → σ → Prop}
  {goal : ∀ who, Outcome (α who) → List Exchange → Prop} {first world world' : World σ ψ α}
  {labels : List (Label ι)} {label : Label ι}

/-- Where programs stand after what happened since a first world. -/
structure Sound (serves : ψ → Exchange → ψ → Prop) (held : ψ → Prop) (may : Exchange → Prop)
    (inv : σ → Prop) (act : ι → List Exchange → σ → σ → Prop)
    (goal : ∀ who, Outcome (α who) → List Exchange → Prop) (first : World σ ψ α)
    (labels : List (Label ι)) (world : World σ ψ α) : Prop where
  handles : Handles serves first.server ((handled labels).map (·.2)) world.server
  serverHolds : held world.server
  stateHolds : inv world.state
  evolves : Evolves act first.state labels world.state
  stands : ∀ who, (world.tasks who).Stands may inv (act who) (goal who)
    (own who (handled labels)) (own who (delivered labels))

theorem Handles.snoc {server server' : ψ} {exchange : Exchange} {exchanges : List Exchange}
    {start : ψ} (handles : Handles serves start exchanges server)
    (served : serves server exchange server') :
    Handles serves start (exchanges ++ [exchange]) server' :=
  handles_append.mpr ⟨server, handles, server', served, rfl⟩

/-- When one program goes on, the others stand where they stood. -/
theorem stands_update {tasks : ∀ who, Task σ (α who)} {who : ι} {task : Task σ (α who)}
    {handled handled' delivered delivered' : List (ι × Exchange)}
    (stands : ∀ other, (tasks other).Stands may inv (act other) (goal other) (own other handled)
      (own other delivered))
    (apart : ∀ other, who ≠ other →
      own other handled' = own other handled ∧ own other delivered' = own other delivered)
    (stood : task.Stands may inv (act who) (goal who) (own who handled') (own who delivered')) :
    ∀ other, (Function.update tasks who task other).Stands may inv (act other) (goal other)
      (own other handled') (own other delivered') := by
  intro other
  by_cases same : other = who
  · subst same
    rw [Function.update_self]
    exact stood
  · rw [Function.update_of_ne same]
    obtain ⟨handled_eq, delivered_eq⟩ := apart other fun swapped => same swapped.symm
    rw [handled_eq, delivered_eq]
    exact stands other

theorem Sound.step (relies : Relies serves held may inv act)
    (sound : Sound serves held may inv act goal first labels world)
    (step : Step serves world label world') :
    Sound serves held may inv act goal first (labels ++ [label]) world' := by
  have others := sound.stands
  cases step with
  | begun ready =>
    rename_i who program
    have handled_same : handled (labels ++ [.begun who]) = handled labels := by
      rw [handled_snoc]
      exact List.append_nil _
    have delivered_same : delivered (labels ++ [.begun who]) = delivered labels := by
      rw [delivered_snoc]
      exact List.append_nil _
    have stood := others who
    rw [ready] at stood
    generalize handled_own : own who (handled labels) = exchanges at stood
    generalize delivered_own : own who (delivered labels) = past at stood
    cases stood with
    | ready abides =>
      obtain ⟨acts, stands⟩ := (abides world.state sound.stateHolds).advance
      constructor
      · rw [handled_same]
        exact sound.handles
      · exact sound.serverHolds
      · exact relies.kept sound.stateHolds acts
      · exact sound.evolves.begun acts
      · rw [handled_same, delivered_same]
        apply stands_update others fun other _ => ⟨rfl, rfl⟩
        rw [handled_own, delivered_own]
        exact stands
  | handled sent served =>
    rename_i who request next reply server
    have handled_more : handled (labels ++ [.handled who ⟨request, reply⟩]) =
        handled labels ++ [(who, ⟨request, reply⟩)] := handled_snoc _
    have delivered_same : delivered (labels ++ [.handled who ⟨request, reply⟩]) =
        delivered labels := by
      rw [delivered_snoc]
      exact List.append_nil _
    obtain ⟨allowed, stillHeld⟩ := relies.served sound.serverHolds served
    have stood := others who
    rw [sent] at stood
    generalize handled_own : own who (handled labels) = exchanges at stood
    generalize delivered_own : own who (delivered labels) = past at stood
    cases stood with
    | sent goesOn =>
      constructor
      · rw [handled_more, List.map_append]
        exact sound.handles.snoc served
      · exact stillHeld
      · exact sound.stateHolds
      · exact sound.evolves.handled
      · rw [handled_more, delivered_same]
        apply stands_update others fun other apart => ⟨own_other apart _, rfl⟩
        rw [own_self, handled_own, delivered_own]
        exact .served (goesOn reply allowed)
  | delivered served =>
    rename_i who request reply next
    have handled_same : handled (labels ++ [.delivered who ⟨request, reply⟩]) =
        handled labels := by
      rw [handled_snoc]
      exact List.append_nil _
    have delivered_more : delivered (labels ++ [.delivered who ⟨request, reply⟩]) =
        delivered labels ++ [(who, ⟨request, reply⟩)] := delivered_snoc _
    have stood := others who
    rw [served] at stood
    generalize handled_own : own who (handled labels) = exchanges at stood
    generalize delivered_own : own who (delivered labels) = past at stood
    cases stood with
    | served goesOn =>
      obtain ⟨acts, stands⟩ := (goesOn world.state sound.stateHolds).advance
      constructor
      · rw [handled_same]
        exact sound.handles
      · exact sound.serverHolds
      · exact relies.kept sound.stateHolds acts
      · apply sound.evolves.delivered
        rw [delivered_own]
        exact acts
      · rw [handled_same, delivered_more]
        apply stands_update others fun other apart => ⟨rfl, own_other apart _⟩
        rw [own_self, handled_own, delivered_own]
        exact stands

def World.start (state : σ) (server : ψ) (programs : ∀ who, Program σ (α who)) : World σ ψ α where
  state := state
  server := server
  tasks who := .ready (programs who)

/-- Programs that abide by what they may do reach their goals along every interleaving. -/
theorem Interleaves.sound {programs : ∀ who, Program σ (α who)} {state : σ} {server : ψ}
    (relies : Relies serves held may inv act)
    (abide : ∀ who, (programs who).Abides may inv (act who) (goal who))
    (holds : inv state) (holding : held server)
    (interleaves : Interleaves serves (World.start state server programs) labels world) :
    Sound serves held may inv act goal (World.start state server programs) labels world := by
  induction interleaves with
  | start =>
    constructor
    · rfl
    · exact holding
    · exact holds
    · exact .start
    · intro who
      exact .ready (abide who)
  | step interleaves step ih => exact ih.step relies step

end Sound

section Moves

variable [DecidableEq ι] {α : ι → Type} {γ : Type}

/-- A choice of what happens next. For a request that is handled it gives the reply and where the
service goes over to. -/
inductive Move (ι γ : Type) where
  | begin (who : ι)
  | handle (who : ι) (reply : Reply) (server : γ)
  | deliver (who : ι)

/-- A world seen with its service as a function shows it. -/
def World.map (view : γ → ψ) (world : World σ γ α) : World σ ψ α :=
  ⟨world.state, view world.server, world.tasks⟩

def Task.value? {β : Type} : Task σ β → Option β
  | .ended (.returned value) => some value
  | _ => none

theorem Task.ended_of_value? {β : Type} {task : Task σ β} {value : β}
    (some_value : task.value? = some value) : task = .ended (.returned value) := by
  unfold Task.value? at some_value
  split at some_value
  · cases some_value
    rfl
  · cases some_value

/-- What comes of a choice, if it can be made. -/
def World.move? (allows : γ → Exchange → γ → Bool) (world : World σ γ α) :
    Move ι γ → Option (Label ι × World σ γ α)
  | .begin who =>
    match world.tasks who with
    | .ready program => some (.begun who, world.resume who program)
    | _ => none
  | .handle who reply server =>
    match world.tasks who with
    | .sent request next =>
      if allows world.server ⟨request, reply⟩ server then
        some (.handled who ⟨request, reply⟩,
          ⟨world.state, server, Function.update world.tasks who (.served request reply next)⟩)
      else none
    | _ => none
  | .deliver who =>
    match world.tasks who with
    | .served request reply next =>
      some (.delivered who ⟨request, reply⟩, world.resume who (next reply))
    | _ => none

/-- What comes of choices, one after another, if they can be made. -/
def World.moves? (allows : γ → Exchange → γ → Bool) (world : World σ γ α) :
    List (Move ι γ) → Option (List (Label ι) × World σ γ α)
  | [] => some ([], world)
  | move :: moves => do
    let (label, next) ← world.move? allows move
    let (labels, last) ← next.moves? allows moves
    return (label :: labels, last)

variable {allows : γ → Exchange → γ → Bool} {serves : ψ → Exchange → ψ → Prop} {view : γ → ψ}
  {first : World σ ψ α} {world last : World σ γ α} {label : Label ι} {labels more : List (Label ι)}

theorem step_of_move? (sound : ∀ server exchange server', allows server exchange server' = true →
      serves (view server) exchange (view server'))
    {move : Move ι γ} (moved : world.move? allows move = some (label, last)) :
    Step serves (world.map view) label (last.map view) := by
  unfold World.move? at moved
  cases move with
  | begin who =>
    dsimp only at moved
    split at moved
    · rename_i program ready
      cases moved
      exact .begun ready
    · cases moved
  | handle who reply server =>
    dsimp only at moved
    split at moved
    · rename_i request next sent
      split at moved
      · rename_i allowed
        cases moved
        exact .handled sent (sound _ _ _ allowed)
      · cases moved
    · cases moved
  | deliver who =>
    dsimp only at moved
    split at moved
    · rename_i request reply next served
      cases moved
      exact .delivered served
    · cases moved

theorem Interleaves.moves? (sound : ∀ server exchange server',
      allows server exchange server' = true → serves (view server) exchange (view server'))
    {moves : List (Move ι γ)} (interleaves : Interleaves serves first labels (world.map view))
    (moved : world.moves? allows moves = some (more, last)) :
    Interleaves serves first (labels ++ more) (last.map view) := by
  induction moves generalizing labels more world with
  | nil =>
    cases moved
    rw [List.append_nil]
    exact interleaves
  | cons move moves ih =>
    obtain ⟨⟨label, next⟩, one, rest⟩ := Option.bind_eq_some_iff.mp moved
    obtain ⟨⟨others, ending⟩, behind, same⟩ := Option.bind_eq_some_iff.mp rest
    cases same
    rw [List.append_cons]
    exact ih (interleaves.step (step_of_move? sound one)) behind

end Moves
end TimeReports

import TimeReports.Proofs.Runs

set_option autoImplicit false

/- What holds while a program runs. A run stands still at each request, before the reply is there,
and at its end; these are its moments, each with the exchanges up to it and the state. What a
program assures is computed along its text, one rule for each way in which programs are made of
others, and it holds at every moment of every run. -/
namespace TimeReports

variable {σ τ α β : Type}

/-- A request and the reply to it. -/
structure Exchange where
  request : Harvest.Request
  reply : Harvest.Reply

def Event.exchange? : Event → Option Exchange
  | .noticed _ => none
  | .exchanged request reply => some ⟨request, reply⟩

/-- A point at which a run stands still: the exchanges up to there, and the state. -/
structure Moment (σ : Type) where
  past : List Exchange
  state : σ

/-- A moment with an exchange in front of those up to it. -/
def Moment.behind (exchange : Exchange) (moment : Moment σ) : Moment σ :=
  { moment with past := exchange :: moment.past }

namespace Program

/-- The moments of a run, in order: one at each request, and one at the end. -/
def moments : Program σ α → σ → List Harvest.Reply → List (Moment σ)
  | done _, state, _ => [⟨[], state⟩]
  | fail _, state, _ => [⟨[], state⟩]
  | spent, state, _ => [⟨[], state⟩]
  | look next, state, replies => (next state).moments state replies
  | put state next, _, replies => next.moments state replies
  | tell _ next, state, replies => next.moments state replies
  | ask request next, state, [] =>
    ⟨[], state⟩ :: ((next Harvest.notFound).moments state []).map
      (Moment.behind ⟨request, Harvest.notFound⟩)
  | ask request next, state, reply :: replies =>
    ⟨[], state⟩ :: ((next reply).moments state replies).map (Moment.behind ⟨request, reply⟩)

/-- The last moment of a run is its end. -/
theorem getLast?_moments (program : Program σ α) (state : σ) (replies : List Harvest.Reply) :
    (program.moments state replies).getLast? =
      some ⟨(program.run state replies).events.filterMap Event.exchange?,
        (program.run state replies).state⟩ := by
  induction program generalizing state replies with
  | done value => rfl
  | fail fault => rfl
  | spent => rfl
  | look next ih => exact ih state state replies
  | put changed next ih => exact ih changed replies
  | tell notice next ih => exact ih state replies
  | ask request next ih =>
    cases replies <;>
      simp [moments, run, List.getLast?_cons, List.getLast?_map, ih, Moment.behind,
        Event.exchange?]

/-- What a program assures, after the exchanges of `past` and in a state: `holds` at each request,
and `post` of the outcome at the end, whatever the replies. -/
def Assures (holds : List Exchange → σ → Prop) (post : Outcome α → List Exchange → σ → Prop) :
    Program σ α → List Exchange → σ → Prop
  | done value, past, state => post (.returned value) past state
  | fail fault, past, state => post (.failed fault) past state
  | spent, past, state => post .spent past state
  | look next, past, state => (next state).Assures holds post past state
  | put state next, past, _ => next.Assures holds post past state
  | tell _ next, past, state => next.Assures holds post past state
  | ask request next, past, state =>
    holds past state ∧
      ∀ reply, (next reply).Assures holds post (past ++ [⟨request, reply⟩]) state

section Rules

variable {holds : List Exchange → σ → Prop} {post wanted : Outcome α → List Exchange → σ → Prop}
  {past : List Exchange} {state : σ}

@[simp] theorem assures_done {value : α} :
    (done value).Assures holds post past state ↔ post (.returned value) past state := Iff.rfl

@[simp] theorem assures_fail {fault : Fault} :
    (fail fault).Assures holds post past state ↔ post (.failed fault) past state := Iff.rfl

@[simp] theorem assures_spent :
    spent.Assures holds post past state ↔ post .spent past state := Iff.rfl

@[simp] theorem assures_look {next : σ → Program σ α} :
    (look next).Assures holds post past state ↔ (next state).Assures holds post past state :=
  Iff.rfl

@[simp] theorem assures_get {post : Outcome σ → List Exchange → σ → Prop} :
    (get : Program σ σ).Assures holds post past state ↔ post (.returned state) past state :=
  Iff.rfl

/-- How writing a line ends. -/
def said [Console] (text : Text) : Outcome Unit :=
  match Console.refusal? text with
  | none => .returned ()
  | some found => .failed (.console found)

@[simp] theorem assures_say [Console] {text : Text}
    {post : Outcome Unit → List Exchange → σ → Prop} :
    (say text).Assures holds post past state ↔ post (said text) past state := by
  unfold say said
  cases Console.refusal? text <;> rfl

theorem assures_ask {request : Harvest.Request} {next : Harvest.Reply → Program σ α} :
    (ask request next).Assures holds post past state ↔ holds past state ∧
      ∀ reply, (next reply).Assures holds post (past ++ [⟨request, reply⟩]) state :=
  Iff.rfl

/-- What is wanted of the outcome of a program for what follows it to assure `post`. -/
def thenPost (holds : List Exchange → σ → Prop) (post : Outcome β → List Exchange → σ → Prop)
    (next : α → Program σ β) : Outcome α → List Exchange → σ → Prop
  | .returned value, past, state => (next value).Assures holds post past state
  | .failed fault, past, state => post (.failed fault) past state
  | .spent, past, state => post .spent past state

@[simp] theorem assures_bind {program : Program σ α} {next : α → Program σ β}
    {post : Outcome β → List Exchange → σ → Prop} :
    (program.bind next).Assures holds post past state ↔
      program.Assures holds (thenPost holds post next) past state := by
  induction program generalizing past state with
  | done value => rfl
  | fail fault => rfl
  | spent => rfl
  | look program ih => exact ih state
  | put changed program ih => exact ih
  | tell notice program ih => exact ih
  | ask request program ih =>
    simp only [bind, assures_ask, ih]

/-- What is wanted of the outcome of a program whose faults are answered. -/
def orElsePost (holds : List Exchange → σ → Prop) (post : Outcome α → List Exchange → σ → Prop)
    (handler : Fault → Program σ α) : Outcome α → List Exchange → σ → Prop
  | .failed fault, past, state => (handler fault).Assures holds post past state
  | outcome, past, state => post outcome past state

@[simp] theorem assures_recover {program : Program σ α} {handler : Fault → Program σ α} :
    (program.recover handler).Assures holds post past state ↔
      program.Assures holds (orElsePost holds post handler) past state := by
  induction program generalizing past state with
  | done value => rfl
  | fail fault => rfl
  | spent => rfl
  | look program ih => exact ih state
  | put changed program ih => exact ih
  | tell notice program ih => exact ih
  | ask request program ih =>
    simp only [recover, assures_ask, ih]

/-- What is wanted of the outcome of a program that is attempted. -/
def attemptPost (post : Outcome (Except Fault α) → List Exchange → σ → Prop) :
    Outcome α → List Exchange → σ → Prop
  | .returned value, past, state => post (.returned (.ok value)) past state
  | .failed fault, past, state => post (.returned (.error fault)) past state
  | .spent, past, state => post .spent past state

@[simp] theorem assures_attempt {program : Program σ α}
    {post : Outcome (Except Fault α) → List Exchange → σ → Prop} :
    program.attempt.Assures holds post past state ↔
      program.Assures holds (attemptPost post) past state := by
  rw [attempt, assures_recover, assures_bind]
  suffices same : thenPost holds (orElsePost holds post fun fault => done (.error fault))
      (fun value => done (.ok value)) = attemptPost post by rw [same]
  funext outcome past state
  cases outcome <;> rfl

theorem Assures.imp {program : Program σ α} (assured : program.Assures holds wanted past state)
    (enough : ∀ outcome past state, wanted outcome past state → post outcome past state) :
    program.Assures holds post past state := by
  induction program generalizing past state with
  | done value => exact enough _ _ _ assured
  | fail fault => exact enough _ _ _ assured
  | spent => exact enough _ _ _ assured
  | look program ih => exact ih state assured
  | put changed program ih => exact ih assured
  | tell notice program ih => exact ih assured
  | ask request program ih => exact ⟨assured.1, fun reply => ih reply (assured.2 reply)⟩

/-- A program over a part assures of the whole what it assures of the part. -/
theorem assures_zoom {part : τ → σ} {withPart : τ → σ → τ} {whole : τ}
    (same : withPart whole (part whole) = whole)
    (got : ∀ inner, part (withPart whole inner) = inner)
    (twice : ∀ first last, withPart (withPart whole first) last = withPart whole last)
    {program : Program σ α} {holds : List Exchange → τ → Prop}
    {post : Outcome α → List Exchange → τ → Prop} :
    (program.zoom part withPart).Assures holds post past whole ↔
      program.Assures (fun past inner => holds past (withPart whole inner))
        (fun outcome past inner => post outcome past (withPart whole inner)) past (part whole) := by
  suffices general : ∀ inner, (program.zoom part withPart).Assures holds post past
      (withPart whole inner) ↔ program.Assures (fun past inner => holds past (withPart whole inner))
        (fun outcome past inner => post outcome past (withPart whole inner)) past inner by
    simpa only [same] using general (part whole)
  induction program generalizing past with
  | done value => exact fun inner => Iff.rfl
  | fail fault => exact fun inner => Iff.rfl
  | spent => exact fun inner => Iff.rfl
  | look program ih =>
    intro inner
    simp only [zoom, assures_look, got]
    exact ih inner inner
  | put changed program ih =>
    intro inner
    change (program.zoom part withPart).Assures holds post past
      (withPart (withPart whole inner) changed) ↔ _
    rw [twice]
    exact ih changed
  | tell notice program ih => exact fun inner => ih inner
  | ask request program ih =>
    intro inner
    simp only [zoom, assures_ask, ih]

end Rules

section Keeps

variable {holds settled : List Exchange → σ → Prop} {program : Program σ α}

/-- Whether a program that starts where `settled` holds ends where it holds, with `holds` at each
request. -/
def Keeps (holds settled : List Exchange → σ → Prop) (program : Program σ α) : Prop :=
  ∀ ⦃past state⦄, settled past state → program.Assures holds (fun _ => settled) past state

theorem keeps_done {value : α} : (done value).Keeps holds settled := fun _ _ kept => kept

theorem keeps_fail {fault : Fault} : (fail fault : Program σ α).Keeps holds settled :=
  fun _ _ kept => kept

theorem keeps_say [Console] {text : Text} : (say text).Keeps holds settled :=
  fun _ _ kept => assures_say.mpr kept

theorem keeps_ofExcept {ε : Type} (toFault : ε → Fault) (result : Except ε α) :
    (ofExcept toFault result).Keeps holds settled := by
  cases result
  · exact keeps_fail
  · exact keeps_done

theorem keeps_modify {change : σ → σ}
    (unchanged : ∀ past state, settled past state → settled past (change state)) :
    (modify change).Keeps holds settled :=
  fun past state kept => unchanged past state kept

theorem keeps_get : (get : Program σ σ).Keeps holds settled := fun _ _ kept => kept

theorem Assures.bind {past : List Exchange} {state : σ} {next : α → Program σ β}
    (first : program.Assures holds (fun _ => settled) past state)
    (later : ∀ value, (next value).Keeps holds settled) :
    (program.bind next).Assures holds (fun _ => settled) past state := by
  refine assures_bind.mpr (first.imp fun outcome past state kept => ?_)
  cases outcome with
  | returned value => exact later value kept
  | failed fault => exact kept
  | spent => exact kept

theorem Keeps.bind {next : α → Program σ β} (first : program.Keeps holds settled)
    (later : ∀ value, (next value).Keeps holds settled) :
    (program.bind next).Keeps holds settled :=
  fun _ _ kept => (first kept).bind later

theorem Keeps.attempt (first : program.Keeps holds settled) :
    program.attempt.Keeps holds settled := by
  refine fun _ _ kept => assures_attempt.mpr ((first kept).imp fun outcome past state kept => ?_)
  cases outcome <;> exact kept

/-- A program over a part keeps of the whole what it keeps of the part. -/
theorem Keeps.zoom (part : τ → σ) (withPart : τ → σ → τ)
    (same : ∀ whole, withPart whole (part whole) = whole)
    (got : ∀ whole inner, part (withPart whole inner) = inner)
    (twice : ∀ whole first last, withPart (withPart whole first) last = withPart whole last)
    (kept : program.Keeps holds settled) :
    (program.zoom part withPart).Keeps (fun past whole => holds past (part whole))
      (fun past whole => settled past (part whole)) := by
  intro past whole start
  rw [assures_zoom (same whole) (got whole) (twice whole)]
  simp only [got]
  exact kept start

end Keeps

/-- What is assured of the requests and of the end holds at every moment of every run. -/
theorem Assures.of_mem_moments {holds : List Exchange → σ → Prop} {program : Program σ α}
    {past : List Exchange} {state : σ} {replies : List Harvest.Reply} {moment : Moment σ}
    (assured : program.Assures holds (fun _ => holds) past state)
    (reached : moment ∈ program.moments state replies) :
    holds (past ++ moment.past) moment.state := by
  induction program generalizing past state replies moment with
  | done value =>
    obtain rfl := List.mem_singleton.mp reached
    simpa using assured
  | fail fault =>
    obtain rfl := List.mem_singleton.mp reached
    simpa using assured
  | spent =>
    obtain rfl := List.mem_singleton.mp reached
    simpa using assured
  | look program ih => exact ih state assured reached
  | put changed program ih => exact ih assured reached
  | tell notice program ih => exact ih assured reached
  | ask request program ih =>
    have later (reply : Harvest.Reply) (replies : List Harvest.Reply)
        (reached : moment ∈ ⟨[], state⟩ :: ((program reply).moments state replies).map
          (Moment.behind ⟨request, reply⟩)) : holds (past ++ moment.past) moment.state := by
      rcases List.mem_cons.mp reached with rfl | reached
      · simpa using assured.1
      · obtain ⟨inner, among, rfl⟩ := List.mem_map.mp reached
        simpa [Moment.behind] using ih reply (assured.2 reply) among
    cases replies with
    | nil => exact later _ _ reached
    | cons reply replies => exact later reply replies reached

/-- Each moment of a run goes on from the exchanges of those before it. -/
theorem pairwise_moments (program : Program σ α) (state : σ) (replies : List Harvest.Reply) :
    (program.moments state replies).Pairwise fun earlier later => earlier.past <+: later.past := by
  induction program generalizing state replies with
  | done value => exact List.pairwise_singleton _ _
  | fail fault => exact List.pairwise_singleton _ _
  | spent => exact List.pairwise_singleton _ _
  | look program ih => exact ih state state replies
  | put changed program ih => exact ih changed replies
  | tell notice program ih => exact ih state replies
  | ask request program ih =>
    have later (reply : Harvest.Reply) (replies : List Harvest.Reply) :
        (⟨[], state⟩ :: ((program reply).moments state replies).map
          (Moment.behind ⟨request, reply⟩)).Pairwise
            fun earlier later => earlier.past <+: later.past := by
      refine List.pairwise_cons.mpr ⟨fun moment _ => List.nil_prefix, ?_⟩
      rw [List.pairwise_map]
      exact (ih reply state replies).imp fun goesOn => (List.prefix_cons_inj _).mpr goesOn
    cases replies with
    | nil => exact later _ _
    | cons reply replies => exact later reply replies

/-- A program whose outcome is let go, so that another one can follow whatever it did. -/
def toEnd : Program σ α → Program σ Unit
  | done _ => done ()
  | fail _ => done ()
  | spent => done ()
  | look program => look fun state => (program state).toEnd
  | put state program => put state program.toEnd
  | tell notice program => tell notice program.toEnd
  | ask request program => ask request fun reply => (program reply).toEnd

theorem assures_toEnd {holds : List Exchange → σ → Prop} {program : Program σ α}
    {post : Outcome Unit → List Exchange → σ → Prop} {past : List Exchange} {state : σ} :
    program.toEnd.Assures holds post past state ↔
      program.Assures holds (fun _ => post (.returned ())) past state := by
  induction program generalizing past state with
  | done value => rfl
  | fail fault => rfl
  | spent => rfl
  | look program ih => exact ih state
  | put changed program ih => exact ih
  | tell notice program ih => exact ih
  | ask request program ih => simp only [toEnd, assures_ask, ih]

theorem Keeps.toEnd {holds settled : List Exchange → σ → Prop} {program : Program σ α}
    (kept : program.Keeps holds settled) : program.toEnd.Keeps holds settled :=
  fun _ _ settled => assures_toEnd.mpr (kept settled)

end Program
end TimeReports

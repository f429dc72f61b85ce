import TimeReports.Calendar.Range
import TimeReports.Console
import TimeReports.Harvest.Wire

set_option autoImplicit false

namespace TimeReports

/-- Something that a program gives notice of. -/
inductive Notice where
  /-- A line on the console. -/
  | line (text : Text)
  /-- A display shown while a report is loading. -/
  | display (tree : Display.Tree)
  /-- The entries of a range are about to be fetched. -/
  | fetching (range : DateRange)

inductive Program (σ α : Type) where
  | done (value : α)
  | fail (fault : Fault)
  /-- A listing has more pages than its budget allows. -/
  | spent
  | look (next : σ → Program σ α)
  | put (state : σ) (next : Program σ α)
  | tell (notice : Notice) (next : Program σ α)
  | ask (request : Harvest.Request) (next : Harvest.Reply → Program σ α)

namespace Program

variable {σ τ α β : Type}

def bind : Program σ α → (α → Program σ β) → Program σ β
  | done value, next => next value
  | fail fault, _ => fail fault
  | spent, _ => spent
  | look program, next => look fun state => (program state).bind next
  | put state program, next => put state (program.bind next)
  | tell notice program, next => tell notice (program.bind next)
  | ask request program, next => ask request fun reply => (program reply).bind next

instance : Monad (Program σ) where
  pure := done
  bind := bind

/-- A program whose faults are answered by another. -/
def recover : Program σ α → (Fault → Program σ α) → Program σ α
  | done value, _ => done value
  | fail fault, handler => handler fault
  | spent, _ => spent
  | look program, handler => look fun state => (program state).recover handler
  | put state program, handler => put state (program.recover handler)
  | tell notice program, handler => tell notice (program.recover handler)
  | ask request program, handler => ask request fun reply => (program reply).recover handler

def attempt (program : Program σ α) : Program σ (Except Fault α) :=
  (program.bind fun value => done (.ok value)).recover fun fault => done (.error fault)

def zoom (part : τ → σ) (withPart : τ → σ → τ) : Program σ α → Program τ α
  | done value => done value
  | fail fault => fail fault
  | spent => spent
  | look program => look fun state => zoom part withPart (program (part state))
  | put inner program => look fun state => put (withPart state inner) (zoom part withPart program)
  | tell notice program => tell notice (zoom part withPart program)
  | ask request program => ask request fun reply => zoom part withPart (program reply)

def get : Program σ σ := look done

def modify (change : σ → σ) : Program σ Unit := look fun state => put (change state) (done ())

/-- Writes a line to the console. A line that is refused stops the program. -/
def say [Console] (text : Text) : Program σ Unit :=
  match Console.refusal? text with
  | none => tell (.line text) (done ())
  | some found => fail (.console found)

section

variable [Console] {text : Text}

theorem say_of_takes (takes : Console.Takes text) :
    (say text : Program σ Unit) = tell (.line text) (done ()) := by
  unfold say
  rw [show Console.refusal? text = none from takes]

theorem say_of_refusal {found : Text.Unencodable} (refused : Console.refusal? text = some found) :
    (say text : Program σ Unit) = fail (.console found) := by
  simp only [say, refused]

end

/-- The value of a check, whose fault stops the program. -/
def ofExcept {ε : Type} (toFault : ε → Fault) : Except ε α → Program σ α
  | .ok value => done value
  | .error fault => fail (toFault fault)

end Program

/-- Something that happened while a program ran. -/
inductive Event where
  | noticed (notice : Notice)
  | exchanged (request : Harvest.Request) (reply : Harvest.Reply)

inductive Outcome (α : Type) where
  | returned (value : α)
  | failed (fault : Fault)
  | spent

/-- A finished run: how it ended, the state it left, the replies that were not asked for, and what
happened, in order. -/
structure Run (σ α : Type) where
  outcome : Outcome α
  state : σ
  unused : List Harvest.Reply
  events : List Event

/-- A run with something that happened before it. -/
def Run.after {σ α : Type} (event : Event) (run : Run σ α) : Run σ α :=
  { run with events := event :: run.events }

namespace Program

variable {σ α : Type}

/-- Runs a program against replies, in order. When none are left the service answers that nothing is
there. -/
def run : Program σ α → σ → List Harvest.Reply → Run σ α
  | done value, state, replies => ⟨.returned value, state, replies, []⟩
  | fail fault, state, replies => ⟨.failed fault, state, replies, []⟩
  | spent, state, replies => ⟨.spent, state, replies, []⟩
  | look next, state, replies => (next state).run state replies
  | put state next, _, replies => next.run state replies
  | tell notice next, state, replies => (next.run state replies).after (.noticed notice)
  | ask request next, state, [] =>
    ((next Harvest.notFound).run state []).after (.exchanged request Harvest.notFound)
  | ask request next, state, reply :: replies =>
    ((next reply).run state replies).after (.exchanged request reply)

end Program
end TimeReports

import TimeReports.Session.Basic

set_option autoImplicit false

namespace TimeReports.Session

variable [Console]

/-- The minutes between polls when none are set. -/
def defaultInterval : Int := 5

/-- The seconds between polls, for a number of minutes that should be positive. -/
def intervalSeconds (minutes : Int) : Int :=
  60 * (if minutes ≤ 0 then defaultInterval else minutes)

/-- Asks for the running timer and reports a failure. -/
def pollOnce : SessionProgram Unit := do
  match ← refreshRunningTimer.attempt with
  | .ok _ => return ()
  | .error fault =>
    match fault.apiFailure?, fault with
    | some failure, _ => Program.say ("Timer refresh failed: ".text ++ failure.message)
    | none, .breakdown kind message =>
      Program.say ("Timer refresh failed unexpectedly: ".text ++ kind.name ++ ": ".text
        ++ message)
    | none, .console found =>
      Program.say ("Timer refresh failed unexpectedly: UnicodeEncodeError: ".text ++ found.message)
    | none, fault =>
      Program.say ("Timer refresh failed unexpectedly: ".text ++ fault.message)

/-- Polls that recur, with a wait behind each. -/
structure Poller where
  /-- The seconds of a wait. -/
  interval : Int
  running : Bool
  /-- The waits so far. -/
  sleeps : List Int
  deriving DecidableEq, Repr

namespace Poller

/-- A poller that was not started, for a number of minutes between polls. -/
def ofMinutes (minutes : Int) : Poller := ⟨intervalSeconds minutes, false, []⟩

def start (poller : Poller) : Poller := { poller with running := true }

def stop (poller : Poller) : Poller := { poller with running := false }

/-- Polls a number of times. A poll that fails is the last one. -/
def poll : Nat → Poller → SessionProgram Poller
  | 0, poller => return poller
  | polls + 1, poller => do
    pollOnce
    poll polls { poller with sleeps := poller.sleeps ++ [poller.interval] }

end Poller

/-- What is done at the start: with credentials the user is looked up and polling begins. Gives
whether it does. -/
def openService : SessionProgram Bool := do
  if (← Program.get).client.hasCredentials then
    let _ ← refreshUser
    return true
  else
    Program.say "Warning: Harvest API credentials are not set.".text
    return false

/-- What a service does by itself until it has polled a number of times. -/
def serve (minutes : Int) (polls : Nat) : SessionProgram Poller := do
  let polling ← openService
  let poller := Poller.ofMinutes minutes
  if polling then poller.start.poll polls else return poller

end Session
end TimeReports

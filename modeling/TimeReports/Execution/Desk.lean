import TimeReports.Session.Basic
import TimeReports.Vault.Basic

set_option autoImplicit false

namespace TimeReports

structure Desk where
  session : Session
  vault : Vault

namespace Desk

variable [Console]

def inSession {α : Type} (program : SessionProgram α) : Program Desk α :=
  program.zoom (·.session) fun desk session => { desk with session }

/-- The user's time entries on days of a range. -/
def fetchEntries (first last : Date) : Program Desk (List TimeEntry) :=
  inSession (Session.fetchEntries first last)

def read (document : Text) : Program Desk Text := do
  let desk ← Program.get
  Program.ofExcept Fault.ofVault (desk.vault.read document)

def replaceLines (document : Text) (first last : Int) (replacement : Text) :
    Program Desk Unit := do
  let desk ← Program.get
  let (vault, outcome) := desk.vault.replaceLines document first last replacement
  Program.modify fun desk => { desk with vault }
  Program.ofExcept Fault.ofVault outcome

end Desk
end TimeReports

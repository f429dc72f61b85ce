import TimeReports.Query.Basic
import TimeReports.Record.Basic
import TimeReports.Report.Totals

set_option autoImplicit false

namespace TimeReports.Report

/-- A time entry as a row of a list. -/
structure Row where
  project : Text
  task : Text
  date : Date
  hours : Float

inductive View where
  | noEntries
  | list (rows : List Row)
  | summary (summary : Summary Float)

def Row.ofEntry (entry : TimeEntry) : Row :=
  ⟨entry.project.name, entry.task.name, entry.spentDate, entry.hours⟩

def namedHours (entry : TimeEntry) : Text × Float := (entry.project.name, entry.hours)

def aggregate (entries : List TimeEntry) (kind : ReportKind) : View :=
  if entries.isEmpty then .noEntries
  else
    match kind with
    | .list => .list (entries.map Row.ofEntry)
    | .summary => .summary (summarize (entries.map namedHours))

def totalHours (entries : List TimeEntry) : Float := sum (entries.map (·.hours))

end TimeReports.Report

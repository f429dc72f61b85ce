import TimeReports.Display.Tree
import TimeReports.Number.Written
import TimeReports.Report.View

set_option autoImplicit false

namespace TimeReports.Display

open Report

/-- Hours with two decimal places. -/
def formatHours (hours : Float) : Text := Number.fixed 2 hours

/-- The colours of projects, by rank. -/
def palette : List Text :=
  ["#84b65a".text, "#c25956".text, "#59a7c2".text, "#c29b59".text, "#8e59c2".text,
    "#c2598e".text, "#5ac28a".text]

/-- The colour of a rank; the palette repeats in both directions. -/
def color (rank : Int) : Text := palette.getD (rank % palette.length).toNat []

def listHeaders : List Text := ["Project".text, "Task".text, "Date".text, "Hours".text]

def cells (row : Row) : List Text := [row.project, row.task, row.date.iso, formatHours row.hours]

def ofRows (rows : List Row) : Tree where
  children := [.table listHeaders (rows.map cells) tableStyle]
  style := reportStyle

def segment (summary : Summary Float) (rank : Nat) (total : Text × Float) : Segment where
  label := total.1
  hours := total.2
  percentage := summary.share total.2
  color := color rank
  title := total.1 ++ ": ".text ++ formatHours total.2 ++ " hours".text

def legendItem (rank : Nat) (total : Text × Float) : LegendItem where
  label := total.1 ++ ": ".text ++ formatHours total.2 ++ "h".text
  color := color rank

def summaryHeading : Text := "Time Summary".text

def ofSummary (summary : Summary Float) : Tree where
  children := [
    .heading summaryHeading 3,
    .paragraph ("Total Hours: ".text ++ formatHours summary.total) true none,
    .barChart (summary.totals.mapIdx (segment summary)),
    .legend (summary.totals.mapIdx legendItem)]
  style := reportStyle

def noEntriesMessage : Text := "No time entries found for the selected period.".text

def render : View → Tree
  | .noEntries => .message noEntriesMessage "harvest-empty"
  | .list rows => ofRows rows
  | .summary summary => ofSummary summary

end TimeReports.Display

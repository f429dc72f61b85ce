import TimeReports.Text.Basic

set_option autoImplicit false

namespace TimeReports.Report

variable {α : Type}

def sum [Add α] [OfNat α 0] (hours : List α) : α := hours.foldl (· + ·) 0

/-- Hours added to the total of a name; a new name goes behind the others. -/
def addTo [Add α] [OfNat α 0] (name : Text) (hours : α) : List (Text × α) → List (Text × α)
  | [] => [(name, 0 + hours)]
  | (other, total) :: rest =>
    if other = name then (other, total + hours) :: rest
    else (other, total) :: addTo name hours rest

/-- The total of each name, in the order of their first appearance. -/
def totalsByName [Add α] [OfNat α 0] (items : List (Text × α)) : List (Text × α) :=
  items.foldl (fun totals (name, hours) => addTo name hours totals) []

/-- Totals with the most hours first; equal ones keep their order. -/
def ranked [LE α] [DecidableLE α] (totals : List (Text × α)) : List (Text × α) :=
  totals.mergeSort fun left right => decide (right.2 ≤ left.2)

structure Summary (α : Type) where
  total : α
  totals : List (Text × α)
  deriving DecidableEq, Repr

/-- The summary of hours with the names of their projects. -/
def summarize [Add α] [OfNat α 0] [LE α] [DecidableLE α] (items : List (Text × α)) : Summary α where
  total := sum (items.map (·.2))
  totals := ranked (totalsByName items)

/-- The percentage that hours are of the total; none of it when nothing was tracked. -/
def Summary.share [Mul α] [Div α] [OfNat α 0] [OfNat α 100] [LE α] [DecidableLE α]
    (summary : Summary α) (hours : α) : α :=
  if summary.total ≤ 0 then 0 else hours / summary.total * 100

end TimeReports.Report

import TimeReports.Display.Render
import TimeReports.Fault
import TimeReports.Workbook.Cell

set_option autoImplicit false

namespace TimeReports.Workbook

open Report

def plainFormat : Text := "General".text

def hoursFormat : Text := "0.00".text

def checkRow (row : Nat) : Except Fault Unit :=
  if row ≤ rowLimit then .ok () else .error (.breakdown .value (rowMessage row))

def textCell (row column : Nat) (text : Text) (bold : Bool) (fill : Option Text) :
    Except Fault Cell :=
  match contentOf text with
  | .ok content => .ok ⟨row, column, content, plainFormat, bold, fill⟩
  | .error kept => .error (.cell kept)

def hoursCell (row column : Nat) (hours : Float) : Cell :=
  ⟨row, column, .number hours, hoursFormat, false, none⟩

def headerCells (headers : List Text) : List Cell :=
  headers.mapIdx fun index header => ⟨1, index + 1, .text header, plainFormat, true, none⟩

def rowCells (index : Nat) (row : Row) : Except Fault (List Cell) := do
  let number := index + 2
  checkRow number
  let project ← textCell number 1 row.project false none
  let task ← textCell number 2 row.task false none
  .ok [project, task, ⟨number, 3, .date row.date, "yyyy-mm-dd".text, false, none⟩,
    hoursCell number 4 row.hours]

def cellsFrom {α : Type} (cells : Nat → α → Except Fault (List Cell)) :
    Nat → List α → Except Fault (List Cell)
  | _, [] => .ok []
  | index, item :: rest => do
    let here ← cells index item
    let others ← cellsFrom cells (index + 1) rest
    .ok (here ++ others)

/-- The formula that sums the hours of a list. -/
def sumFormula (count : Nat) : Text := "=SUM(D2:D".text ++ Text.natDigits (count + 1) ++ ")".text

def listCells (rows : List Row) : Except Fault (List Cell) := do
  let body ← cellsFrom rowCells 0 rows
  let last := rows.length + 2
  checkRow last
  .ok (headerCells Display.listHeaders ++ body ++
    [⟨last, 3, .text "Total".text, plainFormat, true, none⟩,
      ⟨last, 4, .formula (sumFormula rows.length), hoursFormat, false, none⟩])

def summaryHeaders : List Text := ["Project".text, "Hours".text, "Share".text]

def rankFill (rank : Nat) : Text :=
  .char '0' :: .char '0' :: ((Display.color rank).dropWhile (· = .char '#')).map CodePoint.toUpper

def projectCells (summary : Summary Float) (rank : Nat) (total : Text × Float) :
    Except Fault (List Cell) := do
  let number := rank + 2
  checkRow number
  let name ← textCell number 1 total.1 false (some (rankFill rank))
  .ok [name, hoursCell number 2 total.2,
    ⟨number, 3, .number (summary.share total.2 / 100), "0.0%".text, false, none⟩]

def summaryCells (summary : Summary Float) : Except Fault (List Cell) := do
  let body ← cellsFrom (projectCells summary) 0 summary.totals
  let last := summary.totals.length + 2
  checkRow last
  .ok (headerCells summaryHeaders ++ body ++
    [⟨last, 1, .text "Total Hours".text, plainFormat, true, none⟩,
      hoursCell last 2 summary.total])

def kindTitle : ReportKind → Text
  | .list => "List".text
  | .summary => "Summary".text

def titleLength : Nat := 31

def sheetTitle (query : Query) : Text :=
  (kindTitle query.kind ++ .char ' ' :: query.range.first.iso ++ " - ".text
    ++ query.range.last.iso).take titleLength

def ofView (view : View) (query : Query) : Except Fault Sheet := do
  match view with
  | .noEntries =>
    .ok ⟨sheetTitle query,
      [⟨1, 1, .text Display.noEntriesMessage, plainFormat, false, none⟩], 1⟩
  | .list rows => .ok ⟨sheetTitle query, ← listCells rows, Display.listHeaders.length⟩
  | .summary summary => .ok ⟨sheetTitle query, ← summaryCells summary, summaryHeaders.length⟩

end TimeReports.Workbook

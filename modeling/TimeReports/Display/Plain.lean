import TimeReports.Display.Tree
import TimeReports.Number.Written
import TimeReports.Text.Blank

set_option autoImplicit false

namespace TimeReports.Display

/-- The widest of the widths and the cells of a row, column by column. Refuses a row that has more
cells than there are columns. -/
def widen? : List Nat → List Text → Option (List Nat)
  | widths, [] => some widths
  | [], _ :: _ => none
  | width :: widths, cell :: row => (widen? widths row).map (max width cell.length :: ·)

def columnWidths? (headers : List Text) (rows : List (List Text)) : Option (List Nat) :=
  rows.foldlM widen? (headers.map List.length)

/-- Cells in their columns: the last one stands to the right, the others to the left. -/
def padCells : List Nat → List Text → List Text
  | width :: _, [last] => [Text.padLeft width last]
  | width :: widths, cell :: row => Text.padRight width cell :: padCells widths row
  | _, _ => []

def plainRow (widths : List Nat) (row : List Text) : Text :=
  Text.trimRight (Text.join [' ', ' '] (padCells widths row))

def plainTable (headers : List Text) (rows : List (List Text)) : Except Fault (List Text) :=
  match columnWidths? headers rows with
  | none => .error .rowTooLong
  | some widths =>
    .ok (plainRow widths headers
      :: Text.join [' ', ' '] (widths.map fun width => List.replicate width '-')
      :: rows.map (plainRow widths))

def barWidth : Nat := 40

/-- The number of characters of a bar, ties to even. -/
def barLength (percentage : Float) : Except Fault Nat :=
  match Number.shape (percentage / 100 * barWidth.toFloat) with
  | .nan => .error .undefinedBar
  | .infinite _ => .error .infiniteBar
  | .finite negative numerator denominator =>
    let length := Number.roundNearest numerator denominator
    if negative then (if Number.twoTo 63 < length then .error .uncountableBar else .ok 0)
    else if Number.twoTo 63 ≤ length then .error .uncountableBar
    else if Number.twoTo 40 ≤ length then .error .hugeBar
    else .ok length

/-- The line of a bar, its label in a column of that width. -/
def plainSegment (labelWidth : Nat) (segment : Segment) : Except Fault Text := do
  let length ← barLength segment.percentage
  .ok (Text.padRight labelWidth segment.label ++ "  ".text
    ++ Text.padRight barWidth (List.replicate length '#') ++ "  ".text
    ++ Text.padLeft 5 (Number.fixed 1 segment.percentage) ++ "%".text)

def plainNode : Node → Except Fault (List Text)
  | .heading text _ => .ok [text, List.replicate text.length '=']
  | .paragraph text _ _ => .ok [text]
  | .table headers rows _ => plainTable headers rows
  | .barChart segments =>
    let labelWidth := (segments.map (·.label.length)).foldl max 0
    segments.mapM (plainSegment labelWidth)
  | .legend items => .ok (items.map fun item => '*' :: ' ' :: item.label)
  | .foreign kind => .error (.unsupportedNode kind)

def plainNodes : List Node → Except Fault (List Text)
  | [] => .ok []
  | node :: rest => do
    let lines ← plainNode node
    let others ← plainNodes rest
    .ok (lines ++ others)

def Tree.plain (tree : Tree) : Except Fault Text :=
  (plainNodes tree.children).map (Text.join ['\n'])

end TimeReports.Display

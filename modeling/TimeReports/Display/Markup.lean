import TimeReports.Display.Tree
import TimeReports.Number.Written
import TimeReports.Text.Escape

set_option autoImplicit false

namespace TimeReports.Display

def cellStyle (align : String) : Text :=
  "padding: 8px; border: 1px solid var(--background-modifier-border); text-align: ".text
    ++ align.text ++ ";".text

/-- The style of the frame around the bars. -/
def chartStyle : Text :=
  ("display: flex; width: 100%; height: 20px; border-radius: 3px; "
    ++ "overflow: hidden; margin-bottom: 1em;").text

def sampleStyle : Text :=
  "width: 12px; height: 12px; margin-right: 8px; border-radius: 2px;".text

def markupHeader (header : Text) : Text :=
  "<th style=\"".text ++ cellStyle "left" ++ "\">".text ++ Text.escape header ++ "</th>".text

/-- The cells of a row; the last one holds hours and stands to the right. -/
def markupCells : List Text → Text
  | [] => []
  | [hours] =>
    "<td class=\"harvest-hours\" style=\"".text ++ cellStyle "right" ++ "\">".text
      ++ Text.escape hours ++ "</td>".text
  | cell :: rest =>
    "<td style=\"".text ++ cellStyle "left" ++ "\">".text ++ Text.escape cell ++ "</td>".text
      ++ markupCells rest

def markupRow (row : List Text) : Text := "<tr>".text ++ markupCells row ++ "</tr>".text

def markupSegment (segment : Segment) : Text :=
  "<div class=\"harvest-barchart-bar\" style=\"height: 100%; width: ".text
    ++ Number.general Number.shareLayout 6 segment.percentage
    ++ "%; background-color: ".text ++ segment.color ++ ";\" title=\"".text
    ++ Text.escape segment.title ++ "\"></div>".text

def markupLegendItem (item : LegendItem) : Text :=
  "<div class=\"harvest-legend-item\" style=\"display: flex; align-items: center;\">".text
    ++ "<div class=\"harvest-legend-swatch\" style=\"".text ++ sampleStyle
    ++ " background-color: ".text ++ item.color ++ ";\"></div><span>".text
    ++ Text.escape item.label ++ "</span></div>".text

def markupNode : Node → Except Fault (List Text)
  | .heading text level =>
    .ok ["<h".text ++ Text.intDigits level ++ .char '>' :: Text.escape text ++ "</h".text
      ++ Text.intDigits level ++ ">".text]
  | .paragraph text strong style =>
    let styled := match style with
      | none => []
      | some [] => []
      | some style => " class=\"".text ++ Text.escape style ++ "\"".text
    let content := Text.escape text
    .ok ["<p".text ++ styled ++ .char '>'
      :: (if strong then "<strong>".text ++ content ++ "</strong>".text else content)
      ++ "</p>".text]
  | .table headers rows style =>
    .ok (["<table class=\"".text ++ Text.escape style
        ++ "\" style=\"width: 100%; border-collapse: collapse;\">".text,
      "<thead><tr>".text ++ headers.flatMap markupHeader ++ "</tr></thead>".text,
      "<tbody>".text]
      ++ rows.map markupRow ++ ["</tbody>".text, "</table>".text])
  | .barChart segments =>
    .ok (("<div class=\"harvest-barchart-container\" style=\"".text ++ chartStyle
        ++ "\">".text) :: segments.map markupSegment ++ ["</div>".text])
  | .legend items =>
    .ok (("<div class=\"harvest-barchart-legend\" style=\"display: flex; ".text
        ++ "flex-direction: column; gap: 0.5em;\">".text) :: items.map markupLegendItem
      ++ ["</div>".text])
  | .foreign kind => .error (.unsupportedNode kind)

def markupNodes : List Node → Except Fault (List Text)
  | [] => .ok []
  | node :: rest => do
    let lines ← markupNode node
    let others ← markupNodes rest
    .ok (lines ++ others)

def Tree.markup (tree : Tree) : Except Fault Text := do
  let lines ← markupNodes tree.children
  .ok (Text.join ['\n']
    (("<div class=\"".text ++ Text.escape tree.style ++ "\">".text) :: lines
      ++ ["</div>".text]))

end TimeReports.Display

import TimeReports.Proofs.Executions
import TimeReports.Proofs.Nesting

set_option autoImplicit false

namespace TimeReports

/-- Totals with the empty text in the place of each name. -/
def Report.unnamed (totals : List (Text × Float)) : List (Text × Float) :=
  totals.map fun total => ([], total.2)

/-- A view with the empty text in the place of each name. -/
def Report.View.withoutNames : View → View
  | .noEntries => .noEntries
  | .list rows => .list (rows.map fun row => { row with project := [], task := [] })
  | .summary report => .summary { report with totals := unnamed report.totals }

namespace Text

theorem delimiters_greater (text : Text) :
    delimiters (.char '>' :: text) = .char '>' :: delimiters text := rfl

@[simp] theorem delimiters_escape (text : Text) : delimiters (escape text) = [] :=
  (undelimited_escape text).delimiters_eq

theorem delimiters_flatMap {α : Type} (write : α → Text) (items : List α) :
    delimiters (items.flatMap write) = items.flatMap fun item => delimiters (write item) := by
  induction items with
  | nil => rfl
  | cons item items ih => simp only [List.flatMap_cons, delimiters_append, ih]

end Text

namespace Display

open Report Text

def blank (texts : List Text) : List Text := texts.map fun _ => []

/-- A node with empty texts in the place of its own. The classes that style it stay. -/
def Node.frame : Node → Node
  | .heading _ level => .heading [] level
  | .paragraph _ strong style => .paragraph [] strong style
  | .table headers rows style => .table (blank headers) (rows.map blank) style
  | .barChart segments =>
    .barChart (segments.map fun segment => { segment with label := [], title := [] })
  | .legend items => .legend (items.map fun item => { item with label := [] })
  | .foreign kind => .foreign kind

def Tree.frame (tree : Tree) : Tree := { tree with children := tree.children.map Node.frame }

theorem delimiters_markupHeader (header : Text) :
    delimiters (markupHeader header) = delimiters (markupHeader []) := by
  simp only [markupHeader, delimiters_append, delimiters_escape]

theorem delimiters_markupCells_blank (cells : List Text) :
    delimiters (markupCells (blank cells)) = delimiters (markupCells cells) := by
  induction cells with
  | nil => rfl
  | cons cell rest ih =>
    cases rest with
    | nil =>
      simp only [blank, List.map_cons, List.map_nil, markupCells, delimiters_append,
        delimiters_escape]
    | cons next rest =>
      have behind : delimiters (markupCells ([] :: blank rest)) =
        delimiters (markupCells (next :: rest)) := ih
      show delimiters (_ ++ markupCells ([] :: blank rest)) =
        delimiters (_ ++ markupCells (next :: rest))
      rw [delimiters_append, delimiters_append, behind]
      simp only [delimiters_append, delimiters_escape]

theorem delimiters_markupRow_blank (row : List Text) :
    delimiters (markupRow (blank row)) = delimiters (markupRow row) := by
  simp only [markupRow, delimiters_append, delimiters_markupCells_blank]

theorem delimiters_markupSegment (segment : Segment) :
    delimiters (markupSegment { segment with label := [], title := [] }) =
      delimiters (markupSegment segment) := by
  simp only [markupSegment, delimiters_append, delimiters_escape]

theorem delimiters_markupLegendItem (item : LegendItem) :
    delimiters (markupLegendItem { item with label := [] }) =
      delimiters (markupLegendItem item) := by
  simp only [markupLegendItem, delimiters_append, delimiters_escape]

def Node.delimiters (node : Node) : Except Fault Text :=
  (markupNode node).map fun lines => lines.flatMap Text.delimiters

theorem delimiters_tableHead (headers : List Text) :
    delimiters ((blank headers).flatMap markupHeader) =
      delimiters (headers.flatMap markupHeader) := by
  rw [delimiters_flatMap, delimiters_flatMap, blank, List.flatMap_map]
  exact List.flatMap_congr fun header _ => (delimiters_markupHeader header).symm

/-- The texts of a node add no delimiter to its lines. -/
theorem delimiters_frame (node : Node) : node.frame.delimiters = node.delimiters := by
  cases node with
  | heading text level =>
    refine congrArg Except.ok ?_
    simp only [List.flatMap_cons, List.flatMap_nil, delimiters_append, delimiters_greater,
      delimiters_escape]
  | paragraph text strong style =>
    refine congrArg Except.ok ?_
    cases strong <;>
      simp only [List.flatMap_cons, List.flatMap_nil, delimiters_append, delimiters_greater,
        delimiters_escape, ↓reduceIte, Bool.false_eq_true]
  | table headers rows style =>
    refine congrArg Except.ok ?_
    simp only [List.flatMap_append, List.flatMap_cons, List.flatMap_nil, delimiters_append,
      delimiters_tableHead, List.flatMap_map, delimiters_markupRow_blank]
  | barChart segments =>
    refine congrArg Except.ok ?_
    simp only [List.flatMap_append, List.flatMap_cons, List.flatMap_map, delimiters_markupSegment]
  | legend items =>
    refine congrArg Except.ok ?_
    simp only [List.flatMap_append, List.flatMap_cons, List.flatMap_map,
      delimiters_markupLegendItem]
  | foreign kind => rfl

/-- The delimiters of the lines of nodes one after another. -/
def nodesDelimiters (nodes : List Node) : Except Fault Text :=
  (markupNodes nodes).map fun lines => lines.flatMap Text.delimiters

theorem nodesDelimiters_cons (node : Node) (nodes : List Node) :
    nodesDelimiters (node :: nodes) =
      node.delimiters.bind fun front => (nodesDelimiters nodes).map (front ++ ·) := by
  rw [nodesDelimiters, nodesDelimiters, Node.delimiters, markupNodes]
  cases markupNode node with
  | error fault => rfl
  | ok lines =>
    cases markupNodes nodes with
    | error fault => rfl
    | ok others => exact congrArg Except.ok List.flatMap_append

theorem nodesDelimiters_map_frame (nodes : List Node) :
    nodesDelimiters (nodes.map Node.frame) = nodesDelimiters nodes := by
  induction nodes with
  | nil => rfl
  | cons node nodes ih =>
    rw [List.map_cons, nodesDelimiters_cons, nodesDelimiters_cons, delimiters_frame, ih]

theorem delimiters_lined (lines : List Text) :
    delimiters (lined lines) = lines.flatMap delimiters := by
  rw [lined, delimiters_flatMap]
  rfl

/-- The delimiters of a display are those of its nodes, inside of the tags of its own. -/
theorem map_delimiters_markup (tree : Tree) :
    tree.markup.map delimiters = (nodesDelimiters tree.children).map fun inner =>
      delimiters ("<div class=\"".text ++ escape tree.style ++ "\">".text)
        ++ (inner ++ delimiters "</div>".text) := by
  rw [Tree.markup, nodesDelimiters]
  cases markupNodes tree.children with
  | error fault => rfl
  | ok lines =>
    refine congrArg Except.ok ?_
    rw [List.cons_append, join_feed_cons, delimiters_append, delimiters_lined, List.flatMap_append,
      List.flatMap_singleton]

theorem map_delimiters_markup_frame (tree : Tree) :
    tree.frame.markup.map delimiters = tree.markup.map delimiters := by
  rw [map_delimiters_markup, map_delimiters_markup, Tree.frame, nodesDelimiters_map_frame]

/-- The widths of bars come from the hours, their colours from their ranks. -/
theorem frame_segments_unnamed (summary : Summary Float) (totals : List (Text × Float)) :
    (Node.barChart ((unnamed totals).mapIdx (segment summary))).frame =
      (Node.barChart (totals.mapIdx (segment summary))).frame := by
  refine congrArg Node.barChart (List.ext_getElem? fun index => ?_)
  simp only [unnamed, List.getElem?_map, List.getElem?_mapIdx, Option.map_map]
  rfl

theorem frame_items_unnamed (totals : List (Text × Float)) :
    (Node.legend ((unnamed totals).mapIdx legendItem)).frame =
      (Node.legend (totals.mapIdx legendItem)).frame := by
  refine congrArg Node.legend (List.ext_getElem? fun index => ?_)
  simp only [unnamed, List.getElem?_map, List.getElem?_mapIdx, Option.map_map]
  rfl

theorem blank_cells (row : Row) :
    blank (cells { row with project := [], task := [] }) = blank (cells row) := rfl

/-- The frame of a report does not depend on the names in it. -/
theorem frame_render_withoutNames (view : View) :
    (render view.withoutNames).frame = (render view).frame := by
  cases view with
  | noEntries => rfl
  | list rows =>
    simp only [View.withoutNames, render, ofRows, Tree.frame, List.map_cons, List.map_nil,
      Node.frame, List.map_map, Function.comp_def, blank_cells]
  | summary report =>
    have bars := frame_segments_unnamed report report.totals
    have items := frame_items_unnamed report.totals
    exact congrArg₂ (fun bars items => Tree.mk [_, _, bars, items] reportStyle) bars items

/-- Names open and close no tag of the markup of a report and end no value in it: the markup has the
delimiters that it has without the names, and its tags are well nested. -/
theorem neutralNames_markup (view : View) :
    ∃ markup bare, (render view).markup = .ok markup ∧
      (render view.withoutNames).markup = .ok bare ∧
      delimiters markup = delimiters bare ∧ WellNested markup := by
  obtain ⟨markup, written⟩ := exists_markup_render view
  obtain ⟨bare, written'⟩ := exists_markup_render view.withoutNames
  have same : (render view.withoutNames).markup.map delimiters =
      (render view).markup.map delimiters := by
    rw [← map_delimiters_markup_frame, frame_render_withoutNames, map_delimiters_markup_frame]
  rw [written, written'] at same
  have nested : WellNested markup := wellNested_markup (colored_render (by decide) view) written
  exact ⟨markup, bare, written, written', (Except.ok.inj same).symm, nested⟩

end Display

end TimeReports

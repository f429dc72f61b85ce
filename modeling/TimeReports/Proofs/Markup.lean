import TimeReports.Display.Markup
import TimeReports.Proofs.FrozenText

set_option autoImplicit false

namespace TimeReports

namespace Display

open Text Document

variable {first : Text} {texts : List Text}

theorem oneLine_cellStyle {chars : List Char}
    (plain : (chars.all fun c => c != '\n' && c != '\r') = true) :
    OneLine (cellStyle (String.ofList chars)) :=
  oneLine_append.mpr ⟨oneLine_append.mpr ⟨oneLine_ofList (by decide), oneLine_ofList plain⟩,
    oneLine_ofList (by decide)⟩

theorem shows_markupHeader (header : Text) : Shows (markupHeader header) [header] := by
  have opened : IsTag "<th style=\"".text := isTag_ofList (by decide)
  refine shows_between header ?_ (isTag_ofList (by decide))
  exact (opened.append_oneLine (oneLine_cellStyle (by decide))).append_oneLine
    (oneLine_ofList (by decide))

theorem shows_markupCells (cells : List Text) (shows : Shows first texts) :
    Shows (first ++ markupCells cells) (texts ++ cells) := by
  induction cells generalizing first texts with
  | nil => simpa [markupCells] using shows
  | cons cell rest ih =>
    cases rest with
    | nil =>
      have opened : IsTag "<td class=\"harvest-hours\" style=\"".text := isTag_ofList (by decide)
      refine shows.append (shows_between cell ?_ (isTag_ofList (by decide)))
      exact (opened.append_oneLine (oneLine_cellStyle (by decide))).append_oneLine
        (oneLine_ofList (by decide))
    | cons next rest =>
      have opened : IsTag "<td style=\"".text := isTag_ofList (by decide)
      have styled : IsTag ("<td style=\"".text ++ cellStyle "left" ++ "\">".text) :=
        (opened.append_oneLine (oneLine_cellStyle (by decide))).append_oneLine
          (oneLine_ofList (by decide))
      have closed : IsTag "</td>".text := isTag_ofList (by decide)
      have whole := ih (shows.append (shows_between cell styled closed))
      simpa only [markupCells, List.append_assoc, List.singleton_append] using whole

theorem shows_markupRow (row : List Text) : Shows (markupRow row) row := by
  have opened : Shows "<tr>".text [] := .tag (isTag_ofList (by decide))
  have closed : Shows "</tr>".text [] := .tag (isTag_ofList (by decide))
  have whole := (shows_markupCells row opened).append closed
  rwa [List.nil_append, List.append_nil] at whole

theorem shows_markupSegment {segment : Segment} (oneLine : OneLine segment.color) :
    Shows (markupSegment segment) [segment.title] := by
  have share := Number.oneLine_general Number.shareLayout 6 segment.percentage
  have opened : IsTag "<div class=\"harvest-barchart-bar\" style=\"height: 100%; width: ".text :=
    isTag_ofList (by decide)
  refine shows_between segment.title ?_ (isTag_ofList (by decide))
  exact (((opened.append_oneLine share).append_oneLine (oneLine_ofList (by decide))).append_oneLine
    oneLine).append_oneLine (oneLine_ofList (by decide))

theorem shows_markupLegendItem {item : LegendItem} (oneLine : OneLine item.color) :
    Shows (markupLegendItem item) [item.label] := by
  have opened : IsTag
      "<div class=\"harvest-legend-item\" style=\"display: flex; align-items: center;\">".text :=
    isTag_ofList (by decide)
  have swatch : OneLine "<div class=\"harvest-legend-swatch\" style=\"".text :=
    oneLine_ofList (by decide)
  have sample : OneLine sampleStyle := oneLine_ofList (by decide)
  refine shows_between item.label ?_ (isTag_ofList (by decide))
  exact ((((opened.append_oneLine swatch).append_oneLine sample).append_oneLine
    (oneLine_ofList (by decide))).append_oneLine oneLine).append_oneLine
      (oneLine_ofList (by decide))

def Node.shown : Node → List Text
  | .heading text _ => [text]
  | .paragraph text _ none => [text]
  | .paragraph text _ (some []) => [text]
  | .paragraph text _ (some style) => [style, text]
  | .table headers rows style => style :: headers ++ rows.flatten
  | .barChart segments => segments.map (·.title)
  | .legend items => items.map (·.label)
  | .foreign _ => []

def Node.Colored (good : Text → Prop) : Node → Prop
  | .barChart segments => ∀ segment ∈ segments, good segment.color
  | .legend items => ∀ item ∈ items, good item.color
  | _ => True

/-- What stands in a paragraph behind its opening tag. -/
theorem shows_paragraph {opened : Text} (shows : Shows opened texts) (text : Text) (strong : Bool) :
    Shows (opened ++ (if strong then "<strong>".text ++ escape text ++ "</strong>".text
      else escape text) ++ "</p>".text) (texts ++ [text]) := by
  cases strong with
  | false => exact shows.escaped text (isTag_ofList (by decide))
  | true =>
    have strong : IsTag "<strong>".text := isTag_ofList (by decide)
    have closed : IsTag "</strong>".text := isTag_ofList (by decide)
    have bold := shows.append (.tag strong)
    rw [List.append_nil] at bold
    have whole := bold.escaped text (closed.append_oneLine (show OneLine "</p>".text from
      oneLine_ofList (by decide)))
    simpa only [↓reduceIte, List.append_assoc] using whole

theorem shows_heading (text : Text) (level : Int) :
    Shows ("<h".text ++ intDigits level ++ .char '>' :: escape text ++ "</h".text
      ++ intDigits level ++ ">".text) [text] := by
  have start : IsTag "<h".text := isTag_ofList (by decide)
  have ending : IsTag "</h".text := isTag_ofList (by decide)
  have opened : IsTag ("<h".text ++ intDigits level ++ [.char '>']) :=
    (start.append_oneLine (oneLine_intDigits level)).append_oneLine (by decide)
  have closed : IsTag ("</h".text ++ intDigits level ++ ">".text) :=
    (ending.append_oneLine (oneLine_intDigits level)).append_oneLine (oneLine_ofList (by decide))
  have whole := shows_between text opened closed
  simpa only [List.append_assoc, List.cons_append, List.nil_append] using whole

theorem chartStyle_eq : chartStyle =
    "display: flex; width: 100%; height: 20px; border-radius: 3px; ".text
      ++ "overflow: hidden; margin-bottom: 1em;".text := by
  rw [chartStyle, String.text, String.toList_append, List.map_append]
  rfl

theorem oneLine_chartStyle : OneLine chartStyle := by
  rw [chartStyle_eq]
  exact oneLine_append.mpr ⟨oneLine_ofList (by decide), oneLine_ofList (by decide)⟩

theorem shows_styled (style : Text) :
    Shows ("<p".text ++ (" class=\"".text ++ escape style ++ "\"".text) ++ [.char '>'])
      [style] := by
  have start : IsTag "<p".text := isTag_ofList (by decide)
  have name : OneLine " class=\"".text := oneLine_ofList (by decide)
  have ending : IsTag ("\"".text ++ [.char '>']) := by decide
  have whole := shows_between style (start.append_oneLine name) ending
  simpa only [List.append_assoc] using whole

theorem shows_tableHead (headers : List Text) :
    Shows ("<thead><tr>".text ++ headers.flatMap markupHeader ++ "</tr></thead>".text) headers := by
  have start : IsTag "<thead><tr>".text := isTag_ofList (by decide)
  have ending : IsTag "</tr></thead>".text := isTag_ofList (by decide)
  have whole := ((Shows.tag start).flatMap
    fun header (_ : header ∈ headers) => shows_markupHeader header).append (.tag ending)
  simpa using whole

theorem showLines_table (headers : List Text) (rows : List (List Text)) (style : Text) :
    ShowLines (["<table class=\"".text ++ escape style
        ++ "\" style=\"width: 100%; border-collapse: collapse;\">".text,
      "<thead><tr>".text ++ headers.flatMap markupHeader ++ "</tr></thead>".text,
      "<tbody>".text] ++ rows.map markupRow ++ ["</tbody>".text, "</table>".text])
      (style :: headers ++ rows.flatten) := by
  have opened : Shows ("<table class=\"".text ++ escape style
      ++ "\" style=\"width: 100%; border-collapse: collapse;\">".text) [style] :=
    shows_between style (isTag_ofList (by decide)) (isTag_ofList (by decide))
  have start : IsTag "<tbody>".text := isTag_ofList (by decide)
  have ending : IsTag "</tbody>".text := isTag_ofList (by decide)
  have closed : IsTag "</table>".text := isTag_ofList (by decide)
  have body := showLines_map fun row (_ : row ∈ rows) => shows_markupRow row
  rw [List.flatMap_id'] at body
  have whole := ShowLines.between opened
    (.cons (shows_tableHead headers) (.between (.tag start) body ending)) closed
  simpa only [List.cons_append, List.append_assoc, List.nil_append] using whole

theorem showLines_markupNode {node : Node} {lines : List Text} (colors : node.Colored OneLine)
    (written : markupNode node = .ok lines) : ShowLines lines node.shown := by
  have closed : IsTag "</div>".text := isTag_ofList (by decide)
  cases node with
  | heading text level =>
    cases written
    exact showLines_singleton (shows_heading text level)
  | paragraph text strong style =>
    cases written
    refine showLines_singleton ?_
    have plain : Shows "<p>".text [] := .tag (isTag_ofList (by decide))
    match style with
    | none => exact shows_paragraph plain text strong
    | some [] => exact shows_paragraph plain text strong
    | some (c :: style) =>
      have whole := shows_paragraph (shows_styled (c :: style)) text strong
      show Shows _ [c :: style, text]
      simpa only [List.append_assoc, List.cons_append, List.nil_append] using whole
  | table headers rows style =>
    cases written
    exact showLines_table headers rows style
  | barChart segments =>
    cases written
    have start : IsTag "<div class=\"harvest-barchart-container\" style=\"".text :=
      isTag_ofList (by decide)
    have opened := (start.append_oneLine oneLine_chartStyle).append_oneLine
      (show OneLine "\">".text from oneLine_ofList (by decide))
    exact .between (.tag opened)
      (showLines_map_singleton fun segment member => shows_markupSegment (colors segment member))
      closed
  | legend items =>
    cases written
    have start : IsTag "<div class=\"harvest-barchart-legend\" style=\"display: flex; ".text :=
      isTag_ofList (by decide)
    have opened := start.append_oneLine (show OneLine "flex-direction: column; gap: 0.5em;\">".text
      from oneLine_ofList (by decide))
    exact .between (.tag opened)
      (showLines_map_singleton fun item member => shows_markupLegendItem (colors item member))
      closed
  | foreign kind => cases written

def Tree.shown (tree : Tree) : List Text := tree.style :: tree.children.flatMap Node.shown

theorem exists_of_markupNodes_cons {node : Node} {nodes : List Node} {lines : List Text}
    (written : markupNodes (node :: nodes) = .ok lines) :
    ∃ front behind, markupNode node = .ok front ∧ markupNodes nodes = .ok behind ∧
      lines = front ++ behind := by
  cases first : markupNode node with
  | error fault =>
    simp only [markupNodes, first] at written
    cases written
  | ok front =>
    cases rest : markupNodes nodes with
    | error fault =>
      simp only [markupNodes, first, rest] at written
      cases written
    | ok behind =>
      simp only [markupNodes, first, rest] at written
      cases written
      exact ⟨front, behind, rfl, rfl, rfl⟩

theorem showLines_markupNodes {nodes : List Node} {lines : List Text}
    (colors : ∀ node ∈ nodes, node.Colored OneLine) (written : markupNodes nodes = .ok lines) :
    ShowLines lines (nodes.flatMap Node.shown) := by
  induction nodes generalizing lines with
  | nil =>
    cases written
    exact .nil
  | cons node nodes ih =>
    obtain ⟨front, behind, first, rest, rfl⟩ := exists_of_markupNodes_cons written
    have head := showLines_markupNode (colors node List.mem_cons_self) first
    have tail := ih (fun other member => colors other (List.mem_cons_of_mem _ member)) rest
    exact head.append tail

theorem exists_of_markup {tree : Tree} {markup : Text} (written : tree.markup = .ok markup) :
    ∃ lines, markupNodes tree.children = .ok lines ∧ markup = join [feed]
      (("<div class=\"".text ++ escape tree.style ++ "\">".text) :: lines
        ++ ["</div>".text]) := by
  cases nodes : markupNodes tree.children with
  | error fault =>
    simp only [Tree.markup, nodes] at written
    cases written
  | ok lines =>
    simp only [Tree.markup, nodes] at written
    cases written
    exact ⟨lines, rfl, rfl⟩

/-- The markup of a display shows the texts of its nodes. -/
theorem shows_markup {tree : Tree} {markup : Text}
    (colors : ∀ node ∈ tree.children, node.Colored OneLine) (written : tree.markup = .ok markup) :
    Shows markup tree.shown := by
  obtain ⟨lines, nodes, rfl⟩ := exists_of_markup written
  have start : IsTag "<div class=\"".text := isTag_ofList (by decide)
  have ending : IsTag "\">".text := isTag_ofList (by decide)
  have closed : IsTag "</div>".text := isTag_ofList (by decide)
  have opened := shows_between tree.style start ending
  have whole := ShowLines.between opened (showLines_markupNodes colors nodes) closed
  exact whole.join (List.cons_ne_nil _ _)

/-- The names that a report shows, in the order of its markup. -/
def shownNames : Report.View → List Text
  | .noEntries => []
  | .list rows => rows.flatMap fun row => [row.project, row.task]
  | .summary summary => summary.totals.map (·.1) ++ summary.totals.map (·.1)

/-- The colours of a report are those of the palette. -/
theorem colored_render {good : Text → Prop} (palette_good : ∀ color ∈ palette, good color)
    (view : Report.View) : ∀ node ∈ (render view).children, node.Colored good := by
  intro node member
  cases view with
  | noEntries =>
    rw [render, Tree.message, List.mem_singleton] at member
    exact member ▸ trivial
  | list rows =>
    rw [render, ofRows, List.mem_singleton] at member
    exact member ▸ trivial
  | summary summary =>
    simp only [render, ofSummary, List.mem_cons, List.not_mem_nil, or_false] at member
    rcases member with rfl | rfl | rfl | rfl
    · trivial
    · trivial
    · intro segment inside
      obtain ⟨index, small, rfl⟩ := List.mem_mapIdx.mp inside
      exact palette_good _ (color_mem_palette _)
    · intro item inside
      obtain ⟨index, small, rfl⟩ := List.mem_mapIdx.mp inside
      exact palette_good _ (color_mem_palette _)

theorem oneLineColors_render (view : Report.View) :
    ∀ node ∈ (render view).children, node.Colored OneLine :=
  colored_render (by decide) view

theorem map_title_segments (summary : Report.Summary Float) :
    (summary.totals.mapIdx (segment summary)).map (·.title) =
      summary.totals.map fun total =>
        total.1 ++ (": ".text ++ formatHours total.2 ++ " hours".text) := by
  refine List.ext_getElem? fun index => ?_
  simp only [List.getElem?_map, List.getElem?_mapIdx, Option.map_map, Function.comp_def, segment,
    List.append_assoc]

theorem map_label_items (totals : List (Text × Float)) :
    (totals.mapIdx legendItem).map (·.label) =
      totals.map fun total => total.1 ++ (": ".text ++ formatHours total.2 ++ "h".text) := by
  refine List.ext_getElem? fun index => ?_
  simp only [List.getElem?_map, List.getElem?_mapIdx, Option.map_map, Function.comp_def, legendItem,
    List.append_assoc]

theorem oneLine_hours (hours : Float) (unit : Text) (oneLine : OneLine unit) :
    OneLine (": ".text ++ formatHours hours ++ unit) :=
  oneLine_append.mpr ⟨oneLine_append.mpr ⟨by decide, Number.oneLine_fixed 2 hours⟩, oneLine⟩

theorem flatMap_innerLines_named {totals : List (Text × Float)} {behind : Text × Float → Text}
    (oneLine : ∀ total, OneLine (behind total)) :
    (totals.map fun total => total.1 ++ behind total).flatMap innerLines =
      (totals.map (·.1)).flatMap innerLines := by
  simp only [List.flatMap_map, innerLines_append _ (oneLine _)]

theorem flatMap_innerLines_of_oneLine {texts : List Text} (oneLine : ∀ text ∈ texts, OneLine text) :
    texts.flatMap innerLines = [] :=
  List.flatMap_eq_nil_iff.mpr fun text member => innerLines_of_oneLine (oneLine text member)

theorem oneLine_reportStyle : OneLine reportStyle := oneLine_ofList (by decide)

theorem oneLine_summaryHeading : OneLine summaryHeading := oneLine_ofList (by decide)

theorem oneLine_noEntries : ∀ text ∈ (render .noEntries).shown, OneLine text := by
  have style : OneLine "harvest-empty".text := oneLine_ofList (by decide)
  have message : OneLine noEntriesMessage := oneLine_ofList (by decide)
  have shown : (render .noEntries).shown =
      [reportStyle, "harvest-empty".text, noEntriesMessage] := rfl
  rw [shown]
  simp only [List.forall_mem_cons, oneLine_reportStyle, style, message, List.not_mem_nil,
    false_imp_iff, implies_true, and_self]

/-- The style and the headers of a table. -/
theorem oneLine_tableTexts : ∀ text ∈ reportStyle :: tableStyle :: listHeaders, OneLine text := by
  have style : OneLine tableStyle := oneLine_ofList (by decide)
  have headers : ∀ header ∈ listHeaders, OneLine header := by
    simp only [listHeaders, List.forall_mem_cons]
    exact ⟨oneLine_ofList (by decide), oneLine_ofList (by decide), oneLine_ofList (by decide),
      oneLine_ofList (by decide), fun _ member => nomatch member⟩
  exact List.forall_mem_cons.mpr ⟨oneLine_reportStyle, List.forall_mem_cons.mpr ⟨style, headers⟩⟩

theorem innerLines_render (view : Report.View) :
    (render view).shown.flatMap innerLines = (shownNames view).flatMap innerLines := by
  cases view with
  | noEntries => exact flatMap_innerLines_of_oneLine oneLine_noEntries
  | list rows =>
    have styles := flatMap_innerLines_of_oneLine oneLine_tableTexts
    rw [List.flatMap_cons, List.flatMap_cons, List.append_eq_nil_iff,
      List.append_eq_nil_iff] at styles
    have cell (row : Report.Row) : (cells row).flatMap innerLines =
        [row.project, row.task].flatMap innerLines := by
      simp only [cells, List.flatMap_cons, List.flatMap_nil,
        innerLines_of_oneLine row.date.oneLine_iso,
        innerLines_of_oneLine (Number.oneLine_fixed 2 row.hours), formatHours, List.append_nil]
    simp only [render, ofRows, Tree.shown, Node.shown, List.flatMap_cons, List.flatMap_nil,
      List.flatMap_append, List.append_nil, styles, List.nil_append, shownNames, List.flatMap_assoc,
      ← cell, List.flatten_eq_flatMap, List.flatMap_map, id]
  | summary summary =>
    have heading : innerLines reportStyle = [] ∧ innerLines summaryHeading = [] :=
      ⟨innerLines_of_oneLine oneLine_reportStyle, innerLines_of_oneLine oneLine_summaryHeading⟩
    have total : innerLines ("Total Hours: ".text ++ formatHours summary.total) = [] :=
      innerLines_of_oneLine (oneLine_append.mpr ⟨by decide, Number.oneLine_fixed 2 summary.total⟩)
    simp only [render, ofSummary, Tree.shown, Node.shown, List.flatMap_cons, List.flatMap_nil,
      List.flatMap_append, List.append_nil, heading, total, List.nil_append, shownNames,
      map_title_segments, map_label_items]
    rw [flatMap_innerLines_named fun total => oneLine_hours total.2 _ (by decide),
      flatMap_innerLines_named fun total => oneLine_hours total.2 _ (by decide)]

theorem back_not_mem_of_oneLine {text : Text} (oneLine : OneLine text) : back ∉ text :=
  fun member => (oneLine back member).2 rfl

/-- A report shows carriage returns only in names. -/
theorem back_not_mem_shown {view : Report.View}
    (absent : ∀ name ∈ shownNames view, back ∉ name) :
    ∀ text ∈ (render view).shown, back ∉ text := by
  cases view with
  | noEntries =>
    exact fun text member => back_not_mem_of_oneLine (oneLine_noEntries text member)
  | list rows =>
    intro text member
    simp only [render, ofRows, Tree.shown, Node.shown, List.flatMap_cons, List.flatMap_nil,
      List.append_nil] at member
    have split : text ∈ (reportStyle :: tableStyle :: listHeaders) ++ (rows.map cells).flatten :=
      member
    rcases List.mem_append.mp split with front | inside
    · exact back_not_mem_of_oneLine (oneLine_tableTexts text front)
    · obtain ⟨texts, ofRow, inside⟩ := List.mem_flatten.mp inside
      obtain ⟨row, within, rfl⟩ := List.mem_map.mp ofRow
      have names (name : Text) (member : name ∈ [row.project, row.task]) : back ∉ name :=
        absent name (List.mem_flatMap.mpr ⟨row, within, member⟩)
      simp only [cells, List.mem_cons, List.not_mem_nil, or_false] at inside
      rcases inside with rfl | rfl | rfl | rfl
      · exact names _ (by simp)
      · exact names _ (by simp)
      · exact back_not_mem_of_oneLine row.date.oneLine_iso
      · exact back_not_mem_of_oneLine (Number.oneLine_fixed 2 row.hours)
  | summary summary =>
    have named (total : Text × Float) (member : total ∈ summary.totals) (unit : Text)
        (oneLine : OneLine unit) :
        back ∉ total.1 ++ (": ".text ++ formatHours total.2 ++ unit) := by
      have name := absent total.1 (List.mem_append_left _ (List.mem_map_of_mem member))
      rw [List.mem_append, not_or]
      exact ⟨name, back_not_mem_of_oneLine (oneLine_hours total.2 unit oneLine)⟩
    intro text member
    simp only [render, ofSummary, Tree.shown, Node.shown, List.flatMap_cons, List.flatMap_nil,
      List.append_nil, map_title_segments, map_label_items, List.mem_cons, List.mem_append,
      List.not_mem_nil, or_false, List.mem_map] at member
    rcases member with rfl | rfl | rfl | ⟨total, inside, rfl⟩ | ⟨total, inside, rfl⟩
    · exact back_not_mem_of_oneLine oneLine_reportStyle
    · exact back_not_mem_of_oneLine oneLine_summaryHeading
    · exact back_not_mem_of_oneLine (oneLine_append.mpr ⟨by decide,
        Number.oneLine_fixed 2 summary.total⟩)
    · exact named total inside _ (by decide)
    · exact named total inside _ (by decide)

end Display

end TimeReports

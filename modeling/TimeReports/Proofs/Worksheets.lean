import Mathlib.Data.List.Nodup
import TimeReports.Proofs.Forms
import TimeReports.Proofs.Names
import TimeReports.Proofs.Outcomes
import TimeReports.Workbook.Report

set_option autoImplicit false

namespace TimeReports.Workbook

open Report Text

section Names

variable {name : Text} {content : Content}

def Holdable (name : Text) : Prop :=
  name.length ≤ cellLength ∧ ∀ c ∈ name, isIllegal c = false

instance (name : Text) : Decidable (Holdable name) := inferInstanceAs (Decidable (_ ∧ _))

/-- The content of a cell that is given a name that it can hold. -/
def typed (name : Text) : Content :=
  if 1 < name.length ∧ name.head? = some (.char '=') then .formula name
  else if errorNames.contains name then .error name
  else .text name

/-- A content that is a name, whatever the type that the name takes. -/
inductive Words (name : Text) : Content → Prop
  | text : Words name (.text name)
  | formula : Words name (.formula name)
  | error : Words name (.error name)

theorem words_typed (name : Text) : Words name (typed name) := by
  unfold typed
  split
  · exact .formula
  · split
    · exact .error
    · exact .text

theorem contentOf_of_holdable (holdable : Holdable name) : contentOf name = .ok (typed name) := by
  have whole : name.take cellLength = name := List.take_of_length_le holdable.1
  have legal : ¬ name.any isIllegal = true := by
    simpa only [List.any_eq_true, not_exists, not_and, Bool.not_eq_true] using holdable.2
  simp only [contentOf, whole, if_neg legal, typed, Option.bind_eq_bind, Option.bind_some,
    Option.pure_def]
  split
  · rfl
  · split <;> rfl

theorem textCell_of_holdable (holdable : Holdable name) (row column : Nat) (bold : Bool)
    (fill : Option Text) : textCell row column name bold fill =
      .ok ⟨row, column, typed name, plainFormat, bold, fill⟩ := by
  rw [textCell, contentOf_of_holdable holdable]

end Names

section Stacks

variable {blocks : List (List Cell)} {sheet : Sheet}

def Sheet.rowAt (sheet : Sheet) (row : Nat) : List Cell := sheet.cells.filter (·.row = row)

/-- Blocks of cells of which each fills a row, from one on, with its columns from left to right. -/
def Stacked (blocks : List (List Cell)) : Prop :=
  ∀ index block, blocks[index]? = some block →
    (∀ cell ∈ block, cell.row = index + 1) ∧ (block.map (·.column)).Pairwise (· < ·)

/-- A cell of a stack is in the block of its row. -/
theorem Stacked.block_of_mem (stacked : Stacked blocks) {cell : Cell}
    (member : cell ∈ blocks.flatten) :
    ∃ index block, blocks[index]? = some block ∧ cell ∈ block ∧ cell.row = index + 1 := by
  obtain ⟨block, inside, holds⟩ := List.mem_flatten.mp member
  obtain ⟨index, found⟩ := List.mem_iff_getElem?.mp inside
  exact ⟨index, block, found, holds, (stacked index block found).1 cell holds⟩

/-- The rows from one on are the blocks. -/
theorem filter_blocks (first : Nat) (inRows : ∀ index block, blocks[index]? = some block →
    ∀ cell ∈ block, cell.row = first + index) {index : Nat} {block : List Cell}
    (found : blocks[index]? = some block) :
    blocks.flatten.filter (·.row = first + index) = block := by
  induction blocks generalizing first index with
  | nil => cases found
  | cons head rest ih =>
    have above := inRows 0 head rfl
    have below : ∀ index block, rest[index]? = some block →
        ∀ cell ∈ block, cell.row = first + 1 + index := by
      intro place other there cell member
      have row := inRows (place + 1) other there cell member
      omega
    rw [List.flatten_cons, List.filter_append]
    cases index with
    | zero =>
      obtain rfl : head = block := Option.some.inj found
      have kept : head.filter (·.row = first + 0) = head := by
        simpa only [List.filter_eq_self, decide_eq_true_eq] using above
      have dropped : rest.flatten.filter (·.row = first + 0) = [] := by
        rw [List.filter_eq_nil_iff]
        intro cell member
        obtain ⟨other, inside, holds⟩ := List.mem_flatten.mp member
        obtain ⟨place, there⟩ := List.mem_iff_getElem?.mp inside
        have row := below place other there cell holds
        simp only [decide_eq_true_eq]
        omega
      rw [kept, dropped, List.append_nil]
    | succ index =>
      have dropped : head.filter (·.row = first + (index + 1)) = [] := by
        rw [List.filter_eq_nil_iff]
        intro cell member
        have row := above cell member
        simp only [decide_eq_true_eq]
        omega
      have same : first + (index + 1) = first + 1 + index := by omega
      rw [dropped, List.nil_append, same]
      exact ih (first + 1) below found

theorem Stacked.rowAt (stacked : Stacked blocks) (cells : sheet.cells = blocks.flatten)
    {index : Nat} {block : List Cell} (found : blocks[index]? = some block) :
    sheet.rowAt (index + 1) = block := by
  have inRows : ∀ index block, blocks[index]? = some block → ∀ cell ∈ block,
      cell.row = 1 + index := by
    intro place other there cell member
    rw [(stacked place other there).1 cell member, Nat.add_comm]
  rw [Sheet.rowAt, cells, Nat.add_comm]
  exact filter_blocks 1 inRows found

/-- No two cells of a stack are in the same place. -/
theorem Stacked.nodup (stacked : Stacked blocks) :
    (blocks.flatten.map fun cell => (cell.row, cell.column)).Nodup := by
  rw [List.map_flatten, List.nodup_flatten]
  constructor
  · intro places member
    obtain ⟨block, inside, rfl⟩ := List.mem_map.mp member
    obtain ⟨index, found⟩ := List.mem_iff_getElem?.mp inside
    have columns := List.pairwise_map.mp (stacked index block found).2
    exact List.pairwise_map.mpr
      (columns.imp fun less same => Nat.ne_of_lt less (congrArg Prod.snd same))
  · rw [List.pairwise_map, List.pairwise_iff_getElem]
    intro upper lower inUpper inLower before place above below
    obtain ⟨cell, holds, rfl⟩ := List.mem_map.mp above
    obtain ⟨other, holds', same⟩ := List.mem_map.mp below
    have row := (stacked upper _ (List.getElem?_eq_getElem inUpper)).1 cell holds
    have row' := (stacked lower _ (List.getElem?_eq_getElem inLower)).1 other holds'
    have rows := congrArg Prod.fst same
    simp only at rows
    omega

end Stacks

section Blocks

variable {α : Type} {item : α} {blocks : List (List Cell)}

/-- The rows of a sheet: a header, the rows of items, and a last one. -/
def stack (header : List Cell) (body : Nat → α → List Cell) (items : List α) (last : List Cell) :
    List (List Cell) :=
  header :: items.mapIdx body ++ [last]

variable {header last : List Cell} {body : Nat → α → List Cell} {items : List α}

theorem getElem?_stack_body {index : Nat} (found : items[index]? = some item) :
    (stack header body items last)[index + 1]? = some (body index item) := by
  have small : index < items.length := (List.getElem?_eq_some_iff.mp found).1
  rw [stack, List.cons_append, List.getElem?_cons_succ,
    List.getElem?_append_left (by rwa [List.length_mapIdx]), List.getElem?_mapIdx, found]
  rfl

theorem getElem?_stack_last : (stack header body items last)[items.length + 1]? = some last := by
  rw [stack, List.cons_append, List.getElem?_cons_succ,
    List.getElem?_append_right (by rw [List.length_mapIdx]), List.length_mapIdx, Nat.sub_self]
  rfl

theorem length_stack : (stack header body items last).length = items.length + 2 := by
  simp [stack]

/-- The blocks of a stack, from the header to the last. -/
theorem stack_cases {index : Nat} {block : List Cell}
    (found : (stack header body items last)[index]? = some block) :
    (index = 0 ∧ block = header) ∨
      (∃ place item, index = place + 1 ∧ items[place]? = some item ∧ block = body place item) ∨
      (index = items.length + 1 ∧ block = last) := by
  have inside : index < items.length + 2 := by
    rw [← @length_stack α header last body items]
    exact (List.getElem?_eq_some_iff.mp found).1
  cases index with
  | zero => exact .inl ⟨rfl, (Option.some.inj found).symm⟩
  | succ place =>
    by_cases small : place < items.length
    · have there : items[place]? = some items[place] := List.getElem?_eq_getElem small
      rw [getElem?_stack_body there] at found
      exact .inr (.inl ⟨place, items[place], rfl, there, (Option.some.inj found).symm⟩)
    · obtain rfl : place = items.length := by omega
      rw [getElem?_stack_last] at found
      exact .inr (.inr ⟨rfl, (Option.some.inj found).symm⟩)

/-- Cells that are made row by row are there when each row is. -/
theorem cellsFrom_eq {cells : Nat → α → Except Fault (List Cell)} (first : Nat)
    (each : ∀ index item, items[index]? = some item →
      cells (first + index) item = .ok (body (first + index) item)) :
    cellsFrom cells first items =
      .ok (items.mapIdx fun index => body (first + index)).flatten := by
  induction items generalizing first with
  | nil => rfl
  | cons item rest ih =>
    have others := ih (first + 1) fun index other found => by
      have here := each (index + 1) other found
      rwa [show first + (index + 1) = first + 1 + index by omega] at here
    have moved : (fun index => body (first + (index + 1))) =
        fun index => body (first + 1 + index) := by
      funext index
      rw [show first + (index + 1) = first + 1 + index by omega]
    have here := each 0 item rfl
    rw [Nat.add_zero] at here
    rw [cellsFrom, here, others, List.mapIdx_cons, List.flatten_cons, moved]
    rfl

end Blocks

section Sheets

variable {row : Row} {rows : List Row} {total : Text × Float} {summary : Summary Float}
  {view : View} {query : Query} {sheet : Sheet}

/-- The cells of a row of a list whose names can be held. -/
def listBlock (index : Nat) (row : Row) : List Cell :=
  [⟨index + 2, 1, typed row.project, plainFormat, false, none⟩,
    ⟨index + 2, 2, typed row.task, plainFormat, false, none⟩,
    ⟨index + 2, 3, .date row.date, "yyyy-mm-dd".text, false, none⟩,
    hoursCell (index + 2) 4 row.hours]

def listLast (count : Nat) : List Cell :=
  [⟨count + 2, 3, .text "Total".text, plainFormat, true, none⟩,
    ⟨count + 2, 4, .formula (sumFormula count), hoursFormat, false, none⟩]

/-- The cells of a project of a summary whose name can be held. -/
def summaryBlock (summary : Summary Float) (rank : Nat) (total : Text × Float) : List Cell :=
  [⟨rank + 2, 1, typed total.1, plainFormat, false, some (rankFill rank)⟩,
    hoursCell (rank + 2) 2 total.2,
    ⟨rank + 2, 3, .number (summary.share total.2 / 100), "0.0%".text, false, none⟩]

def summaryLast (summary : Summary Float) : List Cell :=
  [⟨summary.totals.length + 2, 1, .text "Total Hours".text, plainFormat, true, none⟩,
    hoursCell (summary.totals.length + 2) 2 summary.total]

/-- The rows of the sheet of a view whose names can be held. -/
def viewBlocks : View → List (List Cell)
  | .noEntries => [[⟨1, 1, .text Display.noEntriesMessage, plainFormat, false, none⟩]]
  | .list rows =>
    stack (headerCells Display.listHeaders) listBlock rows (listLast rows.length)
  | .summary summary =>
    stack (headerCells summaryHeaders) (summaryBlock summary) summary.totals (summaryLast summary)

def lineCount : View → Nat
  | .noEntries => 0
  | .list rows => rows.length
  | .summary summary => summary.totals.length

theorem checkRow_of_le {number : Nat} (inside : number ≤ rowLimit) : checkRow number = .ok () :=
  if_pos inside

theorem checkRow_of_not_le {number : Nat} (outside : ¬ number ≤ rowLimit) :
    checkRow number = .error (.breakdown .value (rowMessage number)) :=
  if_neg outside

theorem rowCells_of_holdable {index : Nat} (project : Holdable row.project)
    (task : Holdable row.task) (inside : index + 2 ≤ rowLimit) :
    rowCells index row = .ok (listBlock index row) := by
  rw [rowCells, checkRow_of_le inside, textCell_of_holdable project, textCell_of_holdable task]
  rfl

theorem projectCells_of_holdable {rank : Nat} (name : Holdable total.1)
    (inside : rank + 2 ≤ rowLimit) :
    projectCells summary rank total = .ok (summaryBlock summary rank total) := by
  rw [projectCells, checkRow_of_le inside, textCell_of_holdable name]
  rfl

/-- A sheet that has the rows of a view is made of them. -/
theorem ofView_of_le (query : Query)
    (holdable : ∀ name ∈ Display.shownNames view, Holdable name)
    (inside : lineCount view + 2 ≤ rowLimit) :
    ∃ sheet, ofView view query = .ok sheet ∧ sheet.cells = (viewBlocks view).flatten := by
  cases view with
  | noEntries => exact ⟨_, rfl, rfl⟩
  | list rows =>
    have body : cellsFrom rowCells 0 rows =
        .ok (rows.mapIdx fun index => listBlock (0 + index)).flatten := by
      refine cellsFrom_eq 0 fun index row found => ?_
      have member : row ∈ rows := List.mem_of_getElem? found
      have small : index < rows.length := (List.getElem?_eq_some_iff.mp found).1
      have names : ∀ name ∈ [row.project, row.task], Holdable name := fun name named =>
        holdable name (List.mem_flatMap.mpr ⟨row, member, named⟩)
      refine rowCells_of_holdable (names _ (by simp)) (names _ (by simp)) ?_
      simp only [lineCount] at inside
      omega
    simp only [ofView, listCells, body, Nat.zero_add,
      checkRow_of_le (show rows.length + 2 ≤ rowLimit from inside)]
    refine ⟨_, rfl, ?_⟩
    simp [viewBlocks, stack, listLast]
  | summary summary =>
    have body : cellsFrom (projectCells summary) 0 summary.totals =
        .ok (summary.totals.mapIdx fun rank => summaryBlock summary (0 + rank)).flatten := by
      refine cellsFrom_eq 0 fun rank total found => ?_
      have member : total ∈ summary.totals := List.mem_of_getElem? found
      have small : rank < summary.totals.length := (List.getElem?_eq_some_iff.mp found).1
      refine projectCells_of_holdable (holdable _ ?_) ?_
      · exact List.mem_append_left _ (List.mem_map_of_mem member)
      · simp only [lineCount] at inside
        omega
    simp only [ofView, summaryCells, body, Nat.zero_add,
      checkRow_of_le (show summary.totals.length + 2 ≤ rowLimit from inside)]
    refine ⟨_, rfl, ?_⟩
    simp [viewBlocks, stack, summaryLast]

/-- There is no sheet with more rows than a sheet has. -/
theorem lineCount_of_ofView (made : ofView view query = .ok sheet) :
    lineCount view + 2 ≤ rowLimit := by
  by_contra outside
  cases view with
  | noEntries => exact outside (by decide)
  | list rows =>
    have beyond : ¬ rows.length + 2 ≤ rowLimit := outside
    simp only [ofView, listCells, checkRow_of_not_le beyond] at made
    cases body : cellsFrom rowCells 0 rows <;> rw [body] at made <;> cases made
  | summary summary =>
    simp only [ofView, summaryCells,
      checkRow_of_not_le (show ¬ summary.totals.length + 2 ≤ rowLimit from outside)] at made
    cases body : cellsFrom (projectCells summary) 0 summary.totals <;> rw [body] at made <;>
      cases made

theorem stacked_viewBlocks (view : View) : Stacked (viewBlocks view) := by
  intro index block found
  cases view with
  | noEntries =>
    cases index with
    | zero =>
      obtain rfl := Option.some.inj found
      simp
    | succ index => cases found
  | list rows =>
    rcases stack_cases found with ⟨rfl, rfl⟩ | ⟨place, row, rfl, -, rfl⟩ | ⟨rfl, rfl⟩
    · decide
    · simp [listBlock, hoursCell]
    · simp [listLast]
  | summary summary =>
    rcases stack_cases found with ⟨rfl, rfl⟩ | ⟨place, total, rfl, -, rfl⟩ | ⟨rfl, rfl⟩
    · decide
    · simp [summaryBlock, hoursCell]
    · simp [summaryLast, hoursCell]

end Sheets

/-- A stretch of a sheet, from one corner to the other. -/
@[ext]
structure Stretch where
  fromColumn : Nat
  fromRow : Nat
  toColumn : Nat
  toRow : Nat

namespace Stretch

variable {stretch other : Stretch}

/-- Whether the columns of a stretch have letters. -/
structure Lettered (stretch : Stretch) : Prop where
  fromColumn : 1 ≤ stretch.fromColumn ∧ stretch.fromColumn ≤ 26
  toColumn : 1 ≤ stretch.toColumn ∧ stretch.toColumn ≤ 26

def written (stretch : Stretch) : Text :=
  columnLetter stretch.fromColumn :: natDigits stretch.fromRow ++
    .char ':' :: columnLetter stretch.toColumn :: natDigits stretch.toRow

def sum (stretch : Stretch) : Text := "=SUM(".text ++ stretch.written ++ ")".text

/-- Whether a place is in a stretch, whichever of its corners comes first. -/
def Covers (stretch : Stretch) (row column : Nat) : Prop :=
  (min stretch.fromRow stretch.toRow ≤ row ∧ row ≤ max stretch.fromRow stretch.toRow) ∧
    min stretch.fromColumn stretch.toColumn ≤ column ∧
    column ≤ max stretch.fromColumn stretch.toColumn

instance (stretch : Stretch) (row column : Nat) : Decidable (stretch.Covers row column) :=
  inferInstanceAs (Decidable (_ ∧ _))

theorem columnLetter_inj {column column' : Nat} (inside : 1 ≤ column ∧ column ≤ 26)
    (inside' : 1 ≤ column' ∧ column' ≤ 26) (same : columnLetter column = columnLetter column') :
    column = column' := by
  have letters : ∀ left right : Fin 27, columnLetter left = columnLetter right → left = right := by
    decide
  exact congrArg Fin.val (letters ⟨column, by omega⟩ ⟨column', by omega⟩ same)

theorem colon_not_mem_natDigits (n : Nat) : .char ':' ∉ natDigits n := fun member =>
  absurd (numeric_natDigits n _ member) (by decide)

theorem colon_not_mem_letters {column : Nat} (inside : 1 ≤ column ∧ column ≤ 26) :
    .char ':' ≠ columnLetter column := by
  have letters : ∀ column : Fin 27, .char ':' ≠ columnLetter column := by decide
  exact letters ⟨column, by omega⟩

/-- A sum tells its stretch. -/
theorem sum_inj (lettered : stretch.Lettered) (lettered' : other.Lettered)
    (same : stretch.sum = other.sum) : stretch = other := by
  have written := List.append_cancel_left (List.append_cancel_right same)
  obtain ⟨letter, rest⟩ := List.cons_eq_cons.mp written
  have front : .char ':' ∉ natDigits stretch.fromRow := colon_not_mem_natDigits _
  have behind : .char ':' ∉ columnLetter stretch.toColumn :: natDigits stretch.toRow :=
    List.not_mem_cons_of_ne_of_not_mem (colon_not_mem_letters lettered.toColumn)
      (colon_not_mem_natDigits _)
  obtain ⟨row, -, corner⟩ := (List.append_cons_inj_of_notMem front behind).mp rest
  obtain ⟨letter', row'⟩ := List.cons_eq_cons.mp corner
  exact Stretch.ext (columnLetter_inj lettered.fromColumn lettered'.fromColumn letter)
    (natDigits_inj.mp row) (columnLetter_inj lettered.toColumn lettered'.toColumn letter')
    (natDigits_inj.mp row')

end Stretch

section Matching

open Display (Tree Node Segment LegendItem)

variable {rows : List Row} {summary : Summary Float} {sheet : Sheet}

/-- Whether a formula sums the hours of rows, and nothing else. -/
structure SumsHours (rows : List Row) (sheet : Sheet) (formula : Text) : Prop where
  reads : ∃ stretch : Stretch, stretch.Lettered ∧ formula = stretch.sum
  /-- Its places are the fourth ones of the rows. -/
  covers : ∀ stretch : Stretch, stretch.Lettered → formula = stretch.sum → ∀ row column,
    stretch.Covers row column ↔ column = 4 ∧ ∃ index < rows.length, row = index + 2
  /-- Its cells hold the hours. -/
  hours : ∀ stretch : Stretch, stretch.Lettered → formula = stretch.sum →
    (sheet.cells.filter fun cell => stretch.Covers cell.row cell.column).map (·.content) =
      rows.map fun row => .number row.hours

/-- How the sheet of a list matches its display: row by row it is the table. -/
structure MatchesList (rows : List Row) (tree : Tree) (sheet : Sheet) : Prop where
  header : sheet.rowAt 1 = headerCells Display.listHeaders
  body : ∃ table style, tree.children = [.table Display.listHeaders table style] ∧
    table.length = rows.length ∧ ∀ index row, rows[index]? = some row →
      table[index]? =
        some [row.project, row.task, row.date.iso, Display.formatHours row.hours] ∧
      ∃ project task, Words row.project project ∧ Words row.task task ∧
        sheet.rowAt (index + 2) =
          [⟨index + 2, 1, project, plainFormat, false, none⟩,
            ⟨index + 2, 2, task, plainFormat, false, none⟩,
            ⟨index + 2, 3, .date row.date, "yyyy-mm-dd".text, false, none⟩,
            ⟨index + 2, 4, .number row.hours, hoursFormat, false, none⟩]
  total : ∃ formula, SumsHours rows sheet formula ∧ sheet.rowAt (rows.length + 2) =
    [⟨rows.length + 2, 3, .text "Total".text, plainFormat, true, none⟩,
      ⟨rows.length + 2, 4, .formula formula, hoursFormat, false, none⟩]
  /-- No cell is written over another. -/
  apart : (sheet.cells.map fun cell => (cell.row, cell.column)).Nodup
  inside : ∀ cell ∈ sheet.cells, cell.row ≤ rows.length + 2

/-- Whether a fill is a colour, which charts write with a mark and six digits. -/
def Tints (fill color : Text) : Prop :=
  color.length = 7 ∧ color.head? = some (.char '#') ∧
    fill = "00".text ++ color.tail.map CodePoint.toUpper

instance (fill color : Text) : Decidable (Tints fill color) := inferInstanceAs (Decidable (_ ∧ _))

/-- How the row of a project matches its bar and its line in the legend. -/
structure MatchesProject (summary : Summary Float) (sheet : Sheet) (rank : Nat)
    (total : Text × Float) (segment : Segment) (item : LegendItem) : Prop where
  label : segment.label = total.1
  hours : segment.hours = total.2
  percentage : segment.percentage = summary.share total.2
  cells : ∃ name fill, Words total.1 name ∧ Tints fill segment.color ∧ Tints fill item.color ∧
    sheet.rowAt (rank + 2) =
      [⟨rank + 2, 1, name, plainFormat, false, some fill⟩,
        ⟨rank + 2, 2, .number total.2, hoursFormat, false, none⟩,
        ⟨rank + 2, 3, .number (summary.share total.2 / 100), "0.0%".text, false, none⟩]

/-- How the sheet of a summary matches its display: row by row it is the chart and the legend. -/
structure MatchesSummary (summary : Summary Float) (tree : Tree) (sheet : Sheet) : Prop where
  header : sheet.rowAt 1 = headerCells summaryHeaders
  body : ∃ heading paragraph segments items,
    tree.children = [heading, paragraph, .barChart segments, .legend items] ∧
    segments.length = summary.totals.length ∧ items.length = summary.totals.length ∧
    ∀ rank total, summary.totals[rank]? = some total → ∃ segment item,
      segments[rank]? = some segment ∧ items[rank]? = some item ∧
        MatchesProject summary sheet rank total segment item
  total : sheet.rowAt (summary.totals.length + 2) =
    [⟨summary.totals.length + 2, 1, .text "Total Hours".text, plainFormat, true, none⟩,
      ⟨summary.totals.length + 2, 2, .number summary.total, hoursFormat, false, none⟩]
  /-- No cell is written over another. -/
  apart : (sheet.cells.map fun cell => (cell.row, cell.column)).Nodup
  inside : ∀ cell ∈ sheet.cells, cell.row ≤ summary.totals.length + 2

def hoursStretch (count : Nat) : Stretch := ⟨4, 2, 4, count + 1⟩

theorem lettered_hoursStretch (count : Nat) : (hoursStretch count).Lettered :=
  ⟨by simp [hoursStretch], by simp [hoursStretch]⟩

theorem sumFormula_eq (count : Nat) : sumFormula count = (hoursStretch count).sum := by
  have front : "=SUM(D2:D".text =
      "=SUM(".text ++ (columnLetter 4 :: natDigits 2 ++ [.char ':', columnLetter 4]) := by
    decide
  rw [sumFormula, front]
  simp [Stretch.sum, Stretch.written, hoursStretch]

theorem covers_hoursStretch {count : Nat} (some_row : 0 < count) (row column : Nat) :
    (hoursStretch count).Covers row column ↔ column = 4 ∧ ∃ index < count, row = index + 2 := by
  have corners : (hoursStretch count).Covers row column ↔
      column = 4 ∧ 2 ≤ row ∧ row ≤ count + 1 := by
    simp only [Stretch.Covers, hoursStretch]
    omega
  rw [corners]
  refine and_congr_right fun _ => ⟨fun bounds => ⟨row - 2, by omega, by omega⟩, ?_⟩
  rintro ⟨index, small, rfl⟩
  omega

/-- The cells of rows that one condition holds for, when in each row it holds for one cell. -/
theorem map_filter_rows {α β : Type} {items : List α} (body : Nat → α → List Cell)
    (value : α → β) (read : Cell → β) (kept : Cell → Bool)
    (each : ∀ index item, items[index]? = some item →
      ((body index item).filter kept).map read = [value item]) :
    ((items.mapIdx body).flatten.filter kept).map read = items.map value := by
  rw [List.mapIdx_eq_zipIdx_map, ← List.flatMap_def, List.filter_flatMap, List.map_flatMap,
    List.flatMap_congr fun pair member =>
      each pair.2 pair.1 (List.mem_zipIdx_iff_getElem?.mp member)]
  simp [← List.map_eq_flatMap, ← Function.comp_def value Prod.fst, ← List.map_map]

theorem sumsHours_of_cells (some_row : rows ≠ [])
    (cells : sheet.cells = (viewBlocks (.list rows)).flatten) :
    SumsHours rows sheet (sumFormula rows.length) := by
  have positive := List.length_pos_of_ne_nil some_row
  have only : ∀ stretch : Stretch, stretch.Lettered → sumFormula rows.length = stretch.sum →
      stretch = hoursStretch rows.length := fun stretch lettered same =>
    Stretch.sum_inj lettered (lettered_hoursStretch _) (same.symm.trans (sumFormula_eq _))
  refine ⟨⟨_, lettered_hoursStretch _, sumFormula_eq _⟩, fun stretch lettered same => ?_,
    fun stretch lettered same => ?_⟩
  · rw [only stretch lettered same]
    exact covers_hoursStretch positive
  · rw [only stretch lettered same, cells]
    have header : (headerCells Display.listHeaders).filter (fun cell =>
        (hoursStretch rows.length).Covers cell.row cell.column) = [] := by
      simp [headerCells, Display.listHeaders, covers_hoursStretch positive]
    have last : (listLast rows.length).filter (fun cell =>
        (hoursStretch rows.length).Covers cell.row cell.column) = [] := by
      simp [listLast, covers_hoursStretch positive]
    have body := map_filter_rows listBlock (fun row => Content.number row.hours) Cell.content
      (fun cell => (hoursStretch rows.length).Covers cell.row cell.column)
      fun index row (found : rows[index]? = some row) => by
        have small := (List.getElem?_eq_some_iff.mp found).1
        simp [listBlock, hoursCell, covers_hoursStretch positive, small]
    rw [viewBlocks, stack, List.cons_append, List.flatten_cons, List.flatten_append,
      List.flatten_singleton, List.filter_append, List.filter_append, header, last, List.nil_append,
      List.append_nil, body]

theorem tints_rankFill (rank : Nat) : Tints (rankFill rank) (Display.color rank) := by
  have each : ∀ color ∈ Display.palette,
      Tints (.char '0' :: .char '0' :: (color.dropWhile (· = .char '#')).map CodePoint.toUpper)
        color := by
    decide
  exact each _ (Display.color_mem_palette rank)

/-- The last row of a sheet is that of its total. -/
theorem row_le_of_cells {view : View} (cells : sheet.cells = (viewBlocks view).flatten)
    (some_line : 0 < lineCount view) : ∀ cell ∈ sheet.cells, cell.row ≤ lineCount view + 2 := by
  intro cell member
  rw [cells] at member
  obtain ⟨index, block, found, -, row⟩ := (stacked_viewBlocks view).block_of_mem member
  have inside := (List.getElem?_eq_some_iff.mp found).1
  have length : (viewBlocks view).length = lineCount view + 2 := by
    cases view with
    | noEntries => exact absurd some_line (by decide)
    | list rows => exact length_stack
    | summary summary => exact length_stack
  omega

theorem matchesList_of_cells (some_row : rows ≠ [])
    (cells : sheet.cells = (viewBlocks (.list rows)).flatten) :
    MatchesList rows (Display.render (.list rows)) sheet where
  header := (stacked_viewBlocks (.list rows)).rowAt cells (rfl : (viewBlocks _)[0]? = _)
  body := by
    refine ⟨rows.map Display.cells, _, rfl, List.length_map _, fun index row found => ⟨?_, ?_⟩⟩
    · rw [List.getElem?_map, found]
      rfl
    · exact ⟨_, _, words_typed _, words_typed _,
        (stacked_viewBlocks (.list rows)).rowAt cells (getElem?_stack_body found)⟩
  total := ⟨_, sumsHours_of_cells some_row cells,
    (stacked_viewBlocks (.list rows)).rowAt cells getElem?_stack_last⟩
  apart := by
    rw [cells]
    exact (stacked_viewBlocks _).nodup
  inside := row_le_of_cells cells (List.length_pos_of_ne_nil some_row)

theorem matchesSummary_of_cells (some_total : summary.totals ≠ [])
    (cells : sheet.cells = (viewBlocks (.summary summary)).flatten) :
    MatchesSummary summary (Display.render (.summary summary)) sheet where
  header := (stacked_viewBlocks (.summary summary)).rowAt cells (rfl : (viewBlocks _)[0]? = _)
  body := by
    refine ⟨_, _, summary.totals.mapIdx (Display.segment summary),
      summary.totals.mapIdx Display.legendItem, rfl, List.length_mapIdx, List.length_mapIdx,
      fun rank total found => ⟨Display.segment summary rank total, Display.legendItem rank total,
        ?_, ?_, ?_⟩⟩
    · rw [List.getElem?_mapIdx, found]
      rfl
    · rw [List.getElem?_mapIdx, found]
      rfl
    · exact ⟨rfl, rfl, rfl, typed total.1, rankFill rank, words_typed _, tints_rankFill rank,
        tints_rankFill rank,
        (stacked_viewBlocks (.summary summary)).rowAt cells (getElem?_stack_body found)⟩
  total := (stacked_viewBlocks (.summary summary)).rowAt cells getElem?_stack_last
  apart := by
    rw [cells]
    exact (stacked_viewBlocks _).nodup
  inside := row_le_of_cells cells (List.length_pos_of_ne_nil some_total)

end Matching

section Reports

variable {entries : List TimeEntry} {kind : ReportKind}

/-- A report of entries has rows or projects. -/
theorem lineCount_aggregate_pos (some_entry : entries ≠ []) :
    0 < lineCount (aggregate entries kind) := by
  obtain ⟨entry, rest, rfl⟩ := List.exists_cons_of_ne_nil some_entry
  cases kind with
  | list => simp [aggregate, lineCount]
  | summary =>
    have named : entry.project.name ∈
        (totalsByName ((entry :: rest).map namedHours)).map (·.1) := by
      rw [map_fst_totalsByName, mem_firstNames]
      exact List.mem_cons_self
    have ranks := (ranked_perm (totalsByName ((entry :: rest).map namedHours))).map (·.1)
    have some_total := List.length_pos_of_mem (ranks.mem_iff.mpr named)
    rwa [List.length_map] at some_total

/-- A report whose names cells can hold has a sheet as long as it has no more rows than a sheet, and
row for row the sheet is what is shown of the report. -/
theorem sheet_matches_display (entries : List TimeEntry) (kind : ReportKind) (query : Query)
    (holdable : ∀ name ∈ Display.shownNames (aggregate entries kind), Holdable name) :
    ((∃ sheet, ofView (aggregate entries kind) query = .ok sheet) ↔
        lineCount (aggregate entries kind) + 2 ≤ rowLimit) ∧
      ∀ sheet, ofView (aggregate entries kind) query = .ok sheet →
        (∀ rows, aggregate entries kind = .list rows →
          MatchesList rows (Display.render (.list rows)) sheet) ∧
        ∀ summary, aggregate entries kind = .summary summary →
          MatchesSummary summary (Display.render (.summary summary)) sheet := by
  have made (inside : lineCount (aggregate entries kind) + 2 ≤ rowLimit) :=
    ofView_of_le query holdable inside
  refine ⟨⟨fun ⟨sheet, is⟩ => lineCount_of_ofView is, fun inside => ?_⟩, fun sheet is => ?_⟩
  · obtain ⟨sheet, is, -⟩ := made inside
    exact ⟨sheet, is⟩
  · obtain ⟨other, is', cells⟩ := made (lineCount_of_ofView is)
    obtain rfl : other = sheet := Except.ok.inj (is'.symm.trans is)
    have some_line : aggregate entries kind ≠ .noEntries → 0 < lineCount (aggregate entries kind) :=
      fun shown => lineCount_aggregate_pos fun none => shown (by rw [none]; rfl)
    refine ⟨fun rows view => ?_, fun summary view => ?_⟩ <;> rw [view] at cells some_line
    · exact matchesList_of_cells (List.ne_nil_of_length_pos (some_line nofun)) cells
    · exact matchesSummary_of_cells (List.ne_nil_of_length_pos (some_line nofun)) cells

def entryOn (project task : String) (hours : Float) (nonnegative : 0 ≤ hours) : TimeEntry where
  id := 1
  spentDate := Execution.someDay
  hours := hours
  project := ⟨1, project.text⟩
  task := ⟨2, task.text⟩
  client := none
  notes := none
  isRunning := false
  hours_nonneg := nonnegative

def someEntries : List TimeEntry :=
  [entryOn "P" "T" 1.25 (by decide), entryOn "Q" "=1+1" 2.75 (by decide)]

def someQuery : Query := ⟨.list, .single Execution.someDay⟩

theorem someEntries_match : (∀ name ∈ Display.shownNames (aggregate someEntries .list),
      Holdable name) ∧
    ∃ sheet, ofView (aggregate someEntries .list) someQuery = .ok sheet ∧
      sheet.cells.length = 14 ∧
      MatchesList (someEntries.map Row.ofEntry)
        (Display.render (.list (someEntries.map Row.ofEntry))) sheet := by
  have holdable : ∀ name ∈ Display.shownNames (aggregate someEntries .list), Holdable name := by
    decide
  have matching := sheet_matches_display someEntries .list someQuery holdable
  obtain ⟨sheet, made⟩ := matching.1.mpr (by decide)
  exact ⟨holdable, sheet, made, by cases made; rfl, (matching.2 sheet made).1 _ rfl⟩

end Reports

end TimeReports.Workbook

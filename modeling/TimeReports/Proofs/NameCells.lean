import TimeReports.Proofs.Worksheets

set_option autoImplicit false

namespace TimeReports.Workbook

open Report

variable {name : Text} {view : View} {sheet : Sheet} {cell : Cell}

/-- Whether a cell takes a name for a text: it does not begin as formulas do, and is not the name of
an error. -/
def Plain (name : Text) : Prop :=
  ¬ (1 < name.length ∧ name.head? = some (.char '=')) ∧ name ∉ errorNames

instance (name : Text) : Decidable (Plain name) := inferInstanceAs (Decidable (_ ∧ _))

theorem typed_eq_text_iff : typed name = .text name ↔ Plain name := by
  unfold typed Plain
  by_cases formula : 1 < name.length ∧ name.head? = some (.char '=')
  · simp [formula]
  · by_cases error : name ∈ errorNames
    · simp [formula, error]
    · simp [formula, error]

def Sheet.at? (sheet : Sheet) (row column : Nat) : Option Content :=
  ((sheet.rowAt row).find? (·.column = column)).map (·.content)

/-- The names in the rows of a sheet of a view, from the first column on. -/
def rowNames : View → List (List Text)
  | .noEntries => []
  | .list rows => rows.map fun row => [row.project, row.task]
  | .summary summary => summary.totals.map fun total => [total.1]

theorem mem_shownNames_iff :
    name ∈ Display.shownNames view ↔ ∃ names ∈ rowNames view, name ∈ names := by
  cases view <;> simp [Display.shownNames, rowNames]

/-- Whether the names of a view are texts in its sheet, and the total of a list is the only formula
in it. -/
structure NamesAreTexts (view : View) (sheet : Sheet) : Prop where
  names : ∀ index names, (rowNames view)[index]? = some names → ∀ column name,
    names[column]? = some name → sheet.at? (index + 2) (column + 1) = some (.text name)
  formulas : ∀ cell ∈ sheet.cells, (∃ formula, cell.content = .formula formula) ↔
    (∃ rows, view = .list rows) ∧ cell.row = lineCount view + 2 ∧ cell.column = 4

/-- The names of a view are in the first columns of its sheet, with the types that cells give. -/
theorem at?_of_cells (cells : sheet.cells = (viewBlocks view).flatten) {index column : Nat}
    {names : List Text} (line : (rowNames view)[index]? = some names)
    (named : names[column]? = some name) :
    sheet.at? (index + 2) (column + 1) = some (typed name) := by
  have stacked := stacked_viewBlocks view
  cases view with
  | noEntries => cases line
  | list rows =>
    rw [rowNames, List.getElem?_map, Option.map_eq_some_iff] at line
    obtain ⟨row, found, rfl⟩ := line
    rw [Sheet.at?, stacked.rowAt cells (getElem?_stack_body found)]
    rcases column with _ | _ | column
    · obtain rfl := Option.some.inj named
      simp [listBlock]
    · obtain rfl := Option.some.inj named
      simp [listBlock]
    · cases named
  | summary summary =>
    rw [rowNames, List.getElem?_map, Option.map_eq_some_iff] at line
    obtain ⟨total, found, rfl⟩ := line
    rw [Sheet.at?, stacked.rowAt cells (getElem?_stack_body found)]
    rcases column with _ | column
    · obtain rfl := Option.some.inj named
      simp [summaryBlock]
    · cases named

/-- When no name is a formula, the total of a list is the only formula of a sheet. -/
theorem formula_iff_of_cells (plain : ∀ name ∈ Display.shownNames view, Plain name)
    (cells : sheet.cells = (viewBlocks view).flatten) (member : cell ∈ sheet.cells) :
    (∃ formula, cell.content = .formula formula) ↔
      (∃ rows, view = .list rows) ∧ cell.row = lineCount view + 2 ∧ cell.column = 4 := by
  rw [cells] at member
  obtain ⟨index, block, found, holds, row⟩ := (stacked_viewBlocks view).block_of_mem member
  cases view with
  | noEntries =>
    obtain rfl := List.mem_singleton.mp member
    simp
  | list rows =>
    rcases stack_cases found with ⟨rfl, rfl⟩ | ⟨place, line, rfl, there, rfl⟩ | ⟨rfl, rfl⟩
    · obtain ⟨place, header, -, rfl⟩ := List.mem_mapIdx.mp holds
      simp [lineCount]
    · have small := (List.getElem?_eq_some_iff.mp there).1
      have text : ∀ name ∈ [line.project, line.task], typed name = .text name := fun name named =>
        typed_eq_text_iff.mpr (plain name
          (List.mem_flatMap.mpr ⟨line, List.mem_of_getElem? there, named⟩))
      rw [listBlock, text _ (by simp), text _ (by simp)] at holds
      simp only [lineCount, row, List.mem_cons, List.not_mem_nil, or_false] at holds ⊢
      rcases holds with rfl | rfl | rfl | rfl
      · simp
      · simp
      · simp
      · have above := Nat.ne_of_lt small
        simp [hoursCell, above]
    · simp only [listLast, List.mem_cons, List.not_mem_nil, or_false] at holds
      rcases holds with rfl | rfl <;> simp [lineCount]
  | summary summary =>
    refine iff_of_false ?_ (by simp)
    rcases stack_cases found with ⟨rfl, rfl⟩ | ⟨place, total, rfl, there, rfl⟩ | ⟨rfl, rfl⟩
    · obtain ⟨place, header, -, rfl⟩ := List.mem_mapIdx.mp holds
      simp
    · have text := typed_eq_text_iff.mpr (plain total.1 (List.mem_append_left _
        (List.mem_map_of_mem (List.mem_of_getElem? there))))
      rw [summaryBlock, text] at holds
      simp only [List.mem_cons, List.not_mem_nil, or_false] at holds
      rcases holds with rfl | rfl | rfl <;> simp [hoursCell]
    · simp only [summaryLast, List.mem_cons, List.not_mem_nil, or_false] at holds
      rcases holds with rfl | rfl <;> simp [hoursCell]

theorem namesAreTexts_iff_of_cells (cells : sheet.cells = (viewBlocks view).flatten) :
    NamesAreTexts view sheet ↔ ∀ name ∈ Display.shownNames view, Plain name := by
  constructor
  · intro texts name member
    obtain ⟨names, line, named⟩ := mem_shownNames_iff.mp member
    obtain ⟨index, found⟩ := List.mem_iff_getElem?.mp line
    obtain ⟨column, there⟩ := List.mem_iff_getElem?.mp named
    have text := texts.names index names found column name there
    rw [at?_of_cells cells found there] at text
    exact typed_eq_text_iff.mp (Option.some.inj text)
  · refine fun plain => ⟨fun index names found column name there => ?_, fun cell member =>
      formula_iff_of_cells plain cells member⟩
    have member := mem_shownNames_iff.mpr
      ⟨names, List.mem_of_getElem? found, List.mem_of_getElem? there⟩
    rw [at?_of_cells cells found there, typed_eq_text_iff.mpr (plain name member)]

/-- The names of a report are texts in its sheet, and the total of a list the only formula, just
when no name begins as formulas do and none is the name of an error. -/
theorem names_are_texts_iff (entries : List TimeEntry) (kind : ReportKind) (query : Query)
    (holdable : ∀ name ∈ Display.shownNames (aggregate entries kind), Holdable name)
    (inside : lineCount (aggregate entries kind) + 2 ≤ rowLimit) :
    ∃ sheet, ofView (aggregate entries kind) query = .ok sheet ∧
      (NamesAreTexts (aggregate entries kind) sheet ↔
        ∀ name ∈ Display.shownNames (aggregate entries kind), Plain name) := by
  obtain ⟨sheet, made, cells⟩ := ofView_of_le query holdable inside
  exact ⟨sheet, made, namesAreTexts_iff_of_cells cells⟩

/-- A list of entries on projects of which none is taken for a formula. -/
theorem plain_names_are_texts :
    ∃ sheet, ofView (aggregate [entryOn "P" "a=b" 1.5 (by decide)] .list) someQuery =
        .ok sheet ∧
      NamesAreTexts (aggregate [entryOn "P" "a=b" 1.5 (by decide)] .list) sheet := by
  obtain ⟨sheet, made, iff⟩ := names_are_texts_iff [entryOn "P" "a=b" 1.5 (by decide)]
    .list someQuery (by decide) (by decide)
  exact ⟨sheet, made, iff.mpr (by decide)⟩

/-- The name of a project that is taken for a formula. -/
theorem sum_name_is_formula :
    ∃ sheet, ofView (aggregate [entryOn "=1+1" "T" 1.5 (by decide)] .list) someQuery =
        .ok sheet ∧
      sheet.at? 2 1 = some (.formula "=1+1".text) ∧
      ¬ NamesAreTexts (aggregate [entryOn "=1+1" "T" 1.5 (by decide)] .list) sheet := by
  refine ⟨_, rfl, rfl, fun texts => ?_⟩
  cases texts.names 0 ["=1+1".text, "T".text] rfl 0 "=1+1".text rfl

end TimeReports.Workbook

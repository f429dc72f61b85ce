import Mathlib.Algebra.GroupWithZero.Nat
import Mathlib.Data.List.Forall2
import TimeReports.Display.Plain
import TimeReports.Proofs.Splitting

set_option autoImplicit false

namespace TimeReports

theorem Text.trimRight_of_visible {text : Text} {c : CodePoint} (last : text.getLast? = some c)
    (visible : isBlank c = false) : trimRight text = text := by
  obtain ⟨front, rfl⟩ := List.getLast?_eq_some_iff.mp last
  simp [trimRight, trimRightBy, visible]

namespace Display

open Text

variable {widths wider : List Nat} {cells fields row headers : List Text}
  {rows : List (List Text)} {line cell : Text}

/-- What stands between the columns of a line. -/
def gap : Text := [' ', ' ']

/-- Where a column starts: behind those on its left, with a gap behind each of them. -/
def offset (widths : List Nat) (column : Nat) : Nat :=
  ((widths.take column).map (· + gap.length)).sum

def lineLength (widths : List Nat) : Nat := widths.sum + gap.length * (widths.length - 1)

/-- Whether a line shows fields in columns: it is as long as the columns make it, and each field is
as wide as its column and stands where the column starts. -/
structure InColumns (widths : List Nat) (fields : List Text) (line : Text) : Prop where
  length : line.length = lineLength widths
  fill : fields.map List.length = widths
  shown : ∀ column text, fields[column]? = some text → text <+: line.drop (offset widths column)

/-- Whether fields are cells with spaces: behind each cell, but in front of the last. -/
inductive Padded : List Text → List Text → Prop
  | last (spaces : Nat) (cell : Text) : Padded [cell] [List.replicate spaces (.char ' ') ++ cell]
  | cons (spaces : Nat) (cell : Text) {cells fields : List Text} (rest : Padded cells fields) :
    Padded (cell :: cells) ((cell ++ List.replicate spaces (.char ' ')) :: fields)

/-- Whether a line shows cells in columns, the last one to the right and the others to the left. -/
def ShowsCells (widths : List Nat) (cells : List Text) (line : Text) : Prop :=
  ∃ fields, Padded cells fields ∧ InColumns widths fields line

theorem lineLength_cons (width : Nat) (some_width : widths ≠ []) :
    lineLength (width :: widths) = width + gap.length + lineLength widths := by
  obtain ⟨next, rest, rfl⟩ := List.exists_cons_of_ne_nil some_width
  simp only [lineLength, List.sum_cons, List.length_cons, Nat.add_sub_cancel, Nat.mul_add]
  omega

theorem offset_cons_succ (width column : Nat) :
    offset (width :: widths) (column + 1) = width + gap.length + offset widths column := by
  simp only [offset, List.take_succ_cons, List.map_cons, List.sum_cons]

theorem length_join_gap (fields : List Text) :
    (join gap fields).length = lineLength (fields.map List.length) := by
  induction fields with
  | nil => rfl
  | cons text rest ih =>
    by_cases some_field : rest = []
    · subst some_field
      simp [join, lineLength]
    · rw [join_cons_of_ne_nil _ _ some_field, List.map_cons,
        lineLength_cons _ (by simpa using some_field), ← ih, List.length_append, List.length_append]

/-- A field stands behind those on its left. -/
theorem prefix_drop_join {column : Nat} {text : Text} (shown : fields[column]? = some text) :
    text <+: (join gap fields).drop (offset (fields.map List.length) column) := by
  induction fields generalizing column with
  | nil => cases shown
  | cons first rest ih =>
    by_cases some_field : rest = []
    · subst some_field
      obtain ⟨rfl, rfl⟩ : column = 0 ∧ first = text := by
        cases column with
        | zero => simpa using shown
        | succ column => simp at shown
      exact List.prefix_rfl
    · rw [join_cons_of_ne_nil _ _ some_field]
      cases column with
      | zero =>
        obtain rfl : first = text := by simpa using shown
        exact ⟨gap ++ join gap rest, (List.append_assoc ..).symm⟩
      | succ column =>
        rw [List.map_cons, offset_cons_succ, ← List.length_append, List.drop_length_add_append]
        exact ih (by simpa using shown)

theorem inColumns_join (fill : fields.map List.length = widths) :
    InColumns widths fields (join gap fields) := by
  subst fill
  exact ⟨length_join_gap fields, rfl, fun _ _ => prefix_drop_join⟩

theorem Padded.ne_nil (padded : Padded cells fields) : cells ≠ [] ∧ fields ≠ [] := by
  cases padded <;> exact ⟨List.cons_ne_nil _ _, List.cons_ne_nil _ _⟩

/-- A line ends with its last cell. -/
theorem Padded.suffix_join (padded : Padded cells fields) (last : cells.getLast? = some cell) :
    cell <:+ join gap fields := by
  induction padded with
  | last spaces only =>
    obtain rfl : only = cell := by simpa using last
    exact List.suffix_append _ _
  | cons spaces first rest ih =>
    rw [List.getLast?_cons_of_ne_nil rest.ne_nil.1] at last
    rw [join_cons_of_ne_nil _ _ rest.ne_nil.2]
    exact (ih last).trans (List.suffix_append _ _)

/-- Whether the cells of a row fit into columns of these widths. -/
abbrev Fits (row : List Text) (widths : List Nat) : Prop :=
  List.Forall₂ (fun cell width => cell.length ≤ width) row widths

/-- Cells that fit fill their columns with spaces. -/
theorem padded_padCells (fits : Fits row widths) (some_cell : row ≠ []) :
    Padded row (padCells widths row) ∧ (padCells widths row).map List.length = widths := by
  induction fits with
  | nil => exact absurd rfl some_cell
  | @cons cell width row widths first rest ih =>
    cases rest with
    | nil => exact ⟨.last _ cell, by simp [padCells, padLeft, first]⟩
    | cons next rest =>
      obtain ⟨padded, fill⟩ := ih (List.cons_ne_nil _ _)
      refine ⟨.cons _ cell padded, ?_⟩
      simp [padCells, fill, padRight, first]

/-- Whether the last cell of a row ends with a character that is no blank. -/
def EndsVisibly (row : List Text) : Prop :=
  ∃ cell ∈ row.getLast?, ∃ c ∈ cell.getLast?, isBlank c = false

/-- Where it ends with what is no blank, nothing of a line is trimmed. -/
theorem showsCells_plainRow (fits : Fits row widths) (ends : EndsVisibly row) :
    ShowsCells widths row (plainRow widths row) := by
  obtain ⟨cell, last, c, last', visible⟩ := ends
  have some_cell : row ≠ [] := by
    rintro rfl
    cases last
  obtain ⟨padded, fill⟩ := padded_padCells fits some_cell
  obtain ⟨front, whole⟩ := padded.suffix_join last
  have ended : (join gap (padCells widths row)).getLast? = some c := by
    rw [← whole, List.getLast?_append, last', Option.some_or]
  have placed := inColumns_join fill
  rw [← trimRight_of_visible ended visible] at placed
  exact ⟨_, padded, placed⟩

/-- Columns that are widened for a row take it in, and all that fitted into them before. -/
theorem exists_widen (lengths : row.length = widths.length) :
    ∃ wider, widen? widths row = some wider ∧ Fits row wider ∧
      ∀ other, Fits other widths → Fits other wider := by
  induction row generalizing widths with
  | nil =>
    obtain rfl := List.length_eq_zero_iff.mp lengths.symm
    exact ⟨[], rfl, .nil, fun _ => id⟩
  | cons cell row ih =>
    cases widths with
    | nil => cases lengths
    | cons width widths =>
      obtain ⟨wider, widened, fits, keeps⟩ := ih (Nat.succ.inj lengths)
      refine ⟨max width cell.length :: wider, by rw [widen?, widened]; rfl,
        .cons (Nat.le_max_right _ _) fits, fun other fits' => ?_⟩
      cases fits' with
      | cons below rest => exact .cons (Nat.le_trans below (Nat.le_max_left _ _)) (keeps _ rest)

/-- Where each row has a cell for each header, there are widths into which all of them fit. -/
theorem exists_columnWidths (lengths : ∀ row ∈ rows, row.length = headers.length) :
    ∃ widths, columnWidths? headers rows = some widths ∧
      ∀ row ∈ headers :: rows, Fits row widths := by
  -- the widths so far take in the headers and the rows above
  have widest (widths : List Nat) (narrow : Fits headers widths) :
      ∃ widest, rows.foldlM widen? widths = some widest ∧ (∀ row ∈ rows, Fits row widest) ∧
        ∀ other, Fits other widths → Fits other widest := by
    induction rows generalizing widths with
    | nil => exact ⟨widths, rfl, fun _ member => (nomatch member), fun _ => id⟩
    | cons row rest ih =>
      obtain ⟨first, others⟩ := List.forall_mem_cons.mp lengths
      obtain ⟨wider, widened, fits, keeps⟩ := exists_widen (first.trans narrow.length_eq)
      obtain ⟨widest, folded, fits', keeps'⟩ := ih others wider (keeps _ narrow)
      refine ⟨widest, by rw [List.foldlM_cons, widened]; exact folded, ?_,
        fun other fits => keeps' other (keeps other fits)⟩
      exact List.forall_mem_cons.mpr ⟨keeps' row fits, fits'⟩
  have narrow : Fits headers (headers.map List.length) :=
    List.forall₂_map_right_iff.mpr (List.forall₂_same.mpr fun _ _ => Nat.le_refl _)
  obtain ⟨widths, folded, fits, keeps⟩ := widest _ narrow
  exact ⟨widths, folded, List.forall_mem_cons.mpr ⟨keeps _ narrow, fits⟩⟩

/-- A table with a cell for each header in each row is written. -/
theorem exists_plainTable (lengths : ∀ row ∈ rows, row.length = headers.length) :
    ∃ lines, plainTable headers rows = .ok lines := by
  obtain ⟨widths, found, -⟩ := exists_columnWidths lengths
  exact ⟨_, by rw [plainTable, found]⟩

/-- The fields of the rule between the headers and the rows. -/
def dashes (widths : List Nat) : List Text := widths.map fun width => List.replicate width '-'

theorem map_length_dashes (widths : List Nat) : (dashes widths).map List.length = widths := by
  simp [dashes, Function.comp_def]

/-- A table with a cell for each header in each row is written in columns, if no line of it ends
with a blank. -/
theorem exists_inColumns (lengths : ∀ row ∈ rows, row.length = headers.length)
    (ends : ∀ row ∈ headers :: rows, EndsVisibly row) :
    ∃ widths header rule lines, plainTable headers rows = .ok (header :: rule :: lines) ∧
      ShowsCells widths headers header ∧ InColumns widths (dashes widths) rule ∧
      List.Forall₂ (ShowsCells widths) rows lines := by
  obtain ⟨widths, found, fits⟩ := exists_columnWidths lengths
  have written : plainTable headers rows = .ok (plainRow widths headers ::
      join gap (dashes widths) :: rows.map (plainRow widths)) := by
    rw [plainTable, found]
    rfl
  have each (row : List Text) (member : row ∈ headers :: rows) :
      ShowsCells widths row (plainRow widths row) :=
    showsCells_plainRow (fits row member) (ends row member)
  refine ⟨widths, _, _, _, written, each headers List.mem_cons_self,
    inColumns_join (map_length_dashes widths), ?_⟩
  exact List.forall₂_map_right_iff.mpr (List.forall₂_same.mpr fun row member =>
    each row (List.mem_cons_of_mem _ member))

end Display

end TimeReports

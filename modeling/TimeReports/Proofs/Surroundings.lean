import TimeReports.Proofs.Documents
import TimeReports.Proofs.Lines

set_option autoImplicit false

namespace TimeReports

namespace Document

open Text

variable {text : Text} {rows items : List Text} {number : Nat} {lineEnd : LineEnd}

/-- A line as it is read from what stands in front of its line feed. -/
def LineEnd.line : LineEnd → Text → Text
  | .lineFeed, row => row
  | .both, row => withoutReturn row

/-- A text with the line feeds between its lines made line ends. -/
def LineEnd.ending (lineEnd : LineEnd) (text : Text) : Text :=
  join lineEnd.text (pieces feed text)

/-- A text with every line end of its own made the document's. -/
def LineEnd.fitted (lineEnd : LineEnd) (text : Text) : Text :=
  join lineEnd.text ((pieces feed text).map lineEnd.line)

/-- Whether a text has no line ends but the document's, and no carriage return at its end that would
be taken for part of one. -/
def LineEnd.Fits : LineEnd → Text → Prop
  | .lineFeed, _ => True
  | .both, text =>
    (∀ before behind, text = before ++ feed :: behind → before.getLast? = some back) ∧
      text.getLast? ≠ some back

def textAbove (number : Nat) (text : Text) : Text := rowed ((pieces feed text).take number)

/-- The carriage return that belongs to the end of a line. -/
def returnOf (row : Text) : Text := if row.getLast? = some back then [back] else []

def textBelow (number : Nat) (text : Text) : Text :=
  match (pieces feed text).drop number with
  | row :: next :: rest => returnOf row ++ feed :: join [feed] (next :: rest)
  | _ => []

/-- As many rows in front of the same text are the same rows. -/
theorem rowed_append_inj {others : List Text} {rest rest' : Text}
    (clean : ∀ row ∈ rows, feed ∉ row) (clean' : ∀ row ∈ others, feed ∉ row)
    (lengths : rows.length = others.length) (same : rowed rows ++ rest = rowed others ++ rest') :
    rows = others ∧ rest = rest' := by
  have parts := congrArg (pieces feed) same
  rw [pieces_rowed_append clean, pieces_rowed_append clean'] at parts
  obtain rfl := (List.append_inj parts lengths).1
  exact ⟨rfl, List.append_cancel_left same⟩

theorem withoutReturn_append_returnOf (row : Text) : withoutReturn row ++ returnOf row = row := by
  rw [withoutReturn_eq, returnOf]
  split
  · next last =>
    obtain ⟨line, rfl⟩ := List.getLast?_eq_some_iff.mp last
    rw [List.dropLast_concat]
  · exact List.append_nil row

theorem line_subset (lineEnd : LineEnd) (row : Text) : lineEnd.line row ⊆ row := by
  cases lineEnd with
  | lineFeed => exact List.Subset.refl row
  | both =>
    intro c member
    rw [← withoutReturn_append_returnOf row]
    exact List.mem_append_left _ member

@[simp] theorem line_nil (lineEnd : LineEnd) : lineEnd.line [] = [] := by
  cases lineEnd <;> rfl

/-- Rows in front of more lines. -/
theorem join_lines_append (lineEnd : LineEnd) {others : List Text} (some_line : others ≠ [])
    (init : List Text) : join lineEnd.text (init ++ others) =
      rowed (init.map lineEnd.row) ++ join lineEnd.text others := by
  obtain ⟨front, last, rfl⟩ : ∃ front last, others = front ++ [last] :=
    ⟨_, _, (List.dropLast_concat_getLast some_line).symm⟩
  rw [← List.append_assoc, join_lineEnd, join_lineEnd, List.map_append, rowed_append,
    List.append_assoc]

theorem join_feed_append {others : List Text} (some_row : others ≠ []) (rows : List Text) :
    join [feed] (rows ++ others) = rowed rows ++ join [feed] others := by
  have joined := join_lines_append .lineFeed some_row rows
  have same : rows.map LineEnd.lineFeed.row = rows := List.map_id' rows
  rw [same] at joined
  exact joined

/-- What the lines of a document are read from. -/
theorem items_ofText (text : Text) :
    (Lines.ofText text).items ++ (if (Lines.ofText text).ended then [[]] else []) =
      (pieces feed text).map (Lines.ofText text).lineEnd.line := by
  have parts (ended : Bool) (is : (text.getLast? == some feed) = ended) :
      pieces feed (if ended then text.dropLast else text) ++ (if ended then [[]] else []) =
        pieces feed text := by
    cases ended with
    | false => simp
    | true =>
      obtain ⟨front, rfl⟩ := List.getLast?_eq_some_iff.mp (eq_of_beq is)
      rw [pieces_append_mark, List.dropLast_concat]
      rfl
  rw [← parts _ rfl, ofText_eq]
  generalize (text.getLast? == some feed) = ended
  cases occurs [back, feed] text with
  | false => exact (List.map_id' _).symm
  | true =>
    simp only [↓reduceIte, List.map_append]
    cases ended <;> rfl

theorem lineEnd_ofText (text : Text) : (Lines.ofText text).lineEnd =
    if returns (pieces feed text).dropLast then .both else .lineFeed := by
  obtain ⟨rows, tail, clean, clean', rfl⟩ := exists_rowed text
  rw [ofText_eq, pieces_rowed clean clean', List.dropLast_concat, occurs_rowed clean clean']
  unfold returns
  split <;> rfl

/-- A document whose last line is ended is written like one with an empty line behind it. -/
theorem toText_eq_join {lines : Lines} (some_line : lines.items ≠ []) :
    lines.toText = join lines.lineEnd.text (lines.items ++ if lines.ended then [[]] else []) := by
  unfold Lines.toText
  cases lines.ended with
  | false => simp
  | true => simp [join_append _ some_line, join]

/-- What is read as the end of a line is no part of the line. -/
theorem line_returnOf {row : Text} (inside : row ∈ (pieces feed text).dropLast) :
    (Lines.ofText text).lineEnd.line (returnOf row) = [] := by
  rw [lineEnd_ofText, returnOf]
  cases unreturned : returns (pieces feed text).dropLast with
  | true => by_cases last : row.getLast? = some back <;> simp only [last, ↓reduceIte] <;> rfl
  | false =>
    have other := List.any_eq_false.mp unreturned row inside
    rw [decide_eq_true_eq] at other
    simp only [other, Bool.false_eq_true, ↓reduceIte, line_nil]

theorem feed_not_mem_line {row : Text} (absent : feed ∉ row) : feed ∉ lineEnd.line row := by
  cases lineEnd with
  | lineFeed => exact absent
  | both => exact feed_not_mem_withoutReturn absent

theorem clean_lines (clean : ∀ row ∈ rows, feed ∉ row) :
    ∀ line ∈ rows.map lineEnd.line, feed ∉ line := by
  intro line member
  obtain ⟨row, inside, rfl⟩ := List.mem_map.mp member
  exact feed_not_mem_line (clean row inside)

/-- Rows are fitted one by one. -/
theorem fitted_rowed_append (lineEnd : LineEnd) (clean : ∀ row ∈ rows, feed ∉ row)
    (rest : Text) :
    lineEnd.fitted (rowed rows ++ rest) =
      rowed ((rows.map lineEnd.line).map lineEnd.row) ++ lineEnd.fitted rest := by
  have some_piece : (pieces feed rest).map lineEnd.line ≠ [] := by simp [pieces_ne_nil]
  rw [LineEnd.fitted, pieces_rowed_append clean, List.map_append,
    join_lines_append _ some_piece, LineEnd.fitted]

theorem fitted_of_not_mem (absent : feed ∉ text) : lineEnd.fitted text = lineEnd.line text := by
  rw [LineEnd.fitted, pieces_of_not_mem absent]
  rfl

theorem fitted_nil (lineEnd : LineEnd) : lineEnd.fitted [] = [] := by
  rw [fitted_of_not_mem List.not_mem_nil, line_nil]

theorem feed_not_mem_above (number : Nat) (text : Text) :
    ∀ row ∈ (pieces feed text).take number, feed ∉ row :=
  fun _ member => not_mem_of_mem_pieces (List.take_subset _ _ member)

theorem fitted_textAbove (lineEnd : LineEnd) (number : Nat) (text : Text) :
    lineEnd.fitted (textAbove number text) =
      rowed ((((pieces feed text).take number).map lineEnd.line).map lineEnd.row) := by
  have fitted := fitted_rowed_append lineEnd (feed_not_mem_above number text) []
  rw [List.append_nil, fitted_nil, List.append_nil] at fitted
  exact fitted

/-- Where a line is not the last one, its end and the lines behind it are fitted. -/
theorem fitted_textBelow {row next : Text} {rest : List Text}
    (split : (pieces feed text).drop number = row :: next :: rest) :
    (Lines.ofText text).lineEnd.fitted (textBelow number text) =
      (Lines.ofText text).lineEnd.text ++
        join (Lines.ofText text).lineEnd.text
          ((next :: rest).map (Lines.ofText text).lineEnd.line) := by
  have whole := List.take_append_drop number (pieces feed text)
  rw [split] at whole
  have inside : row ∈ (pieces feed text).dropLast := by
    rw [← whole, List.dropLast_append_of_ne_nil (List.cons_ne_nil _ _), List.dropLast_cons_cons]
    exact List.mem_append_right _ List.mem_cons_self
  have clean : ∀ other ∈ next :: rest, feed ∉ other := fun other member =>
    not_mem_of_mem_pieces (List.drop_subset number _ (split ▸ List.mem_cons_of_mem _ member))
  have clean' : feed ∉ returnOf row := by
    unfold returnOf
    split <;> simp
  have parts : pieces feed (textBelow number text) = returnOf row :: next :: rest := by
    rw [textBelow, split]
    simp only
    rw [pieces_append_mark, pieces_of_not_mem clean', pieces_join clean (List.cons_ne_nil _ _)]
    rfl
  rw [LineEnd.fitted, parts, List.map_cons, line_returnOf inside,
    join_cons_of_ne_nil _ _ (by simp), List.nil_append]

theorem textBelow_of_last {row : Text} (split : (pieces feed text).drop number = [row]) :
    textBelow number text = [] := by
  rw [textBelow, split]

theorem withoutReturn_eq_self_iff {line : Text} :
    withoutReturn line = line ↔ line.getLast? ≠ some back := by
  refine ⟨fun same last => ?_, withoutReturn_of_ne⟩
  obtain ⟨front, rfl⟩ := List.getLast?_eq_some_iff.mp last
  rw [withoutReturn_append] at same
  simp at same

theorem row_line_both_eq_self_iff {row : Text} :
    LineEnd.both.row (LineEnd.both.line row) = row ↔ row.getLast? = some back := by
  constructor
  · intro same
    rw [← same]
    exact List.getLast?_concat ..
  · intro last
    obtain ⟨front, rfl⟩ := List.getLast?_eq_some_iff.mp last
    rw [LineEnd.line, withoutReturn_append]
    rfl

theorem getLast?_rowed_append (rows : List Text) (tail : Text) :
    (rowed rows ++ tail).getLast? = some back ↔ tail.getLast? = some back := by
  rw [List.getLast?_append]
  cases last : tail.getLast? with
  | some c => rw [Option.some_or]
  | none =>
    rcases List.eq_nil_or_concat rows with rfl | ⟨init, row, rfl⟩
    · simp
    · simp [rowed_append, rowed_cons]

/-- A text has a carriage return in front of every line feed when each of its rows ends with one. -/
theorem forall_getLast?_iff {tail : Text} (clean : ∀ row ∈ rows, feed ∉ row)
    (clean' : feed ∉ tail) : (∀ before behind, rowed rows ++ tail = before ++ feed :: behind →
      before.getLast? = some back) ↔ ∀ row ∈ rows, row.getLast? = some back := by
  constructor
  · intro all row member
    obtain ⟨front, rest, rfl⟩ := List.append_of_mem member
    have last := all (rowed front ++ row) (rowed rest ++ tail) (by simp [rowed_append, rowed_cons])
    exact (getLast?_rowed_append front row).mp last
  · intro all before behind split
    obtain ⟨front, row, clean'', absent, rfl⟩ := exists_rowed before
    have ended : rowed front ++ row ++ feed :: behind = rowed (front ++ [row]) ++ behind := by
      simp [rowed_append, rowed_cons]
    have some_row : ∀ other ∈ front ++ [row], feed ∉ other := by
      simpa [or_imp, forall_and] using ⟨clean'', absent⟩
    have parts := congrArg (fun text => (pieces feed text).dropLast) (split.trans ended)
    simp only [pieces_rowed clean clean', List.dropLast_concat, pieces_rowed_append some_row,
      List.dropLast_append_of_ne_nil (pieces_ne_nil feed behind)] at parts
    refine (getLast?_rowed_append front row).mpr (all row ?_)
    simp [parts]

/-- Fitting its line ends leaves a text as it is exactly when they are the document's. -/
theorem fitted_eq_self_iff : lineEnd.fitted text = text ↔ lineEnd.Fits text := by
  cases lineEnd with
  | lineFeed =>
    have same : (pieces feed text).map LineEnd.lineFeed.line = pieces feed text := List.map_id' _
    rw [LineEnd.fitted, same]
    exact iff_true_intro (join_pieces feed text)
  | both =>
    obtain ⟨rows, tail, clean, clean', rfl⟩ := exists_rowed text
    have alike : (rows.map LineEnd.both.line).map LineEnd.both.row = rows ↔
        ∀ row ∈ rows, row.getLast? = some back := by
      have each : rows.map (LineEnd.both.row ∘ LineEnd.both.line) = rows.map id ↔
          ∀ row ∈ rows, LineEnd.both.row (LineEnd.both.line row) = row := List.map_inj_left
      rw [List.map_id] at each
      rw [List.map_map, each]
      simp only [row_line_both_eq_self_iff]
    rw [fitted_rowed_append .both clean, fitted_of_not_mem clean', LineEnd.Fits,
      forall_getLast?_iff clean clean', ne_eq, getLast?_rowed_append, ← ne_eq,
      ← withoutReturn_eq_self_iff, ← alike]
    constructor
    · intro same
      exact rowed_append_inj (not_mem_row _ (clean_lines clean)) clean (by simp) same
    · rintro ⟨same, same'⟩
      rw [same, LineEnd.line, same']

/-- What stands above lines is the same again in front of other lines only if it is fitted. -/
theorem fitted_textAbove_append_eq_iff {rest other : Text} :
    lineEnd.fitted (textAbove number text) ++ rest = textAbove number text ++ other ↔
      lineEnd.fitted (textAbove number text) = textAbove number text ∧ rest = other := by
  constructor
  · intro same
    have clean := feed_not_mem_above number text
    rw [fitted_textAbove, textAbove] at same ⊢
    obtain ⟨rows, rfl⟩ := rowed_append_inj (not_mem_row _ (clean_lines clean)) clean (by simp) same
    exact ⟨by rw [rows], rfl⟩
  · rintro ⟨same, rfl⟩
    rw [same]

theorem characters_lineEnd (lineEnd : LineEnd) : ∀ c ∈ lineEnd.text, c.isSurrogate = false := by
  cases lineEnd <;> decide

theorem characters_ending_iff (lineEnd : LineEnd) (text : Text) :
    (∀ c ∈ lineEnd.ending text, c.isSurrogate = false) ↔ ∀ c ∈ text, c.isSurrogate = false := by
  have whole := forall_mem_join (·.isSurrogate = false) (characters_lineEnd .lineFeed)
    (pieces feed text)
  change (∀ c ∈ join [feed] (pieces feed text), _) ↔ _ at whole
  rw [join_pieces] at whole
  rw [whole]
  exact forall_mem_join (·.isSurrogate = false) (characters_lineEnd lineEnd) _

theorem characters_fitted (lineEnd : LineEnd)
    (characters : ∀ c ∈ text, c.isSurrogate = false) :
    ∀ c ∈ lineEnd.fitted text, c.isSurrogate = false := by
  refine (forall_mem_join (·.isSurrogate = false) (characters_lineEnd lineEnd) _).mpr ?_
  intro line member c inside
  obtain ⟨row, piece, rfl⟩ := List.mem_map.mp member
  exact characters c (mem_of_mem_pieces piece (line_subset lineEnd row inside))

end Document

namespace Vault

open Document Text

variable {vault : Vault} {document text replacement : Text} {first last : Int}

/-- A text between what stands around lines of another. -/
def around (text : Text) (first last : Int) (middle : Text) : Text :=
  textAbove first.toNat text ++ middle ++ textBelow last.toNat text

theorem exists_drop_eq_cons (inside : InRange text first last) :
    ∃ row, (pieces feed text).drop last.toNat =
      row :: (pieces feed text).drop (last.toNat + 1) := by
  obtain ⟨nonneg, ordered, below⟩ := inside
  have lengths := congrArg List.length (items_ofText text)
  rw [List.length_append, List.length_map] at lengths
  exact ⟨_, List.drop_eq_getElem_cons (by omega)⟩

/-- Lines and what stands around them make up the text. -/
theorem exists_around (inside : InRange text first last) :
    ∃ within, around text first last within = text := by
  obtain ⟨between, whole⟩ : ∃ between, pieces feed text =
      (pieces feed text).take first.toNat ++ (between ++ (pieces feed text).drop last.toNat) := by
    have ordered : first.toNat + (last.toNat - first.toNat) = last.toNat := by
      have := inside.2.1
      omega
    have within := List.take_append_drop (last.toNat - first.toNat)
      ((pieces feed text).drop first.toNat)
    rw [List.drop_drop, ordered] at within
    exact ⟨_, by rw [within, List.take_append_drop]⟩
  obtain ⟨row, split⟩ := exists_drop_eq_cons inside
  have some_row : (pieces feed text).drop last.toNat ≠ [] := by simp [split]
  have joined := join_pieces feed text
  rw [whole, join_feed_append (by simp [some_row]), join_feed_append some_row] at joined
  cases behind : (pieces feed text).drop (last.toNat + 1) with
  | nil =>
    rw [behind] at split
    refine ⟨rowed between ++ row, ?_⟩
    rw [split] at joined
    rw [around, textBelow_of_last split, List.append_nil]
    exact joined
  | cons next rest =>
    rw [behind] at split
    refine ⟨rowed between ++ withoutReturn row, ?_⟩
    rw [split, join_cons_of_ne_nil _ _ (List.cons_ne_nil _ _)] at joined
    rw [around, textBelow, split]
    refine Eq.trans ?_ joined
    simp only [textAbove, List.append_assoc, List.singleton_append]
    rw [← List.append_assoc (withoutReturn row), withoutReturn_append_returnOf]

/-- A text with lines replaced has what stands around them with fitted line ends. -/
theorem splicedText_eq (inside : InRange text first last) (replacement : Text) :
    splicedText text first last replacement =
      (Lines.ofText text).lineEnd.fitted (textAbove first.toNat text) ++
        (Lines.ofText text).lineEnd.ending replacement ++
        (Lines.ofText text).lineEnd.fitted (textBelow last.toNat text) := by
  have ⟨nonneg, ordered, below⟩ := inside
  have parts := items_ofText text
  have above : (Lines.ofText text).items.take first.toNat =
      ((pieces feed text).take first.toNat).map (Lines.ofText text).lineEnd.line := by
    rw [List.map_take, ← parts, List.take_append_of_le_length (by omega)]
  have under : (Lines.ofText text).items.drop (last.toNat + 1) ++
      (if (Lines.ofText text).ended then [[]] else []) =
        ((pieces feed text).drop (last.toNat + 1)).map (Lines.ofText text).lineEnd.line := by
    rw [List.map_drop, ← parts, List.drop_append_of_le_length (by omega)]
  obtain ⟨row, split⟩ := exists_drop_eq_cons inside
  have some_line : (spliced (Lines.ofText text) first.toNat last.toNat replacement).items ≠ [] := by
    simp [spliced, pieces_ne_nil]
  rw [splicedText, toText_eq_join some_line]
  change join (Lines.ofText text).lineEnd.text (((Lines.ofText text).items.take first.toNat ++
    pieces feed replacement ++ (Lines.ofText text).items.drop (last.toNat + 1)) ++
      if (Lines.ofText text).ended then [[]] else []) = _
  -- All pieces of the text but those that are replaced stand among the lines, the one behind the
  -- last line feed included.
  rw [List.append_assoc, under, above, List.append_assoc,
    join_lines_append _ (by simp [pieces_ne_nil]), ← fitted_textAbove, List.append_assoc,
    LineEnd.ending]
  congr 1
  cases behind : (pieces feed text).drop (last.toNat + 1) with
  | nil =>
    rw [behind] at split
    rw [textBelow_of_last split, fitted_nil, List.append_nil, List.map_nil, List.append_nil]
  | cons next rest =>
    rw [behind] at split
    rw [fitted_textBelow split, join_append _ (pieces_ne_nil _ _) (by simp), List.append_assoc]

/-- A text with lines replaced has the same around them exactly when what stands there has no line
ends but the document's. -/
theorem splicedText_eq_around_iff (inside : InRange text first last) (replacement : Text) :
    splicedText text first last replacement =
        around text first last ((Lines.ofText text).lineEnd.ending replacement) ↔
      (Lines.ofText text).lineEnd.Fits (textAbove first.toNat text) ∧
        (Lines.ofText text).lineEnd.Fits (textBelow last.toNat text) := by
  rw [splicedText_eq inside, around, List.append_assoc, List.append_assoc,
    fitted_textAbove_append_eq_iff, List.append_cancel_left_eq, fitted_eq_self_iff,
    fitted_eq_self_iff]

/-- What stands around lines is a part of the text. -/
theorem characters_around_iff (inside : InRange text first last)
    (characters : ∀ c ∈ text, c.isSurrogate = false) {middle : Text} :
    (∀ c ∈ around text first last middle, c.isSurrogate = false) ↔
      ∀ c ∈ middle, c.isSurrogate = false := by
  obtain ⟨within, whole⟩ := exists_around inside
  rw [← whole] at characters
  unfold around at characters ⊢
  simp only [List.mem_append, or_imp, forall_and] at characters ⊢
  exact ⟨fun each => each.1.2, fun each => ⟨⟨characters.1.1, each⟩, characters.2⟩⟩

/-- Storage takes a text with lines replaced exactly when it takes the replacement. -/
theorem characters_splicedText_iff (inside : InRange text first last)
    (characters : ∀ c ∈ text, c.isSurrogate = false) (replacement : Text) :
    (∀ c ∈ splicedText text first last replacement, c.isSurrogate = false) ↔
      ∀ c ∈ replacement, c.isSurrogate = false := by
  have surroundings : ∀ c ∈ around text first last [], c.isSurrogate = false :=
    (characters_around_iff inside characters).mpr fun _ member => nomatch member
  rw [around, List.append_nil] at surroundings
  simp only [List.mem_append, or_imp, forall_and] at surroundings
  have above := characters_fitted (Lines.ofText text).lineEnd surroundings.1
  have below := characters_fitted (Lines.ofText text).lineEnd surroundings.2
  rw [splicedText_eq inside, ← characters_ending_iff (Lines.ofText text).lineEnd replacement]
  simp only [List.mem_append, or_imp, forall_and]
  exact ⟨fun each => each.1.2, fun each => ⟨⟨above, each⟩, below⟩⟩

variable (reads : vault.read document = .ok text) (inside : InRange text first last)
  (calm : vault.trouble = .none)

include reads inside calm

/-- Replacing lines keeps what stands around them exactly when storage takes the replacement and
there are no line ends but the document's. In any case the line ends are fitted. -/
theorem replaceLines_eq_around_iff (replacement : Text) :
    (∃ within, around text first last within = text) ∧
    ((∀ c ∈ replacement, c.isSurrogate = false) →
      vault.replaceLines document first last replacement =
        (vault.holding (vault.pathOf document) (Text.utf8
          ((Lines.ofText text).lineEnd.fitted (textAbove first.toNat text) ++
            (Lines.ofText text).lineEnd.ending replacement ++
            (Lines.ofText text).lineEnd.fitted (textBelow last.toNat text))), .ok ())) ∧
    (vault.replaceLines document first last replacement =
        (vault.holding (vault.pathOf document) (Text.utf8
          (textAbove first.toNat text ++ (Lines.ofText text).lineEnd.ending replacement ++
            textBelow last.toNat text)), .ok ()) ↔
      (∀ c ∈ replacement, c.isSurrogate = false) ∧
        (Lines.ofText text).lineEnd.Fits (textAbove first.toNat text) ∧
        (Lines.ofText text).lineEnd.Fits (textBelow last.toNat text)) := by
  obtain ⟨nameable, -, holds⟩ := read_eq_ok_iff.mp reads
  have storable := characters_splicedText_iff inside holds.characters replacement
  refine ⟨exists_around inside, fun plain => ?_, fun kept => ?_, ?_⟩
  · rw [← splicedText_eq inside, replaceLines_eq_ok_iff]
    exact ⟨nameable, calm, text, holds, inside, storable.mpr plain, rfl⟩
  · obtain ⟨-, -, other, holds', -, characters, same⟩ := replaceLines_eq_ok_iff.mp kept
    obtain rfl := holds.unique holds'
    have plain := storable.mp characters
    have written := (characters_around_iff inside holds.characters).mpr
      ((characters_ending_iff (Lines.ofText text).lineEnd replacement).mpr plain)
    have again := holds.holding written
    change vault.holding (vault.pathOf document) (Text.utf8 (around text first last _)) = _ at same
    rw [same] at again
    have unchanged := (holds.holding characters).unique again
    exact ⟨plain, (splicedText_eq_around_iff inside replacement).mp unchanged⟩
  · rintro ⟨plain, fits⟩
    rw [replaceLines_eq_ok_iff]
    refine ⟨nameable, calm, text, holds, inside, storable.mpr plain, ?_⟩
    rw [(splicedText_eq_around_iff inside replacement).mpr fits]
    rfl

omit reads inside calm

/-- A document that ends its lines in two ways, and the last one with half of an end. -/
def mixedVault : Vault where
  root := ["vault".text]
  directories := []
  files := [(["vault".text, "d.md".text], Text.utf8 "a\r\nb\nc\r".text)]
  trouble := .none

/-- Only line ends of the document stand in front of its second line, and none behind its last. -/
theorem mixedVault_kept : mixedVault.read "d.md".text = .ok "a\r\nb\nc\r".text ∧
    InRange "a\r\nb\nc\r".text 1 2 ∧ mixedVault.trouble = .none ∧
    mixedVault.replaceLines "d.md".text 1 2 "X\nY".text =
      (mixedVault.holding ["vault".text, "d.md".text] (Text.utf8 "a\r\nX\r\nY".text), .ok ()) := by
  have reads : mixedVault.read "d.md".text = .ok "a\r\nb\nc\r".text := by decide
  have inside : InRange "a\r\nb\nc\r".text 1 2 := by
    unfold InRange
    decide
  have kept := (replaceLines_eq_around_iff reads inside rfl "X\nY".text).2.2.mpr
    ⟨by decide, fitted_eq_self_iff.mp (by decide), fitted_eq_self_iff.mp (by decide)⟩
  exact ⟨reads, inside, rfl, kept⟩

/-- Replacing its first line changes the end of the second and takes the last character. -/
theorem mixedVault_unkept : mixedVault.read "d.md".text = .ok "a\r\nb\nc\r".text ∧
    InRange "a\r\nb\nc\r".text 0 0 ∧ back ∉ "X".text ∧
    around "a\r\nb\nc\r".text 0 0
      ((Lines.ofText "a\r\nb\nc\r".text).lineEnd.ending "X".text) = "X\r\nb\nc\r".text ∧
    mixedVault.replaceLines "d.md".text 0 0 "X".text =
      (mixedVault.holding ["vault".text, "d.md".text] (Text.utf8 "X\r\nb\r\nc".text), .ok ()) ∧
    Text.utf8 "X\r\nb\r\nc".text ≠ Text.utf8 "X\r\nb\nc\r".text := by
  refine ⟨by decide, ?_, by decide, by decide, by decide, by decide⟩
  unfold InRange
  decide

end Vault

end TimeReports

import TimeReports.Document.Lines
import TimeReports.Proofs.Splitting

set_option autoImplicit false

namespace TimeReports

namespace Text

variable {text rest : Text}

abbrev feed : CodePoint := .char '\n'

abbrev back : CodePoint := .char '\r'

/-- Rows one after another, each ended by a line feed. -/
def rowed (rows : List Text) : Text := rows.flatMap (· ++ [feed])

@[simp] theorem rowed_nil : rowed [] = [] := rfl

theorem rowed_cons (row : Text) (rows : List Text) :
    rowed (row :: rows) = row ++ feed :: rowed rows := by
  simp only [rowed, List.flatMap_cons, List.append_assoc, List.singleton_append]

theorem rowed_append (rows others : List Text) :
    rowed (rows ++ others) = rowed rows ++ rowed others := by
  simp only [rowed, List.flatMap_append]

theorem pieces_rowed_append {rows : List Text} (clean : ∀ row ∈ rows, feed ∉ row) (rest : Text) :
    pieces feed (rowed rows ++ rest) = rows ++ pieces feed rest := by
  induction rows with
  | nil => rfl
  | cons row rows ih =>
    rw [rowed_cons, List.append_assoc, List.cons_append, pieces_append_mark,
      pieces_of_not_mem (clean row List.mem_cons_self),
      ih fun other member => clean other (List.mem_cons_of_mem _ member)]
    rfl

theorem pieces_rowed {rows : List Text} {tail : Text} (clean : ∀ row ∈ rows, feed ∉ row)
    (clean' : feed ∉ tail) : pieces feed (rowed rows ++ tail) = rows ++ [tail] := by
  rw [pieces_rowed_append clean, pieces_of_not_mem clean']

theorem join_eq_rowed (rows : List Text) (tail : Text) :
    join [feed] (rows ++ [tail]) = rowed rows ++ tail :=
  join_concat [feed] rows tail

theorem exists_rowed (text : Text) : ∃ rows tail, (∀ row ∈ rows, feed ∉ row) ∧
    feed ∉ tail ∧ text = rowed rows ++ tail := by
  obtain ⟨rows, tail, split⟩ := exists_pieces_eq_append feed text
  refine ⟨rows, tail, fun row member => ?_, ?_, ?_⟩
  · exact not_mem_of_mem_pieces (split ▸ List.mem_append_left _ member)
  · exact not_mem_of_mem_pieces (split ▸ List.mem_append_right _ (List.mem_singleton_self _))
  · rw [← join_eq_rowed, ← split, join_pieces]

theorem occurs_of_not_mem (absent : feed ∉ text) : occurs [back, feed] text = false := by
  induction text with
  | nil => rfl
  | cons c rest ih =>
    rw [List.mem_cons, not_or] at absent
    cases rest with
    | nil => simp [occurs, List.isPrefixOf]
    | cons next rest =>
      have apart : feed ≠ next := fun same => absent.2 (same ▸ List.mem_cons_self)
      rw [occurs, ih absent.2]
      simp [List.isPrefixOf, apart]

theorem occurs_row (absent : feed ∉ text) (rest : Text) :
    occurs [back, feed] (text ++ feed :: rest) =
      (decide (text.getLast? = some back) || occurs [back, feed] rest) := by
  induction text with
  | nil => simp [occurs, List.isPrefixOf]
  | cons c text ih =>
    rw [List.mem_cons, not_or] at absent
    rw [List.cons_append, occurs, ih absent.2]
    cases text with
    | nil =>
      have same : (back == c) = decide (c = back) := by
        rw [Bool.eq_iff_iff, beq_iff_eq, decide_eq_true_eq, eq_comm]
      simp [List.isPrefixOf, same]
    | cons next text =>
      have apart : feed ≠ next := fun same => absent.2 (same ▸ List.mem_cons_self)
      simp [List.isPrefixOf, apart]

theorem occurs_rowed {rows : List Text} {tail : Text}
    (clean : ∀ row ∈ rows, feed ∉ row) (clean' : feed ∉ tail) :
    occurs [back, feed] (rowed rows ++ tail) =
      rows.any fun row => decide (row.getLast? = some back) := by
  induction rows with
  | nil => exact occurs_of_not_mem clean'
  | cons row rows ih =>
    rw [rowed_cons, List.append_assoc, List.cons_append, occurs_row (clean row List.mem_cons_self),
      ih fun other member => clean other (List.mem_cons_of_mem _ member), List.any_cons]

end Text

namespace Document

open Text

variable {text : Text} {items rows : List Text} {tail : Text}

theorem withoutReturn_eq (line : Text) :
    withoutReturn line = if line.getLast? = some back then line.dropLast else line := rfl

@[simp] theorem withoutReturn_append (line : Text) : withoutReturn (line ++ [back]) = line := by
  rw [withoutReturn_eq, List.getLast?_concat, if_pos rfl, List.dropLast_concat]

theorem withoutReturn_of_ne {line : Text} (other : line.getLast? ≠ some back) :
    withoutReturn line = line := by
  rw [withoutReturn_eq, if_neg other]

theorem feed_not_mem_withoutReturn {line : Text} (absent : feed ∉ line) :
    feed ∉ withoutReturn line := by
  rw [withoutReturn_eq]
  split
  · exact fun member => absent (List.dropLast_subset line member)
  · exact absent

/-- Whether some row ends with a carriage return. -/
def returns (rows : List Text) : Bool := rows.any fun row => decide (row.getLast? = some back)

def read (rows : List Text) (items : List Text) (ended : Bool) : Lines :=
  if returns rows then ⟨items.map withoutReturn, .both, ended⟩ else ⟨items, .lineFeed, ended⟩

theorem ofText_eq (text : Text) : Lines.ofText text =
    let ended := text.getLast? == some feed
    let items := pieces feed (if ended then text.dropLast else text)
    if occurs [back, feed] text then ⟨items.map withoutReturn, .both, ended⟩
    else ⟨items, .lineFeed, ended⟩ := by
  unfold Lines.ofText
  cases occurs [back, feed] text <;> rfl

theorem ofText_ended (clean : ∀ row ∈ rows, feed ∉ row) (some_row : rows ≠ []) :
    Lines.ofText (rowed rows) = read rows rows true := by
  have split : rows = rows.dropLast ++ [rows.getLast some_row] :=
    (List.dropLast_concat_getLast some_row).symm
  have joined : rowed rows = join [feed] rows ++ [feed] := by
    rw [split, join_eq_rowed, rowed_append, rowed_cons, rowed_nil, List.append_assoc]
  have clean' : feed ∉ ([] : Text) := List.not_mem_nil
  have occurring := occurs_rowed clean clean'
  rw [List.append_nil] at occurring
  rw [ofText_eq, occurring, joined, List.getLast?_concat]
  simp only [BEq.rfl, ↓reduceIte, List.dropLast_concat, pieces_join clean some_row]
  rfl

theorem ofText_unended (clean : ∀ row ∈ rows, feed ∉ row)
    (clean' : feed ∉ tail) (unended : tail ≠ [] ∨ rows = []) :
    Lines.ofText (rowed rows ++ tail) = read rows (rows ++ [tail]) false := by
  have open' : ((rowed rows ++ tail).getLast? == some feed) = false := by
    rcases unended with some_char | rfl
    · rw [List.getLast?_append, List.getLast?_eq_some_getLast some_char, Option.some_or,
        ← List.getLast?_eq_some_getLast some_char]
      exact beq_false_of_ne fun last => clean' (List.mem_of_getLast? last)
    · rw [rowed_nil, List.nil_append]
      exact beq_false_of_ne fun last => clean' (List.mem_of_getLast? last)
  rw [ofText_eq, open', occurs_rowed clean clean']
  simp only [Bool.false_eq_true, ↓reduceIte, pieces_rowed clean clean']
  rfl

def LineEnd.row : LineEnd → Text → Text
  | .lineFeed, line => line
  | .both, line => line ++ [back]

theorem rowed_map_row (lineEnd : LineEnd) (lines : List Text) :
    rowed (lines.map lineEnd.row) = lines.flatMap (· ++ lineEnd.text) := by
  rw [rowed, List.flatMap_map]
  cases lineEnd with
  | lineFeed => rfl
  | both => simp only [LineEnd.row, LineEnd.text, List.append_assoc, List.cons_append,
      List.nil_append]

theorem join_lineEnd (lineEnd : LineEnd) (init : List Text) (last : Text) :
    join lineEnd.text (init ++ [last]) = rowed (init.map lineEnd.row) ++ last := by
  rw [join_concat, rowed_map_row]

theorem toText_unended (init : List Text) (last : Text) (lineEnd : LineEnd) :
    (Lines.mk (init ++ [last]) lineEnd false).toText = rowed (init.map lineEnd.row) ++ last := by
  simp only [Lines.toText, join_lineEnd, Bool.false_eq_true, ↓reduceIte, List.append_nil]

theorem toText_ended (lineEnd : LineEnd) (some_line : items ≠ []) :
    (Lines.mk items lineEnd true).toText = rowed (items.map lineEnd.row) := by
  have split := List.dropLast_concat_getLast some_line
  rw [← split]
  simp only [Lines.toText, join_lineEnd, ↓reduceIte, List.map_append, rowed_append, List.map_cons,
    List.map_nil, rowed_cons, rowed_nil, List.append_assoc]
  cases lineEnd <;> simp only [LineEnd.text, LineEnd.row, List.append_assoc, List.cons_append,
    List.nil_append]

theorem not_mem_row (lineEnd : LineEnd) (clean : ∀ line ∈ items, feed ∉ line) :
    ∀ row ∈ items.map lineEnd.row, feed ∉ row := by
  intro row member
  obtain ⟨line, inside, rfl⟩ := List.mem_map.mp member
  have absent := clean line inside
  cases lineEnd with
  | lineFeed => exact absent
  | both => simpa [LineEnd.row] using absent

theorem returns_both (some_line : items ≠ []) : returns (items.map LineEnd.both.row) = true := by
  obtain ⟨line, rest, rfl⟩ := List.exists_cons_of_ne_nil some_line
  simp [returns, LineEnd.row]

theorem map_withoutReturn_both (items : List Text) :
    (items.map LineEnd.both.row).map withoutReturn = items := by
  simp only [List.map_map, Function.comp_def, LineEnd.row, withoutReturn_append, List.map_id']

theorem ofText_both_ended (clean : ∀ line ∈ items, feed ∉ line) (some_line : items ≠ []) :
    Lines.ofText (Lines.mk items .both true).toText = ⟨items, .both, true⟩ := by
  rw [toText_ended _ some_line, ofText_ended (not_mem_row _ clean) (by simpa using some_line), read,
    returns_both some_line, map_withoutReturn_both]
  rfl

theorem ofText_both_unended {init : List Text} {last : Text} (clean : ∀ line ∈ init, feed ∉ line)
    (clean' : feed ∉ last) (some_line : init ≠ []) (some_char : last ≠ []) :
    Lines.ofText (Lines.mk (init ++ [last]) .both false).toText =
      ⟨init ++ [withoutReturn last], .both, false⟩ := by
  rw [toText_unended, ofText_unended (not_mem_row _ clean) clean' (Or.inl some_char), read,
    returns_both some_line, List.map_append, map_withoutReturn_both]
  rfl

theorem ofText_lineFeed_ended (clean : ∀ line ∈ items, feed ∉ line) (some_line : items ≠ []) :
    Lines.ofText (Lines.mk items .lineFeed true).toText = read items items true := by
  have same : items.map LineEnd.lineFeed.row = items := List.map_id' items
  rw [toText_ended _ some_line, same, ofText_ended clean some_line]

theorem ofText_lineFeed_unended {init : List Text} {last : Text}
    (clean : ∀ line ∈ init, feed ∉ line)
    (clean' : feed ∉ last) (unended : last ≠ [] ∨ init = []) :
    Lines.ofText (Lines.mk (init ++ [last]) .lineFeed false).toText =
      read init (init ++ [last]) false := by
  have same : init.map LineEnd.lineFeed.row = init := List.map_id' init
  rw [toText_unended, same, ofText_unended clean clean' unended]

theorem returns_eq_false (clean : ∀ row ∈ rows, back ∉ row) : returns rows = false := by
  refine List.any_eq_false.mpr fun row member last => clean row member ?_
  exact List.mem_of_getLast? (of_decide_eq_true last)

/-- Lines without a character that ends lines, which are written so that they can be read again. -/
structure Lines.Sound (lines : Lines) : Prop where
  some_line : lines.items ≠ []
  feeds : ∀ line ∈ lines.items, feed ∉ line
  backs : ∀ line ∈ lines.items, back ∉ line
  /-- Only a single line may be empty and not ended. -/
  unended : lines.ended = false → lines.items.length = 1 ∨ lines.items.getLast? ≠ some []
  /-- Somewhere the two characters that end a line are written. -/
  both : lines.lineEnd = .both → lines.ended = true ∨ 2 ≤ lines.items.length

/-- Sound lines are read back from their text. -/
theorem ofText_toText {lines : Lines} (sound : lines.Sound) :
    Lines.ofText lines.toText = lines := by
  obtain ⟨items, lineEnd, ended⟩ := lines
  obtain ⟨some_line, feeds, backs, unended, both⟩ := sound
  dsimp only at some_line feeds backs unended both
  cases ended with
  | true =>
    cases lineEnd with
    | lineFeed =>
      rw [ofText_lineFeed_ended feeds some_line, read, returns_eq_false backs]
      rfl
    | both => exact ofText_both_ended feeds some_line
  | false =>
    obtain ⟨init, last, rfl⟩ : ∃ init last, items = init ++ [last] :=
      ⟨_, _, (List.dropLast_concat_getLast some_line).symm⟩
    have feeds' := fun line member => feeds line (List.mem_append_left _ member)
    have backs' := fun line member => backs line (List.mem_append_left _ member)
    have feed' := feeds last (by simp)
    have back' := backs last (by simp)
    have open' : last ≠ [] ∨ init = [] := by
      rcases unended rfl with single | nonempty
      · rw [List.length_append, List.length_singleton] at single
        exact Or.inr (List.length_eq_zero_iff.mp (by omega))
      · refine Or.inl fun empty => nonempty ?_
        rw [List.getLast?_concat, empty]
    cases lineEnd with
    | lineFeed =>
      rw [ofText_lineFeed_unended feeds' feed' open', read, returns_eq_false backs']
      rfl
    | both =>
      have some_init : init ≠ [] := by
        rintro rfl
        have := both rfl
        simp at this
      rw [ofText_both_unended feeds' feed' some_init (open'.resolve_right some_init),
        withoutReturn_of_ne fun last' => back' (List.mem_of_getLast? last')]

/-- Whether each of the two characters that end a line stands only with the other. -/
def Paired (text : Text) : Prop :=
  (∀ before behind, text = before ++ back :: behind → behind.head? = some feed) ∧
    ∀ before behind, text = before ++ feed :: behind → before.getLast? = some back

/-- Whether all lines of a text are ended alike. -/
def Uniform (text : Text) : Prop := back ∉ text ∨ Paired text

theorem Paired.back_not_mem (paired : Paired text) (clean : feed ∉ text) : back ∉ text := by
  intro member
  obtain ⟨before, behind, rfl⟩ := List.append_of_mem member
  have next := paired.1 before behind rfl
  exact clean (by simp [List.mem_of_head? next])

theorem Paired.behind {row rest : Text} (paired : Paired (row ++ feed :: rest)) : Paired rest := by
  constructor
  · rintro before behind rfl
    exact paired.1 (row ++ feed :: before) behind (by simp)
  · rintro before behind rfl
    have last := paired.2 (row ++ feed :: before) behind (by simp)
    cases before with
    | nil => simp at last
    | cons c before => simpa [List.getLast?_cons] using last

theorem Paired.row {row rest : Text} (paired : Paired (row ++ feed :: rest)) (clean : feed ∉ row) :
    ∃ line, row = LineEnd.both.row line ∧ back ∉ line := by
  have last := paired.2 row rest rfl
  obtain ⟨line, rfl⟩ := List.getLast?_eq_some_iff.mp last
  refine ⟨line, rfl, fun member => ?_⟩
  obtain ⟨before, behind, rfl⟩ := List.append_of_mem member
  have next := paired.1 before (behind ++ back :: feed :: rest) (by simp)
  cases behind with
  | nil => simp at next
  | cons c behind =>
    rw [List.cons_append, List.head?_cons, Option.some.injEq] at next
    exact clean (by simp [next])

theorem Paired.lines (paired : Paired (rowed rows ++ tail)) (clean : ∀ row ∈ rows, feed ∉ row)
    (clean' : feed ∉ tail) : back ∉ tail ∧
      ∃ lines : List Text, rows = lines.map LineEnd.both.row ∧ ∀ line ∈ lines, back ∉ line := by
  induction rows with
  | nil => exact ⟨paired.back_not_mem clean', [], rfl, by simp⟩
  | cons row rows ih =>
    rw [rowed_cons, List.append_assoc, List.cons_append] at paired
    obtain ⟨line, rfl, absent⟩ := paired.row (clean row List.mem_cons_self)
    obtain ⟨absent', lines, rfl, backs⟩ :=
      ih paired.behind fun other member => clean other (List.mem_cons_of_mem _ member)
    exact ⟨absent', line :: lines, rfl, by simpa using ⟨absent, backs⟩⟩

/-- Lines with an end between them are those of a document. -/
theorem exists_sound {lineEnd : LineEnd} {init : List Text} {last : Text}
    (clean : ∀ line ∈ init ++ [last], feed ∉ line) (clean' : ∀ line ∈ init ++ [last], back ∉ line)
    (both : lineEnd = .both → init ≠ []) :
    ∃ lines : Lines, lines.Sound ∧ lines.toText = rowed (init.map lineEnd.row) ++ last := by
  by_cases open' : last ≠ [] ∨ init = []
  · refine ⟨⟨init ++ [last], lineEnd, false⟩, ⟨by simp, clean, clean', fun _ => ?_, fun is => ?_⟩,
      toText_unended init last lineEnd⟩
    · rcases open' with some_char | rfl
      · exact Or.inr (by simpa using some_char)
      · exact Or.inl rfl
    · have := List.length_pos_iff.mpr (both is)
      exact Or.inr (by simp only [List.length_append, List.length_singleton]; omega)
  · obtain ⟨rfl, some_line⟩ : last = [] ∧ init ≠ [] := by simpa using open'
    refine ⟨⟨init, lineEnd, true⟩, ⟨some_line, fun line member => ?_, fun line member => ?_,
      fun is => (nomatch is), fun _ => Or.inl rfl⟩, ?_⟩
    · exact clean line (List.mem_append_left _ member)
    · exact clean' line (List.mem_append_left _ member)
    · rw [toText_ended lineEnd some_line, List.append_nil]

/-- A text whose lines are ended alike is that of sound lines. -/
theorem Uniform.exists_sound (uniform : Uniform text) :
    ∃ lines : Lines, lines.Sound ∧ lines.toText = text := by
  obtain ⟨rows, tail, clean, clean', rfl⟩ := exists_rowed text
  have feeds : ∀ line ∈ rows ++ [tail], feed ∉ line := by
    simpa [or_imp, forall_and] using ⟨clean, clean'⟩
  have plain (backs : ∀ line ∈ rows ++ [tail], back ∉ line) :
      ∃ lines : Lines, lines.Sound ∧ lines.toText = rowed rows ++ tail := by
    obtain ⟨lines, sound, is⟩ := Document.exists_sound feeds backs
      (show LineEnd.lineFeed = .both → rows ≠ [] from fun is => nomatch is)
    have same : rows.map LineEnd.lineFeed.row = rows := List.map_id' rows
    exact ⟨lines, sound, is.trans (by rw [same])⟩
  rcases uniform with absent | paired
  · refine plain fun line member inside => absent ?_
    exact mem_of_mem_pieces ((pieces_rowed clean clean').symm ▸ member) inside
  · obtain ⟨absent', lines, rfl, backs⟩ := paired.lines clean clean'
    by_cases single : lines = []
    · subst single
      exact plain (by simpa using absent')
    · have lineFeeds : ∀ line ∈ lines, feed ∉ line := fun line member inside =>
        clean _ (List.mem_map_of_mem member) (List.mem_append_left _ inside)
      refine Document.exists_sound ?_ ?_ fun _ => single
      · simpa [or_imp, forall_and] using ⟨lineFeeds, clean'⟩
      · simpa [or_imp, forall_and] using ⟨backs, absent'⟩

end Document

end TimeReports

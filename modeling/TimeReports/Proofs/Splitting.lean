import TimeReports.Text.Basic

set_option autoImplicit false

namespace TimeReports.Text

variable {mark c : CodePoint} {text first last : Text}

theorem pieces_eq_splitOn (mark : CodePoint) (text : Text) :
    pieces mark text = text.splitOn mark := by
  induction text with
  | nil => rfl
  | cons c rest ih =>
    rw [List.splitOn_cons_eq_if_modifyHead, ← ih, pieces]
    by_cases same : c = mark
    · simp only [same, ↓reduceIte, BEq.rfl]
    · simp only [same, ↓reduceIte, beq_iff_eq]
      have some_piece : pieces mark rest ≠ [] := ih ▸ List.splitOn_ne_nil mark rest
      cases split_eq : pieces mark rest with
      | nil => exact absurd split_eq some_piece
      | cons piece others => rfl

theorem join_eq_intercalate (separator : Text) (texts : List Text) :
    join separator texts = separator.intercalate texts := by
  induction texts with
  | nil => rfl
  | cons text rest ih =>
    cases rest with
    | nil => simp [join]
    | cons next rest => rw [List.intercalate_cons_cons, ← ih, join]; simp

theorem pieces_ne_nil (mark : CodePoint) (text : Text) : pieces mark text ≠ [] :=
  pieces_eq_splitOn mark text ▸ List.splitOn_ne_nil mark text

theorem pieces_of_not_mem (absent : mark ∉ text) : pieces mark text = [text] := by
  rw [pieces_eq_splitOn, List.splitOn_eq_singleton absent]

theorem pieces_append_mark (mark : CodePoint) (first last : Text) :
    pieces mark (first ++ mark :: last) = pieces mark first ++ pieces mark last := by
  simp only [pieces_eq_splitOn, List.splitOn_append_cons_self]

@[simp] theorem join_pieces (mark : CodePoint) (text : Text) :
    join [mark] (pieces mark text) = text := by
  rw [join_eq_intercalate, pieces_eq_splitOn, List.intercalate_splitOn]

theorem pieces_join {texts : List Text} (absent : ∀ text ∈ texts, mark ∉ text)
    (some_text : texts ≠ []) : pieces mark (join [mark] texts) = texts := by
  rw [join_eq_intercalate, pieces_eq_splitOn, List.splitOn_intercalate mark absent some_text]

theorem join_cons_of_ne_nil (separator text : Text) {rest : List Text} (some_text : rest ≠ []) :
    join separator (text :: rest) = text ++ separator ++ join separator rest := by
  rw [join_eq_intercalate, List.intercalate_cons_of_ne_nil some_text, join_eq_intercalate]

/-- All texts but the last one with the separator behind them, and the last one. -/
theorem join_concat (separator : Text) (init : List Text) (last : Text) :
    join separator (init ++ [last]) = init.flatMap (· ++ separator) ++ last := by
  induction init with
  | nil => rfl
  | cons text init ih =>
    rw [List.cons_append, join_cons_of_ne_nil _ _ (show init ++ [last] ≠ [] by simp), ih,
      List.flatMap_cons, ← List.append_assoc]

theorem join_append (separator : Text) {front behind : List Text} (some_front : front ≠ [])
    (some_behind : behind ≠ []) : join separator (front ++ behind) =
      join separator front ++ separator ++ join separator behind := by
  rw [← List.dropLast_concat_getLast some_front, ← List.dropLast_concat_getLast some_behind,
    ← List.append_assoc, join_concat, join_concat, join_concat]
  simp only [List.flatMap_append, List.flatMap_cons, List.flatMap_nil, List.append_nil,
    List.append_assoc]

theorem forall_mem_join (good : CodePoint → Prop) {separator : Text}
    (separates : ∀ c ∈ separator, good c) (texts : List Text) :
    (∀ c ∈ join separator texts, good c) ↔ ∀ text ∈ texts, ∀ c ∈ text, good c := by
  induction texts with
  | nil => simp [join]
  | cons text rest ih =>
    cases rest with
    | nil => simp [join]
    | cons next rest =>
      rw [join_cons_of_ne_nil _ _ (List.cons_ne_nil _ _), List.forall_mem_cons, ← ih]
      simp only [List.mem_append, or_imp, forall_and, and_iff_left separates]

theorem pieces_cons_of_ne (other : c ≠ mark) (text : Text) :
    pieces mark (c :: text) = (pieces mark text).modifyHead (c :: ·) := by
  simp only [pieces_eq_splitOn, List.splitOn_cons_eq_if_modifyHead, beq_iff_eq, other, ↓reduceIte]

theorem pieces_cons_mark (mark : CodePoint) (text : Text) :
    pieces mark (mark :: text) = [] :: pieces mark text := by
  simp only [pieces, ↓reduceIte]

theorem exists_pieces_eq_append (mark : CodePoint) (text : Text) :
    ∃ init left, pieces mark text = init ++ [left] :=
  ⟨_, _, (List.dropLast_concat_getLast (pieces_ne_nil mark text)).symm⟩

theorem exists_pieces_eq_cons (mark : CodePoint) (text : Text) :
    ∃ right rest, pieces mark text = right :: rest :=
  List.exists_cons_of_ne_nil (pieces_ne_nil mark text)

theorem not_mem_of_mem_pieces {piece : Text} (member : piece ∈ pieces mark text) :
    mark ∉ piece := by
  induction text generalizing piece with
  | nil => simp [pieces] at member; simp [member]
  | cons c text ih =>
    by_cases same : c = mark
    · subst same
      rw [pieces_cons_mark, List.mem_cons] at member
      rcases member with rfl | member
      · exact List.not_mem_nil
      · exact ih member
    · rw [pieces_cons_of_ne same] at member
      obtain ⟨right, rest, split_eq⟩ := exists_pieces_eq_cons mark text
      rw [split_eq, List.modifyHead_cons, List.mem_cons] at member
      rcases member with rfl | member
      · have absent := ih (split_eq ▸ List.mem_cons_self)
        simp [absent, Ne.symm same]
      · exact ih (split_eq ▸ List.mem_cons_of_mem _ member)

theorem join_append_join (separator left right : Text) (init rest : List Text) :
    join separator (init ++ [left]) ++ join separator (right :: rest) =
      join separator (init ++ (left ++ right) :: rest) := by
  induction init with
  | nil =>
    simp only [List.nil_append, join_eq_intercalate, List.intercalate_singleton]
    cases rest with
    | nil => simp only [List.intercalate_singleton]
    | cons next rest => simp only [List.intercalate_cons_cons, List.append_assoc]
  | cons text init ih =>
    simp only [List.cons_append]
    rw [join_cons_of_ne_nil _ _ (show init ++ [left] ≠ [] by simp),
      join_cons_of_ne_nil _ _ (show init ++ (left ++ right) :: rest ≠ [] by simp),
      List.append_assoc, ih]

/-- At a seam the last piece in front and the first piece behind grow together. -/
theorem pieces_append {init rest : List Text} {left right : Text}
    (front : pieces mark first = init ++ [left]) (behind : pieces mark last = right :: rest) :
    pieces mark (first ++ last) = init ++ (left ++ right) :: rest := by
  have absent (piece : Text) (member : piece ∈ init ++ (left ++ right) :: rest) :
      mark ∉ piece := by
    have before (piece : Text) (member : piece ∈ init ++ [left]) : mark ∉ piece :=
      not_mem_of_mem_pieces (front ▸ member)
    have after (piece : Text) (member : piece ∈ right :: rest) : mark ∉ piece :=
      not_mem_of_mem_pieces (behind ▸ member)
    rw [List.mem_append, List.mem_cons] at member
    rcases member with member | rfl | member
    · exact before piece (by simp [member])
    · simp [before left (by simp), after right (by simp)]
    · exact after piece (by simp [member])
  rw [← join_pieces mark first, ← join_pieces mark last, front, behind, join_append_join,
    pieces_join absent (by simp)]

theorem mem_of_mem_pieces {piece : Text} (member : piece ∈ pieces mark text) (inside : c ∈ piece) :
    c ∈ text := by
  rw [← join_pieces mark text, join_eq_intercalate]
  generalize pieces mark text = all at member
  induction all with
  | nil => cases member
  | cons other rest ih =>
    cases rest with
    | nil =>
      rw [List.mem_singleton] at member
      simpa [← member] using inside
    | cons next rest =>
      rw [List.intercalate_cons_cons, List.mem_append, List.mem_append]
      rcases List.mem_cons.mp member with rfl | member
      · exact Or.inl (Or.inl inside)
      · exact Or.inr (ih member)

end TimeReports.Text

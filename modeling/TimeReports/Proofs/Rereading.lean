import TimeReports.Proofs.Fences
import TimeReports.Vault.Basic

set_option autoImplicit false

namespace TimeReports.Document

open Text

variable {language text last last' : Text} {init items items' above middle below : List Text}

theorem closing?_concat_congr {line : Text} (same : SameFences language last last') :
    closing? language line (init ++ [last]) = closing? language line (init ++ [last']) := by
  unfold closing?
  cases opens : openingFence? language line with
  | none => rfl
  | some fence =>
    have closing := same.closes fence (isFence_of_openingFence? opens)
    rw [Option.bind_some, Option.bind_some, List.findIdx?_append, List.findIdx?_append,
      List.findIdx?_singleton, List.findIdx?_singleton, closing]

theorem closing?_concat_inert {line : Text} (inert : Inert language last) :
    closing? language line (init ++ [last]) = closing? language line init := by
  unfold closing?
  cases opens : openingFence? language line with
  | none => rfl
  | some fence =>
    rw [Option.bind_some, Option.bind_some, List.findIdx?_append, List.findIdx?_singleton,
      inert.closes fence (isFence_of_openingFence? opens)]
    cases List.findIdx? (closes fence) init <;> rfl

theorem blocksFrom_short {lines : List Text} (short : lines.length ≤ 1) (number inside : Nat) :
    blocksFrom language number inside lines = [] := by
  match lines, inside with
  | [], _ => exact blocksFrom_nil language number _
  | [line], inside + 1 => rw [blocksFrom_succ, blocksFrom_nil]
  | [line], 0 =>
    have unclosed : closing? language line [] = none := by simp [closing?_eq_none_iff]
    rw [blocksFrom_of_unclosed _ unclosed, blocksFrom_nil]

/-- The last line counts only by what it closes. -/
theorem blocksFrom_congr_ending {ending ending' : List Text} (short : ending.length ≤ 1)
    (short' : ending'.length ≤ 1)
    (alike : ∀ line init, closing? language line (init ++ ending) =
      closing? language line (init ++ ending')) (init : List Text) (number inside : Nat) :
    blocksFrom language number inside (init ++ ending) =
      blocksFrom language number inside (init ++ ending') := by
  induction init generalizing number inside with
  | nil => rw [List.nil_append, List.nil_append, blocksFrom_short short, blocksFrom_short short']
  | cons line init ih =>
    rw [List.cons_append, List.cons_append]
    cases inside with
    | succ inside => rw [blocksFrom_succ, blocksFrom_succ, ih]
    | zero =>
      have closing := alike line init
      cases decided : closing? language line (init ++ ending) with
      | none =>
        rw [blocksFrom_of_unclosed _ decided, blocksFrom_of_unclosed _ (closing ▸ decided), ih]
      | some length =>
        have small : length ≤ init.length := by
          have := closing?_lt decided
          rw [List.length_append] at this
          omega
        rw [blocksFrom_of_closed _ decided, blocksFrom_of_closed _ (closing ▸ decided), ih, blockAt,
          blockAt, List.take_append_of_le_length small, List.take_append_of_le_length small]

/-- Whether lines hold the same blocks and close the same fences as others. -/
structure SameBlocks (language : Text) (lines others : List Text) : Prop where
  blocks : ∀ number, blocksFrom language number 0 lines = blocksFrom language number 0 others
  closes : CloseAlike lines others

theorem SameBlocks.refl (language : Text) (lines : List Text) : SameBlocks language lines lines :=
  ⟨fun _ => rfl, CloseAlike.refl lines⟩

theorem sameBlocks_concat (same : SameFences language last last') (init : List Text) :
    SameBlocks language (init ++ [last]) (init ++ [last']) where
  blocks := fun number =>
    blocksFrom_congr_ending (show [last].length ≤ 1 from Nat.le_refl 1)
      (show [last'].length ≤ 1 from Nat.le_refl 1) (fun _ _ => closing?_concat_congr same) init
      number 0
  closes := (CloseAlike.refl init).append (closeAlike_of_forall₂ (.cons same .nil))

theorem sameBlocks_dropLast (inert : Inert language last) (init : List Text) :
    SameBlocks language init (init ++ [last]) where
  blocks := fun number => by
    have alike (line : Text) (init : List Text) : closing? language line (init ++ [last]) =
        closing? language line (init ++ []) := by
      rw [closing?_concat_inert inert, List.append_nil]
    have whole := blocksFrom_congr_ending (show [last].length ≤ 1 from Nat.le_refl 1)
      (show ([] : List Text).length ≤ 1 from Nat.zero_le 1) alike init number 0
    rw [whole, List.append_nil]
  closes := by
    have inert' : ∀ line ∈ [last], Inert language line := by simpa using inert
    have alike : CloseAlike ([last] ++ []) [] := closeAlike_of_inert inert'
    have whole := (CloseAlike.refl init).append alike
    rw [List.append_nil, List.append_nil] at whole
    exact fun fence isFence => (whole fence isFence).symm

theorem inert_nil (language : Text) : Inert language [] :=
  inert_of_start fun _ _ visible => nomatch visible

/-- What the lines of a document may become when it is written and read again. -/
inductive Reread (lineEnd : LineEnd) (items : List Text) : List Text → Prop
  | same : Reread lineEnd items items
  /-- A carriage return before a line feed makes one at the end of every line a part of its end. -/
  | stripped (single : lineEnd = .lineFeed) : Reread lineEnd items (items.map withoutReturn)
  /-- One at the end of the last line is taken for a part of its end. -/
  | last (init : List Text) (last : Text) (split : items = init ++ [last]) :
    Reread lineEnd items (init ++ [withoutReturn last])
  /-- A last line with nothing in it is lost. -/
  | dropped (init : List Text) (split : items = init ++ [[]]) : Reread lineEnd items init

theorem reread_read (rows items : List Text) (ended : Bool) :
    Reread .lineFeed items (read rows items ended).items := by
  unfold read
  split
  · exact .stripped rfl
  · exact .same

theorem reread_ofText {lines : Lines} (some_line : lines.items ≠ [])
    (feeds : ∀ line ∈ lines.items, feed ∉ line)
    (unended : lines.lineEnd = .lineFeed → lines.ended = false →
      lines.items.length = 1 ∨ lines.items.getLast? ≠ some [])
    (several : 2 ≤ lines.items.length) :
    Reread lines.lineEnd lines.items (Lines.ofText lines.toText).items := by
  obtain ⟨items, lineEnd, ended⟩ := lines
  dsimp only at some_line feeds unended several ⊢
  cases ended with
  | true =>
    cases lineEnd with
    | lineFeed =>
      rw [ofText_lineFeed_ended feeds some_line]
      exact reread_read _ _ _
    | both =>
      rw [ofText_both_ended feeds some_line]
      exact .same
  | false =>
    obtain ⟨init, last, rfl⟩ : ∃ init last, items = init ++ [last] :=
      ⟨_, _, (List.dropLast_concat_getLast some_line).symm⟩
    have feeds' := fun line member => feeds line (List.mem_append_left _ member)
    have feed' := feeds last (by simp)
    have some_init : init ≠ [] := by
      rintro rfl
      simp at several
    cases lineEnd with
    | lineFeed =>
      have some_char : last ≠ [] := by
        rcases unended rfl rfl with single | nonempty
        · rw [single] at several
          omega
        · rintro rfl
          exact nonempty List.getLast?_concat
      rw [ofText_lineFeed_unended feeds' feed' (Or.inl some_char)]
      exact reread_read _ _ _
    | both =>
      by_cases empty : last = []
      · subst empty
        have same : (Lines.mk (init ++ [[]]) .both false).toText =
            (Lines.mk init .both true).toText := by
          rw [toText_unended, toText_ended _ some_init, List.append_nil]
        rw [same, ofText_both_ended feeds' some_init]
        exact .dropped init rfl
      · rw [ofText_both_unended feeds' feed' some_init empty]
        exact .last init last rfl

end TimeReports.Document

import TimeReports.Proofs.Numerals
import TimeReports.Proofs.Percentages

set_option autoImplicit false

namespace TimeReports

namespace Number

open Text Report

variable {x : Float} {n : ℕ}

/-- The numbers from zero to a hundred as they compare. -/
theorem within_of_le (nonneg : 0 ≤ x) (le : x ≤ 100) : Within 100 x := by
  obtain ⟨amount, amounts⟩ := exists_amounts_of_nonneg nonneg
  have hundred : Amounts (100 : Float).toModel.unpack ((100 : ℕ) : ℚ) :=
    .finite holds_hundred (natCast_lt (by norm_num))
  rw [le_iff_of_amounts amounts hundred] at le
  obtain ⟨v, rfl⟩ := WithTop.ne_top_iff_exists.mp (ne_top_of_le_ne_top WithTop.coe_ne_top le)
  exact ⟨v, amounts.holds, by exact_mod_cast le⟩

theorem length_withPoint_le (le : n ≤ 1000) : (withPoint 1 n).length ≤ 5 := by
  have whole : (Nat.toDigits 10 (n / tenTo 1)).length ≤ 3 := by
    refine Nat.toDigits_length 10 _ 3 (by norm_num) ?_
    rw [show tenTo 1 = 10 from rfl]
    omega
  simp only [withPoint, one_ne_zero, ↓reduceIte, List.length_append, List.length_cons, natDigits,
    List.length_map, paddedDigits, List.nil_append, List.length_nil]
  omega

/-- A percentage with one place has room in five characters. -/
theorem length_fixed_le (within : Within 100 x) : (fixed 1 x).length ≤ 5 := by
  obtain ⟨v, holds, le⟩ := within
  obtain ⟨negative, numerator, denominator, read, positive, rfl, unsigned⟩ := shape_of_holds holds
  rw [div_le_iff₀ (by exact_mod_cast positive)] at le
  replace le : numerator ≤ 100 * denominator := by exact_mod_cast le
  rw [fixed, read]
  dsimp only
  cases negative with
  | false =>
    refine length_withPoint_le (Display.roundNearest_le positive ?_)
    rw [show tenTo 1 = 10 from rfl]
    omega
  | true =>
    -- a minus takes one character more, but stands in front of zero only
    obtain rfl := unsigned rfl
    have zero : roundNearest (0 * tenTo 1) denominator = 0 :=
      Nat.le_zero.mp (Display.roundNearest_le positive (by simp))
    rw [zero]
    decide

theorem fixed_ne_nil (x : Float) : fixed 2 x ≠ [] := by
  have signed_ne_nil {negative : Bool} {text : Text} (some_char : text ≠ []) :
      signed negative text ≠ [] := by
    cases negative with
    | false => exact some_char
    | true => exact List.cons_ne_nil _ _
  unfold fixed
  split
  · decide
  · exact signed_ne_nil (by decide)
  · exact signed_ne_nil (by simp [withPoint])

end Number

namespace Display

open Text Number Report

variable {bar : Segment} {width : ℕ}

theorem endsVisibly_of_numeric {cell : Text} (numeric : Numeric cell) (some_char : cell ≠ [])
    (front : List Text) : EndsVisibly (front ++ [cell]) := by
  have visible : ∀ c ∈ numericChars, isBlank c = false := by decide
  exact ⟨cell, by simp, cell.getLast some_char, List.getLast?_eq_some_getLast some_char,
    visible _ (numeric _ (List.getLast_mem some_char))⟩

theorem endsVisibly_cells (row : Row) : EndsVisibly (cells row) :=
  endsVisibly_of_numeric (numeric_fixed 2 row.hours) (fixed_ne_nil row.hours)
    [row.project, row.task, row.date.iso]

/-- Whether a line shows a bar in columns: its label, up to forty marks for its length, and its
percentage. -/
def ShowsBar (width : ℕ) (bar : Segment) (line : Text) : Prop :=
  ∃ length ≤ 40, barLength bar.percentage = .ok length ∧ ShowsCells [width, 40, 6]
    [bar.label, List.replicate length '#', fixed 1 bar.percentage ++ "%".text] line

theorem exists_showsBar (narrow : bar.label.length ≤ width) (within : Within 100 bar.percentage) :
    ∃ line, plainSegment width bar = .ok line ∧ ShowsBar width bar line := by
  obtain ⟨length, bound, counted⟩ := barLength_of_within within
  have room := length_fixed_le within
  have padded := Padded.cons (width - bar.label.length) bar.label
    (.cons (40 - length) (List.replicate length '#')
      (.last (5 - (fixed 1 bar.percentage).length) (fixed 1 bar.percentage ++ "%".text)))
  have spaces : "  ".text = gap := rfl
  have percent : "%".text.length = 1 := rfl
  refine ⟨_, ?_, length, bound, counted, _, padded, inColumns_join ?_⟩
  · rw [plainSegment, counted]
    simp only [spaces, padRight, padLeft, barWidth, join, List.length_replicate, List.append_assoc]
    rfl
  · simp only [List.map_cons, List.map_nil, List.length_append, List.length_replicate, percent]
    grind

theorem plainNodes_append (before behind : List Node) :
    plainNodes (before ++ behind) = (do
      let above ← plainNodes before
      let below ← plainNodes behind
      .ok (above ++ below)) := by
  induction before with
  | nil =>
    rw [List.nil_append]
    cases plainNodes behind <;> rfl
  | cons node rest ih =>
    rw [List.cons_append, plainNodes, plainNodes, ih]
    cases plainNode node with
    | error fault => rfl
    | ok lines =>
      cases plainNodes rest with
      | error fault => rfl
      | ok others =>
        cases plainNodes behind with
        | error fault => rfl
        | ok below => exact congrArg Except.ok (List.append_assoc lines others below).symm

/-- The lines of a node stand together in the plain text of a display. -/
theorem plain_of_node {node : Node} {lines above below : List Text} {before behind : List Node}
    (shown : plainNode node = .ok lines) (top : plainNodes before = .ok above)
    (bottom : plainNodes behind = .ok below) (style : Text) :
    (Tree.mk (before ++ node :: behind) style).plain =
      .ok (join ['\n'] (above ++ lines ++ below)) := by
  rw [Tree.plain, plainNodes_append, top, plainNodes, shown, bottom, List.append_assoc]
  rfl

theorem le_foldl_max {widths : List ℕ} {start n : ℕ} (le : n ≤ start ∨ n ∈ widths) :
    n ≤ widths.foldl max start := by
  induction widths generalizing start with
  | nil => simpa using le
  | cons width rest ih =>
    refine ih ?_
    rw [le_max_iff]
    rcases le with le | member
    · exact .inl (.inl le)
    · exact (List.mem_cons.mp member).imp (fun same => .inr same.le) id

/-- Plain text is aligned. The header, the rule and all rows of a list are in the same columns,
whatever their names. So are the lines of a chart in any display, if its percentages are not below 0
and not above 100; then no bar has more than forty marks. -/
theorem plain_aligned :
    (∀ rows : List Row, ∃ widths header rule lines,
      plainTable listHeaders (rows.map cells) = .ok (header :: rule :: lines) ∧
      ShowsCells widths listHeaders header ∧ InColumns widths (dashes widths) rule ∧
      List.Forall₂ (ShowsCells widths) (rows.map cells) lines) ∧
    ∀ bars : List Segment, (∀ bar ∈ bars, 0 ≤ bar.percentage ∧ bar.percentage ≤ 100) →
      ∃ width lines, plainNode (.barChart bars) = .ok lines ∧
        List.Forall₂ (ShowsBar width) bars lines ∧
        ∀ before behind above below style, plainNodes before = .ok above →
          plainNodes behind = .ok below →
          (Tree.mk (before ++ .barChart bars :: behind) style).plain =
            .ok (join ['\n'] (above ++ lines ++ below)) := by
  constructor
  · intro rows
    have headed : EndsVisibly listHeaders := ⟨"Hours".text, by decide, 's', by decide, by decide⟩
    refine exists_inColumns ?_ (List.forall_mem_cons.mpr ⟨headed, ?_⟩)
    · intro _ member
      obtain ⟨row, -, rfl⟩ := List.mem_map.mp member
      rfl
    · intro _ member
      obtain ⟨row, -, rfl⟩ := List.mem_map.mp member
      exact endsVisibly_cells row
  · intro bars percentages
    obtain ⟨lines, written, shown⟩ := exists_mapM_forall₂ fun bar member =>
      exists_showsBar (le_foldl_max (.inr (List.mem_map_of_mem (f := (·.label.length)) member)))
        (within_of_le (percentages bar member).1 (percentages bar member).2)
    have charted : plainNode (.barChart bars) = .ok lines := written
    exact ⟨_, lines, charted, shown, fun _ _ _ _ style top bottom =>
      plain_of_node charted top bottom style⟩

/-- Bars of the whole, of a part, and of nothing under a minus. -/
def someBars : List Segment :=
  [⟨"Website".text, 8, 100, color 0, []⟩, ⟨"A # B".text, 1, 12.5, color 1, []⟩,
    ⟨[], 0, -0, color 2, []⟩]

theorem someBars_aligned :
    (∀ bar ∈ someBars, 0 ≤ bar.percentage ∧ bar.percentage ≤ 100) ∧
      ∃ width lines, plainNode (.barChart someBars) = .ok lines ∧
        List.Forall₂ (ShowsBar width) someBars lines := by
  have percentages : ∀ bar ∈ someBars, 0 ≤ bar.percentage ∧ bar.percentage ≤ 100 := by decide
  obtain ⟨width, lines, written, shown, -⟩ := plain_aligned.2 someBars percentages
  exact ⟨percentages, width, lines, written, shown⟩

end Display

end TimeReports

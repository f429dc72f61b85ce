import Mathlib.Data.List.Infix
import TimeReports.Text.Basic

set_option autoImplicit false

namespace TimeReports.Text

variable {pattern replacement text front rest : Text} {mark : CodePoint} {pieces : List Text}

theorem occurs_iff : occurs pattern text = true ↔ pattern <:+: text := by
  induction text with
  | nil => rw [occurs, List.isEmpty_iff, List.infix_nil]
  | cons c rest ih =>
    rw [occurs, Bool.or_eq_true, ih, List.isPrefixOf_iff_prefix, List.infix_cons_iff]

theorem occurs_eq_false_iff : occurs pattern text = false ↔ ¬ pattern <:+: text := by
  rw [← occurs_iff, Bool.not_eq_true]

/-- Whether no end of a pattern but the whole of it is also a beginning of it. -/
def Unbordered (pattern : Text) : Prop :=
  ∀ count < pattern.length, 0 < count → ¬ pattern.drop count <+: pattern

instance (pattern : Text) : Decidable (Unbordered pattern) :=
  inferInstanceAs (Decidable (∀ count < pattern.length, 0 < count → ¬ _ <+: _))

/-- In front of an occurrence of the pattern no other one starts that reaches into it. -/
theorem Unbordered.prefix_front (unbordered : Unbordered pattern) (nonempty : front ≠ [])
    (begins : pattern <+: front ++ (pattern ++ rest)) : pattern <+: front := by
  by_cases fits : pattern.length ≤ front.length
  · exact List.prefix_of_prefix_length_le begins (List.prefix_append front _) fits
  · have overlap : pattern.drop front.length <+: pattern ++ rest := by
      have behind := begins.drop front.length
      rwa [List.drop_left] at behind
    have border : pattern.drop front.length <+: pattern :=
      List.prefix_of_prefix_length_le overlap (List.prefix_append pattern rest)
        (List.length_drop ▸ Nat.sub_le _ _)
    exact absurd border (unbordered _ (Nat.lt_of_not_le fits) (List.length_pos_iff.mpr nonempty))

theorem substituteFrom_eq_drop (pattern replacement : Text) (inside : Nat) (text : Text) :
    substituteFrom pattern replacement inside text =
      substitute pattern replacement (text.drop inside) := by
  induction text generalizing inside with
  | nil => cases inside <;> rfl
  | cons c rest ih =>
    cases inside with
    | zero => rfl
    | succ inside => exact ih inside

theorem substitute_pattern (nonempty : pattern ≠ []) (replacement rest : Text) :
    substitute pattern replacement (pattern ++ rest) =
      replacement ++ substitute pattern replacement rest := by
  obtain ⟨c, tail, rfl⟩ := List.exists_cons_of_ne_nil nonempty
  have begins : (c :: tail).isPrefixOf (c :: (tail ++ rest)) = true :=
    List.isPrefixOf_iff_prefix.mpr (List.prefix_append (c :: tail) rest)
  rw [List.cons_append, substitute, substituteFrom, if_pos begins, substituteFrom_eq_drop,
    List.length_cons, Nat.add_sub_cancel, List.drop_left]

theorem substitute_cons_of_not_isPrefix {c : CodePoint} (passed : ¬ pattern <+: c :: text) :
    substitute pattern replacement (c :: text) = c :: substitute pattern replacement text := by
  rw [substitute, substituteFrom,
    if_neg fun begins => passed (List.isPrefixOf_iff_prefix.mp begins)]
  rfl

theorem substitute_of_absent (absent : ¬ pattern <:+: text) :
    substitute pattern replacement text = text := by
  induction text with
  | nil => rfl
  | cons c rest ih =>
    rw [substitute_cons_of_not_isPrefix fun begins => absent begins.isInfix,
      ih fun inside => absent (List.infix_cons inside)]

/-- Up to the first occurrence of the pattern a text stays as it is. -/
theorem substitute_append (unbordered : Unbordered pattern) (nonempty : pattern ≠ [])
    (absent : ¬ pattern <:+: front) (replacement rest : Text) :
    substitute pattern replacement (front ++ (pattern ++ rest)) =
      front ++ (replacement ++ substitute pattern replacement rest) := by
  induction front with
  | nil => exact substitute_pattern nonempty replacement rest
  | cons c front ih =>
    have passed : ¬ pattern <+: c :: (front ++ (pattern ++ rest)) := fun begins =>
      absent (unbordered.prefix_front (List.cons_ne_nil c front) begins).isInfix
    rw [List.cons_append, substitute_cons_of_not_isPrefix passed,
      ih fun inside => absent (List.infix_cons inside), List.cons_append]

theorem join_cons_cons (separator piece next : Text) (others : List Text) :
    join separator (piece :: next :: others) =
      piece ++ (separator ++ join separator (next :: others)) := by
  rw [join, List.append_assoc]
  exact List.cons_ne_nil next others

/-- Substituting the pattern between pieces without it. -/
theorem substitute_join (unbordered : Unbordered pattern) (nonempty : pattern ≠ [])
    (absent : ∀ piece ∈ pieces, ¬ pattern <:+: piece) (replacement : Text) :
    substitute pattern replacement (join pattern pieces) = join replacement pieces := by
  induction pieces with
  | nil => rfl
  | cons piece others ih =>
    obtain ⟨here, absent⟩ := List.forall_mem_cons.mp absent
    cases others with
    | nil => exact substitute_of_absent here
    | cons next others =>
      rw [join_cons_cons, join_cons_cons, substitute_append unbordered nonempty here, ih absent]

/-- Every text is put together with the pattern between pieces without it. -/
theorem exists_eq_join (nonempty : pattern ≠ []) (text : Text) : ∃ piece others,
    (∀ other ∈ piece :: others, ¬ pattern <:+: other) ∧ text = join pattern (piece :: others) := by
  induction text with
  | nil =>
    refine ⟨[], [], ?_, rfl⟩
    simpa only [List.mem_singleton, forall_eq, List.infix_nil] using nonempty
  | cons c text ih =>
    obtain ⟨piece, others, absent, rfl⟩ := ih
    obtain ⟨here, behind⟩ := List.forall_mem_cons.mp absent
    have grown : c :: join pattern (piece :: others) = join pattern ((c :: piece) :: others) := by
      cases others with
      | nil => rfl
      | cons next others => rw [join_cons_cons, join_cons_cons, List.cons_append]
    by_cases begins : pattern <+: c :: piece
    · -- the pattern is cut off the front, and what is left of the piece comes behind it
      obtain ⟨left, split⟩ := begins
      have inside : left <:+: piece := by
        obtain ⟨first, tail, rfl⟩ := List.exists_cons_of_ne_nil nonempty
        exact ⟨tail, [], by rw [List.append_nil]; exact (List.cons.inj split).2⟩
      refine ⟨[], left :: others, ?_, ?_⟩
      · simp only [List.forall_mem_cons, List.infix_nil]
        exact ⟨nonempty, fun found => here (found.trans inside), behind⟩
      · rw [grown, join_cons_cons, List.nil_append, ← split]
        cases others with
        | nil => rfl
        | cons next others => rw [join_cons_cons, join_cons_cons, List.append_assoc]
    · refine ⟨c :: piece, others, ?_, grown⟩
      refine List.forall_mem_cons.mpr ⟨fun found => ?_, behind⟩
      exact (List.infix_cons_iff.mp found).elim begins here

/-- A pattern without a mark is in a text with the mark only in front of it or behind it. -/
theorem infix_append_cons (outside : mark ∉ pattern) (nonempty : pattern ≠ [])
    (found : pattern <:+: front ++ mark :: rest) : pattern <:+: front ∨ pattern <:+: rest := by
  induction front with
  | nil =>
    refine Or.inr ((List.infix_cons_iff.mp found).resolve_left fun begins => outside ?_)
    obtain ⟨c, tail, rfl⟩ := List.exists_cons_of_ne_nil nonempty
    rw [(List.cons_prefix_cons.mp begins).1]
    exact List.mem_cons_self
  | cons c front ih =>
    rcases List.infix_cons_iff.mp found with begins | later
    · have start : c :: front ++ [mark] <+: c :: front ++ mark :: rest :=
        ⟨rest, by rw [List.append_assoc]; rfl⟩
      by_cases fits : pattern.length ≤ (c :: front).length
      · have short :=
          List.prefix_of_prefix_length_le begins (List.prefix_append (c :: front) _) fits
        exact Or.inl short.isInfix
      · have long : c :: front ++ [mark] <+: pattern :=
          List.prefix_of_prefix_length_le start begins (by
            rw [List.length_append, List.length_singleton]
            omega)
        exact absurd (long.subset (List.mem_append_right _ (List.mem_singleton_self mark))) outside
    · exact (ih later).imp_left List.infix_cons

theorem not_infix_join (outside : mark ∉ pattern) (nonempty : pattern ≠ [])
    (absent : ∀ piece ∈ pieces, ¬ pattern <:+: piece) : ¬ pattern <:+: join [mark] pieces := by
  induction pieces with
  | nil => exact fun found => nonempty (List.infix_nil.mp found)
  | cons piece others ih =>
    obtain ⟨here, absent⟩ := List.forall_mem_cons.mp absent
    cases others with
    | nil => exact here
    | cons next others =>
      rw [join_cons_cons]
      exact fun found => (infix_append_cons outside nonempty found).elim here (ih absent)

end TimeReports.Text

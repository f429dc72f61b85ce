import Mathlib.Data.List.Induction
import Mathlib.Data.List.Nodup
import TimeReports.Text.Basic

set_option autoImplicit false

namespace TimeReports

section Appearances

variable {κ : Type} [BEq κ] [LawfulBEq κ] {items : List κ} {item : κ}

theorem eraseDups_concat_of_mem (member : item ∈ items) :
    (items ++ [item]).eraseDups = items.eraseDups := by
  rw [List.eraseDups_append]
  simp [List.removeAll, member]

theorem eraseDups_concat_of_not_mem (absent : item ∉ items) :
    (items ++ [item]).eraseDups = items.eraseDups ++ [item] := by
  rw [List.eraseDups_append]
  simp [List.removeAll, absent, List.eraseDups_cons]

/-- What is kept of items comes in the order of their first appearance. -/
theorem pairwise_eraseDups (items : List κ) :
    items.eraseDups.Pairwise fun upper lower => items.idxOf upper < items.idxOf lower := by
  induction items using List.reverseRecOn with
  | nil => exact List.Pairwise.nil
  | append_singleton items item ih =>
    -- The index of an item that was there before is the same behind one more item.
    have kept : items.eraseDups.Pairwise fun upper lower =>
        (items ++ [item]).idxOf upper < (items ++ [item]).idxOf lower := by
      refine ih.imp_of_mem fun {upper lower} inside inside' before => ?_
      rw [List.idxOf_append_of_mem (List.mem_eraseDups.mp inside),
        List.idxOf_append_of_mem (List.mem_eraseDups.mp inside')]
      exact before
    by_cases member : item ∈ items
    · rwa [eraseDups_concat_of_mem member]
    · rw [eraseDups_concat_of_not_mem member, List.pairwise_append]
      refine ⟨kept, List.pairwise_singleton _ _, fun upper inside lower last => ?_⟩
      obtain rfl := List.mem_singleton.mp last
      have inside := List.mem_eraseDups.mp inside
      rw [List.idxOf_append_of_mem inside, List.idxOf_append_of_notMem member]
      exact Nat.lt_add_right _ (List.idxOf_lt_length_of_mem inside)

theorem nodup_eraseDups (items : List κ) : items.eraseDups.Nodup := by
  refine (pairwise_eraseDups items).imp ?_
  rintro upper _ before rfl
  exact Nat.lt_irrefl _ before

/-- Repetitions at the end may be taken away first. -/
theorem eraseDups_append_eraseDups (front back : List κ) :
    (front ++ back.eraseDups).eraseDups = (front ++ back).eraseDups := by
  induction back using List.reverseRecOn with
  | nil => rfl
  | append_singleton back item ih =>
    have same : item ∈ front ++ back.eraseDups ↔ item ∈ front ++ back := by
      simp only [List.mem_append, List.mem_eraseDups]
    by_cases old : item ∈ back
    · rw [eraseDups_concat_of_mem old, ih, ← List.append_assoc,
        eraseDups_concat_of_mem (List.mem_append_right front old)]
    · rw [eraseDups_concat_of_not_mem old, ← List.append_assoc, ← List.append_assoc]
      by_cases member : item ∈ front ++ back
      · rw [eraseDups_concat_of_mem (same.mpr member), eraseDups_concat_of_mem member, ih]
      · rw [eraseDups_concat_of_not_mem (fun inside => member (same.mp inside)),
          eraseDups_concat_of_not_mem member, ih]

end Appearances

section Sorts

variable {α : Type} {atMost : α → α → Bool} {before : α → α → Prop} {items : List α}

/-- A sort keeps the order among items that it does not tell apart. -/
theorem pairwise_mergeSort_stable
    (trans : ∀ first second third, atMost first second = true → atMost second third = true →
      atMost first third = true)
    (total : ∀ left right, (atMost left right || atMost right left) = true)
    (ordered : items.Pairwise before) : (items.mergeSort atMost).Pairwise fun upper lower =>
      atMost upper lower = true ∧ (atMost lower upper = true → before upper lower) := by
  refine (List.pairwise_mergeSort trans total items).and ?_
  induction items with
  | nil => simp
  | cons item rest ih =>
    obtain ⟨first, others⟩ := List.pairwise_cons.mp ordered
    -- The first item stands behind those alone that are strictly below it.
    obtain ⟨above, below, whole, split, less⟩ := List.mergeSort_cons trans total item rest
    have sorted := ih others
    rw [split, List.pairwise_append] at sorted
    rw [whole, List.pairwise_append, List.pairwise_cons]
    refine ⟨sorted.1, ⟨fun lower inside _ => first lower ?_, sorted.2.1⟩, ?_⟩
    · have inside : lower ∈ rest.mergeSort atMost := by
        rw [split]
        exact List.mem_append_right _ inside
      exact List.mem_mergeSort.mp inside
    · intro upper inside lower inside'
      rcases List.mem_cons.mp inside' with rfl | inside'
      · intro notLess
        have strict := less upper inside
        rw [notLess] at strict
        cases strict
      · exact sorted.2.2 upper inside lower inside'

end Sorts

namespace Text

/-- No character has the number of a surrogate. -/
theorem toNat_char_ne_surrogate (c : Char) (index : Fin 2048) :
    (CodePoint.char c).toNat ≠ (CodePoint.surrogate index).toNat := by
  have valid : c.toNat < 0xD800 ∨ 0xDFFF < c.toNat ∧ c.toNat < 0x110000 := c.valid
  simp only [CodePoint.toNat, CodePoint.firstSurrogate]
  omega

theorem toNat_injective : Function.Injective CodePoint.toNat := by
  intro left right same
  cases left <;> cases right
  case char.char c d => exact congrArg CodePoint.char (Char.toNat_inj.mp same)
  case char.surrogate c i => exact absurd same (toNat_char_ne_surrogate c i)
  case surrogate.char i c => exact absurd same.symm (toNat_char_ne_surrogate c i)
  case surrogate.surrogate i j =>
    simp only [CodePoint.toNat, Nat.add_left_cancel_iff] at same
    exact congrArg CodePoint.surrogate (Fin.ext same)

theorem atMost_total (left right : Text) : (atMost left right || atMost right left) = true := by
  induction left generalizing right with
  | nil => rfl
  | cons a left ih =>
    cases right with
    | nil => rfl
    | cons b right =>
      have behind := ih right
      simp only [atMost]
      split
      · rfl
      · split
        · simp
        · exact behind

theorem atMost_trans (first second third : Text) (before : atMost first second = true)
    (before' : atMost second third = true) : atMost first third = true := by
  induction first generalizing second third with
  | nil => rfl
  | cons a first ih =>
    cases second with
    | nil => cases before
    | cons b second =>
      cases third with
      | nil => cases before'
      | cons c third =>
        simp only [atMost] at before before' ⊢
        grind

/-- Texts that are at most each other are the same. -/
theorem atMost_antisymm {left right : Text} (before : atMost left right = true)
    (before' : atMost right left = true) : left = right := by
  induction left generalizing right with
  | nil =>
    cases right with
    | nil => rfl
    | cons b right => cases before'
  | cons a left ih =>
    cases right with
    | nil => cases before
    | cons b right =>
      simp only [atMost] at before before'
      have same : a.toNat = b.toNat := by grind
      simp only [same, Nat.lt_irrefl, ↓reduceIte] at before before'
      rw [toNat_injective same, ih before before']

end Text
end TimeReports

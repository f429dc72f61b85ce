import Mathlib.Data.List.Basic
import TimeReports.Proofs.Splices

set_option autoImplicit false

namespace TimeReports.Document

open Text

/-- Lines that take the place of those from one to another, both included. -/
structure Replacement where
  first : Nat
  last : Nat
  lines : List Text
  deriving DecidableEq, Repr

/-- Whether a replacement takes the place of a line. -/
def Replacement.covers (replacement : Replacement) (number : Nat) : Bool :=
  decide (replacement.first ≤ number) && decide (number ≤ replacement.last)

/-- What stands in the place of a line: the new lines in that of the first line that they replace,
nothing in that of the others, and elsewhere the line itself. -/
def inPlace (replacements : List Replacement) (line : Text) (number : Nat) : List Text :=
  match replacements.find? (·.covers number) with
  | none => [line]
  | some replacement => if number = replacement.first then replacement.lines else []

/-- Lines that start at a number with what stands in their places. -/
def substitutedFrom (replacements : List Replacement) (number : Nat) (items : List Text) :
    List Text :=
  (items.zipIdx number).flatMap fun (line, index) => inPlace replacements line index

/-- Lines with all replacements made at once. -/
def substituted (replacements : List Replacement) (items : List Text) : List Text :=
  substitutedFrom replacements 0 items

variable {items others : List Text} {replacement : Replacement} {replacements : List Replacement}
  {number : Nat} {line : Text}

theorem substitutedFrom_nil (replacements : List Replacement) (number : Nat) :
    substitutedFrom replacements number [] = [] := rfl

theorem substitutedFrom_cons (replacements : List Replacement) (number : Nat) (line : Text)
    (items : List Text) : substitutedFrom replacements number (line :: items) =
      inPlace replacements line number ++ substitutedFrom replacements (number + 1) items := by
  simp only [substitutedFrom, List.zipIdx_cons, List.flatMap_cons]

theorem substitutedFrom_append (replacements : List Replacement) (number : Nat)
    (items others : List Text) : substitutedFrom replacements number (items ++ others) =
      substitutedFrom replacements number items ++
        substitutedFrom replacements (number + items.length) others := by
  induction items generalizing number with
  | nil => simp only [List.nil_append, substitutedFrom_nil, List.length_nil, Nat.add_zero]
  | cons line items ih =>
    rw [List.cons_append, substitutedFrom_cons, ih, substitutedFrom_cons, List.append_assoc,
      List.length_cons, Nat.add_assoc, Nat.add_comm 1]

theorem inPlace_cons_of_covers (covered : replacement.covers number = true) (line : Text) :
    inPlace (replacement :: replacements) line number =
      if number = replacement.first then replacement.lines else [] := by
  rw [inPlace, List.find?_cons, covered]

theorem inPlace_cons_of_passes (passed : replacement.covers number = false) (line : Text) :
    inPlace (replacement :: replacements) line number = inPlace replacements line number := by
  rw [inPlace, List.find?_cons, passed, inPlace]

/-- Whether a replacement takes the place of none of so many lines from a number on. -/
def Replacement.Passes (number count : Nat) (replacement : Replacement) : Prop :=
  replacement.last < number ∨ number + count ≤ replacement.first

theorem Replacement.Passes.covers {count index : Nat} (passes : replacement.Passes number count)
    (behind : number ≤ index) (inside : index < number + count) :
    replacement.covers index = false := by
  unfold Replacement.Passes at passes
  simp only [Replacement.covers, Bool.and_eq_false_iff, decide_eq_false_iff_not]
  omega

theorem substitutedFrom_cons_of_passes (passes : replacement.Passes number items.length) :
    substitutedFrom (replacement :: replacements) number items =
      substitutedFrom replacements number items := by
  unfold substitutedFrom
  refine List.flatMap_congr fun (line, index) member => ?_
  obtain ⟨behind, inside, -⟩ := List.mem_zipIdx member
  exact inPlace_cons_of_passes (passes.covers behind (by omega)) line

theorem substitutedFrom_none (number : Nat) (items : List Text) :
    substitutedFrom [] number items = items := by
  induction items generalizing number with
  | nil => rfl
  | cons line items ih =>
    rw [substitutedFrom_cons, ih]
    rfl

theorem substitutedFrom_of_passes
    (passes : ∀ replacement ∈ replacements, replacement.Passes number items.length) :
    substitutedFrom replacements number items = items := by
  induction replacements with
  | nil => exact substitutedFrom_none number items
  | cons replacement replacements ih =>
    rw [substitutedFrom_cons_of_passes (passes replacement List.mem_cons_self)]
    exact ih fun other member => passes other (List.mem_cons_of_mem _ member)

/-- Behind the first of the lines that are replaced nothing stands in their places. -/
theorem substitutedFrom_inside (behind : replacement.first < number)
    (inside : number + items.length ≤ replacement.last + 1) :
    substitutedFrom (replacement :: replacements) number items = [] := by
  induction items generalizing number with
  | nil => rfl
  | cons line items ih =>
    rw [List.length_cons] at inside
    have covered : replacement.covers number = true := by
      simp only [Replacement.covers, Bool.and_eq_true, decide_eq_true_eq]
      omega
    have later : number ≠ replacement.first := by omega
    rw [substitutedFrom_cons, inPlace_cons_of_covers covered, if_neg later, List.nil_append]
    exact ih (by omega) (by omega)

theorem substitutedFrom_replaced (ordered : replacement.first ≤ replacement.last)
    (whole : replacement.first + items.length = replacement.last + 1) :
    substitutedFrom (replacement :: replacements) replacement.first items = replacement.lines := by
  cases items with
  | nil =>
    rw [List.length_nil] at whole
    omega
  | cons line items =>
    rw [List.length_cons] at whole
    have covered : replacement.covers replacement.first = true := by
      simp only [Replacement.covers, Bool.and_eq_true, decide_eq_true_eq]
      omega
    rw [substitutedFrom_cons, inPlace_cons_of_covers covered, if_pos rfl,
      substitutedFrom_inside (Nat.lt_succ_self _) (by omega), List.append_nil]

def Replacement.apply (replacement : Replacement) (items : List Text) : List Text :=
  items.take replacement.first ++ (replacement.lines ++ items.drop (replacement.last + 1))

/-- A replacement below all others may be made before them. -/
theorem substituted_cons (ordered : replacement.first ≤ replacement.last)
    (inside : replacement.last < items.length)
    (above : ∀ upper ∈ replacements, upper.last < replacement.first) :
    substituted (replacement :: replacements) items =
      substituted replacements (replacement.apply items) := by
  have split : items = items.take replacement.first ++
      ((items.drop replacement.first).take (replacement.last + 1 - replacement.first) ++
        items.drop (replacement.last + 1)) := by
    rw [← drop_drop_of_le (show replacement.first ≤ replacement.last + 1 by omega),
      List.take_append_drop, List.take_append_drop]
  have height : (items.take replacement.first).length = replacement.first := by
    rw [List.length_take]
    omega
  have depth : replacement.first +
      ((items.drop replacement.first).take (replacement.last + 1 - replacement.first)).length =
        replacement.last + 1 := by
    rw [List.length_take, List.length_drop]
    omega
  have front : substitutedFrom (replacement :: replacements) 0 (items.take replacement.first) =
      substitutedFrom replacements 0 (items.take replacement.first) := by
    apply substitutedFrom_cons_of_passes
    right
    omega
  have rest : substitutedFrom (replacement :: replacements) (replacement.last + 1)
      (items.drop (replacement.last + 1)) = items.drop (replacement.last + 1) := by
    apply substitutedFrom_of_passes
    intro other member
    rcases List.mem_cons.mp member with rfl | member
    · exact Or.inl (Nat.lt_succ_self _)
    · have := above other member
      exact Or.inl (by omega)
  have unchanged : substitutedFrom replacements replacement.first
      (replacement.lines ++ items.drop (replacement.last + 1)) =
        replacement.lines ++ items.drop (replacement.last + 1) := by
    apply substitutedFrom_of_passes
    exact fun other member => Or.inl (above other member)
  calc substituted (replacement :: replacements) items
    _ = substitutedFrom (replacement :: replacements) 0 (items.take replacement.first) ++
        (substitutedFrom (replacement :: replacements) replacement.first
          ((items.drop replacement.first).take (replacement.last + 1 - replacement.first)) ++
        substitutedFrom (replacement :: replacements) (replacement.last + 1)
          (items.drop (replacement.last + 1))) := by
      rw [substituted, split, substitutedFrom_append, substitutedFrom_append, ← split, height,
        Nat.zero_add, depth]
    _ = substitutedFrom replacements 0 (items.take replacement.first) ++
        (replacement.lines ++ items.drop (replacement.last + 1)) := by
      rw [front, substitutedFrom_replaced ordered depth, rest]
    _ = substituted replacements (replacement.apply items) := by
      rw [substituted, Replacement.apply, substitutedFrom_append, height, Nat.zero_add, unchanged]

/-- A single replacement. -/
theorem substituted_singleton (ordered : replacement.first ≤ replacement.last)
    (inside : replacement.last < items.length) :
    substituted [replacement] items = replacement.apply items := by
  have above : ∀ upper ∈ ([] : List Replacement), upper.last < replacement.first := by simp
  rw [substituted_cons ordered inside above, substituted, substitutedFrom_none]

/-- A replacement below all others, if there is one, may be made before them. -/
theorem substituted_toList_append {made : Option Replacement}
    (ordered : ∀ replacement ∈ made, replacement.first ≤ replacement.last)
    (inside : ∀ replacement ∈ made, replacement.last < items.length)
    (above : ∀ replacement ∈ made, ∀ upper ∈ replacements, upper.last < replacement.first) :
    substituted (made.toList ++ replacements) items =
      substituted replacements (substituted made.toList items) := by
  cases made with
  | none => rw [Option.toList_none, List.nil_append, substituted.eq_1 [], substitutedFrom_none]
  | some replacement =>
    have ordered' := ordered replacement rfl
    have inside' := inside replacement rfl
    rw [Option.toList_some, substituted_singleton ordered' inside', List.singleton_append]
    exact substituted_cons ordered' inside' (above replacement rfl)

/-- Lines above a replacement are where they were. -/
theorem take_apply {count : Nat} (above : count ≤ replacement.first)
    (inside : replacement.first ≤ items.length) :
    (replacement.apply items).take count = items.take count := by
  have height : count ≤ (items.take replacement.first).length := by
    rw [List.length_take]
    omega
  rw [Replacement.apply, List.take_append_of_le_length height, List.take_take,
    Nat.min_eq_left above]

variable {lines : Lines} {first last : Nat} {text : Text}

/-- Sound lines stay sound when a block of them is replaced by lines of which the last is not empty.
-/
theorem Lines.Sound.spliced (sound : lines.Sound) (ordered : first < last)
    (inside : last < lines.items.length) (clean : back ∉ text)
    (several : 2 ≤ (pieces feed text).length) (visible : (pieces feed text).getLast? ≠ some []) :
    (Vault.spliced lines first last text).Sound := by
  have parts := items_spliced lines first last text
  have long : 2 ≤ (Vault.spliced lines first last text).items.length := by
    rw [parts, List.length_append, List.length_append]
    omega
  refine ⟨List.ne_nil_of_length_pos (by omega), feed_not_mem_spliced sound.feeds first last text,
    ?_, fun isOpen => Or.inr ?_, fun _ => Or.inr long⟩
  · intro line member
    rw [parts, List.mem_append, List.mem_append] at member
    rcases member with member | member | member
    · exact sound.backs line (List.take_subset _ _ member)
    · exact fun inside => clean (mem_of_mem_pieces member inside)
    · exact sound.backs line (List.drop_subset _ _ member)
  · exact getLast?_spliced visible ((sound.unended isOpen).resolve_left (by omega))

theorem spliced_eq (ordered : first ≤ last) (inside : last < lines.items.length) (text : Text) :
    Vault.spliced lines first last text =
      { lines with items := substituted [⟨first, last, pieces feed text⟩] lines.items } := by
  have single : substituted [⟨first, last, pieces feed text⟩] lines.items = _ :=
    substituted_singleton ordered inside
  rw [single, Replacement.apply, Vault.spliced, List.append_assoc]

end TimeReports.Document

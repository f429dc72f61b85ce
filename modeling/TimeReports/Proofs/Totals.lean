import Mathlib.Order.Lattice
import TimeReports.Proofs.Sorting
import TimeReports.Report.Totals

set_option autoImplicit false

namespace TimeReports.Report

variable {α : Type} {name : Text} {hours : α}

def firstNames (items : List (Text × α)) : List Text := (items.map (·.1)).eraseDups

def hoursUnder (name : Text) (items : List (Text × α)) : List α :=
  (items.filter fun item => item.1 = name).map (·.2)

theorem mem_firstNames {items : List (Text × α)} :
    name ∈ firstNames items ↔ name ∈ items.map (·.1) := List.mem_eraseDups

theorem pairwise_firstNames (items : List (Text × α)) : (firstNames items).Pairwise
    fun upper lower => (items.map (·.1)).idxOf upper < (items.map (·.1)).idxOf lower :=
  pairwise_eraseDups _

theorem nodup_firstNames (items : List (Text × α)) : (firstNames items).Nodup :=
  nodup_eraseDups _

theorem firstNames_perm {items others : List (Text × α)} (perm : others.Perm items) :
    (firstNames others).Perm (firstNames items) := by
  rw [List.perm_ext_iff_of_nodup (nodup_firstNames others) (nodup_firstNames items)]
  intro name
  rw [mem_firstNames, mem_firstNames, (perm.map _).mem_iff]

theorem hoursUnder_of_not_mem {items : List (Text × α)} (absent : name ∉ items.map (·.1)) :
    hoursUnder name items = [] := by
  have none : ∀ item ∈ items, ¬ item.1 = name :=
    fun item inside same => absent (List.mem_map.mpr ⟨item, inside, same⟩)
  simpa [hoursUnder, List.filter_eq_nil_iff] using none

section Sums

variable [Add α] [OfNat α 0] {totals items : List (Text × α)}

theorem sum_concat (hours : List α) (last : α) : sum (hours ++ [last]) = sum hours + last := by
  simp only [sum, List.foldl_append, List.foldl_cons, List.foldl_nil]

theorem sum_hoursUnder_concat (name other : Text) (hours : α) (items : List (Text × α)) :
    sum (hoursUnder name (items ++ [(other, hours)])) =
      if other = name then sum (hoursUnder name items) + hours
      else sum (hoursUnder name items) := by
  by_cases same : other = name
  · simp only [hoursUnder, List.filter_append, List.filter_cons, same, decide_true, ↓reduceIte,
      List.filter_nil, List.map_append, List.map_cons, List.map_nil, sum_concat]
  · simp only [hoursUnder, List.filter_append, List.filter_cons, same, decide_false,
      Bool.false_eq_true, ↓reduceIte, List.filter_nil, List.append_nil]

theorem addTo_of_not_mem (absent : name ∉ totals.map (·.1)) :
    addTo name hours totals = totals ++ [(name, 0 + hours)] := by
  induction totals with
  | nil => rfl
  | cons total rest ih =>
    obtain ⟨other, found⟩ := total
    rw [List.map_cons, List.mem_cons, not_or] at absent
    simp only [addTo, Ne.symm absent.1, ↓reduceIte, ih absent.2, List.cons_append]

/-- Hours under a name that has a total change that total only. -/
theorem addTo_of_mem {names : List Text} (distinct : names.Nodup) (member : name ∈ names)
    (total : Text → α) : addTo name hours (names.map fun other => (other, total other)) =
      names.map fun other =>
        (other, if name = other then total other + hours else total other) := by
  induction names with
  | nil => cases member
  | cons first rest ih =>
    obtain ⟨apart, distinct⟩ := List.nodup_cons.mp distinct
    rw [List.map_cons, List.map_cons, addTo]
    by_cases same : first = name
    · subst same
      have others : ∀ other ∈ rest,
          (other, if first = other then total other + hours else total other) =
            (other, total other) := by
        intro other inside
        rw [if_neg]
        rintro rfl
        exact apart inside
      rw [if_pos rfl, if_pos rfl, List.map_congr_left others]
    · rw [if_neg same, if_neg (Ne.symm same),
        ih distinct ((List.mem_cons.mp member).resolve_left (Ne.symm same))]

theorem totalsByName_concat (items : List (Text × α)) (name : Text) (hours : α) :
    totalsByName (items ++ [(name, hours)]) = addTo name hours (totalsByName items) := by
  simp only [totalsByName, List.foldl_append, List.foldl_cons, List.foldl_nil]

/-- The total of each name is the sum of the hours under it. -/
theorem totalsByName_eq (items : List (Text × α)) : totalsByName items =
    (firstNames items).map fun name => (name, sum (hoursUnder name items)) := by
  -- The total of a name that is not new grows at its place, and that of a new one comes last.
  induction items using List.reverseRecOn with
  | nil => rfl
  | append_singleton items item ih =>
    obtain ⟨name, hours⟩ := item
    have grown := fun other => sum_hoursUnder_concat other name hours items
    rw [totalsByName_concat, ih]
    by_cases member : name ∈ items.map (·.1)
    · have names : firstNames (items ++ [(name, hours)]) = firstNames items := by
        rw [firstNames, List.map_append]
        exact eraseDups_concat_of_mem member
      rw [addTo_of_mem (nodup_firstNames items) (mem_firstNames.mpr member), names]
      simp only [grown]
    · have names : firstNames (items ++ [(name, hours)]) = firstNames items ++ [name] := by
        rw [firstNames, List.map_append]
        exact eraseDups_concat_of_not_mem member
      have absent : name ∉ firstNames items := fun inside => member (mem_firstNames.mp inside)
      have others : ∀ other ∈ firstNames items,
          (other, sum (hoursUnder other (items ++ [(name, hours)]))) =
            (other, sum (hoursUnder other items)) := by
        intro other inside
        rw [grown, if_neg]
        rintro rfl
        exact absent inside
      have own : sum (hoursUnder name (items ++ [(name, hours)])) = 0 + hours := by
        rw [grown, if_pos rfl, hoursUnder_of_not_mem member]
        rfl
      rw [addTo_of_not_mem (by simpa [Function.comp_def] using absent), names, List.map_append,
        List.map_congr_left others, List.map_singleton, own]

theorem map_fst_totalsByName (items : List (Text × α)) :
    (totalsByName items).map (·.1) = firstNames items := by
  rw [totalsByName_eq, List.map_map]
  exact List.map_id _

end Sums

section Ranks

variable {κ : Type} [LinearOrder κ] {rank : α → κ} {totals : List (Text × α)}

/-- Whether a total has at least as many hours as another one, by the rank of the hours. -/
def outranks (rank : α → κ) (left right : Text × α) : Bool := decide (rank right.2 ≤ rank left.2)

theorem outranks_trans (rank : α → κ) (first second third : Text × α)
    (above : outranks rank first second = true) (above' : outranks rank second third = true) :
    outranks rank first third = true := by
  simp only [outranks, decide_eq_true_eq] at above above' ⊢
  exact le_trans above' above

theorem outranks_total (rank : α → κ) (left right : Text × α) :
    (outranks rank left right || outranks rank right left) = true := by
  simp only [outranks, Bool.or_eq_true, decide_eq_true_eq]
  exact le_total _ _

variable [LE α] [DecidableLE α]

theorem ranked_perm (totals : List (Text × α)) : (ranked totals).Perm totals :=
  List.mergeSort_perm totals _

theorem ranked_eq (same : ∀ upper ∈ totals, ∀ lower ∈ totals,
    lower.2 ≤ upper.2 ↔ rank lower.2 ≤ rank upper.2) :
    ranked totals = totals.mergeSort (outranks rank) := by
  have sorted : (ranked totals).map id = (totals.map id).mergeSort (outranks rank) :=
    List.map_mergeSort fun upper inside lower inside' =>
      decide_eq_decide.mpr (same upper inside lower inside')
  rwa [List.map_id, List.map_id] at sorted

/-- Totals are ranked by their hours, and among equal ones by the order they had. -/
theorem pairwise_ranked (rank : α → κ) {before : Text × α → Text × α → Prop}
    (same : ∀ upper ∈ totals, ∀ lower ∈ totals, lower.2 ≤ upper.2 ↔ rank lower.2 ≤ rank upper.2)
    (ordered : totals.Pairwise before) : (ranked totals).Pairwise fun upper lower =>
      rank lower.2 ≤ rank upper.2 ∧ (rank lower.2 = rank upper.2 → before upper lower) := by
  rw [ranked_eq same]
  have sorted := pairwise_mergeSort_stable (outranks_trans rank) (outranks_total rank) ordered
  refine sorted.imp fun {upper lower} both => ?_
  refine ⟨of_decide_eq_true both.1, fun equal => both.2 ?_⟩
  exact decide_eq_true (le_of_eq equal.symm)

end Ranks

end TimeReports.Report

import TimeReports.Proofs.Doubles
import TimeReports.Proofs.Totals

set_option autoImplicit false

namespace TimeReports.Report

variable {name : Text} {hours : Float} {entries : List TimeEntry} {summary other : Summary Float}

def projectNames (entries : List TimeEntry) : List Text := entries.map (·.project.name)

def projectHours (name : Text) (entries : List TimeEntry) : List Float :=
  (entries.filter fun entry => entry.project.name = name).map (·.hours)

/-- Whether a total comes before another one: it has more hours, or as many and its name came first
in the entries. -/
def Precedes (entries : List TimeEntry) (upper lower : Text × Float) : Prop :=
  lower.2 ≤ upper.2 ∧ ((upper.2 == lower.2) = true →
    (projectNames entries).idxOf upper.1 < (projectNames entries).idxOf lower.1)

structure Summarizes (entries : List TimeEntry) (summary : Summary Float) : Prop where
  total : summary.total = sum (entries.map (·.hours))
  distinct : (summary.totals.map (·.1)).Nodup
  names : ∀ name, name ∈ summary.totals.map (·.1) ↔ name ∈ projectNames entries
  hours : ∀ name hours, (name, hours) ∈ summary.totals → hours = sum (projectHours name entries)
  order : summary.totals.Pairwise (Precedes entries)

theorem map_namedHours_fst (entries : List TimeEntry) :
    (entries.map namedHours).map (·.1) = projectNames entries := by
  rw [List.map_map]
  rfl

theorem hoursUnder_namedHours (name : Text) (entries : List TimeEntry) :
    hoursUnder name (entries.map namedHours) = projectHours name entries := by
  rw [hoursUnder, List.filter_map, List.map_map]
  rfl

theorem projectHours_nonnegative (name : Text) (entries : List TimeEntry) :
    0 ≤ sum (projectHours name entries) := by
  refine sum_nonnegative fun x member => ?_
  obtain ⟨entry, -, rfl⟩ := List.mem_map.mp member
  exact entry.hours_nonneg

theorem mem_totalsByName_iff {total : Text × Float} :
    total ∈ totalsByName (entries.map namedHours) ↔
      total.1 ∈ projectNames entries ∧ total.2 = sum (projectHours total.1 entries) := by
  obtain ⟨name, hours⟩ := total
  rw [totalsByName_eq, List.mem_map]
  simp only [mem_firstNames, map_namedHours_fst, hoursUnder_namedHours, Prod.mk.injEq]
  constructor
  · rintro ⟨_, member, rfl, rfl⟩
    exact ⟨member, rfl⟩
  · rintro ⟨member, rfl⟩
    exact ⟨name, member, rfl, rfl⟩

theorem summarizes_summarize (entries : List TimeEntry) :
    Summarizes entries (summarize (entries.map namedHours)) := by
  have perm : (ranked (totalsByName (entries.map namedHours))).Perm _ := ranked_perm _
  have names := map_fst_totalsByName (entries.map namedHours)
  have nonnegative : ∀ total ∈ totalsByName (entries.map namedHours), 0 ≤ total.2 := by
    intro total member
    rw [(mem_totalsByName_iff.mp member).2]
    exact projectHours_nonnegative total.1 entries
  have ordered : (totalsByName (entries.map namedHours)).Pairwise fun upper lower =>
      (projectNames entries).idxOf upper.1 < (projectNames entries).idxOf lower.1 := by
    rw [totalsByName_eq, List.pairwise_map, ← map_namedHours_fst]
    exact pairwise_firstNames _
  have sorted := pairwise_ranked Number.rank (fun upper inside lower inside' =>
    Number.le_iff_rank_le (nonnegative lower inside') (nonnegative upper inside)) ordered
  constructor
  · rw [summarize, List.map_map]
    rfl
  · rw [summarize, (perm.map _).nodup_iff, names]
    exact nodup_firstNames _
  · intro name
    rw [summarize, (perm.map _).mem_iff, names, mem_firstNames, map_namedHours_fst]
  · intro name hours member
    exact (mem_totalsByName_iff.mp (perm.mem_iff.mp member)).2
  · refine sorted.imp_of_mem fun {upper lower} inside inside' above => ?_
    have upperHours := nonnegative upper (perm.mem_iff.mp inside)
    have lowerHours := nonnegative lower (perm.mem_iff.mp inside')
    refine ⟨(Number.le_iff_rank_le lowerHours upperHours).mpr above.1, fun equal => above.2 ?_⟩
    exact ((Number.beq_iff_rank_eq upperHours lowerHours).mp equal).symm

theorem Summarizes.mem_iff (summarizes : Summarizes entries summary) :
    (name, hours) ∈ summary.totals ↔
      name ∈ projectNames entries ∧ hours = sum (projectHours name entries) := by
  constructor
  · intro member
    exact ⟨(summarizes.names name).mp (List.mem_map_of_mem member),
      summarizes.hours name hours member⟩
  · rintro ⟨named, rfl⟩
    obtain ⟨⟨_, found⟩, member, rfl⟩ := List.mem_map.mp ((summarizes.names name).mpr named)
    rwa [← summarizes.hours _ found member]

/-- Totals that come before each other are the same one. -/
theorem not_precedes_precedes {upper lower : Text × Float} (upperHours : 0 ≤ upper.2)
    (lowerHours : 0 ≤ lower.2) (above : Precedes entries upper lower) :
    ¬ Precedes entries lower upper := by
  intro below
  have notMore := (Number.le_iff_rank_le lowerHours upperHours).mp above.1
  have notLess := (Number.le_iff_rank_le upperHours lowerHours).mp below.1
  have equal := le_antisymm notLess notMore
  have first := above.2 ((Number.beq_iff_rank_eq upperHours lowerHours).mpr equal)
  have second := below.2 ((Number.beq_iff_rank_eq lowerHours upperHours).mpr equal.symm)
  exact Nat.lt_asymm first second

/-- Entries have one summary only. -/
theorem Summarizes.unique (summarizes : Summarizes entries summary)
    (summarizes' : Summarizes entries other) : summary = other := by
  have perm : summary.totals.Perm other.totals := by
    rw [List.perm_ext_iff_of_nodup summarizes.distinct.of_map summarizes'.distinct.of_map]
    rintro ⟨name, hours⟩
    rw [summarizes.mem_iff, summarizes'.mem_iff]
  have nonnegative : ∀ total ∈ summary.totals, 0 ≤ total.2 := by
    intro total member
    rw [summarizes.hours total.1 total.2 member]
    exact projectHours_nonnegative total.1 entries
  have totals : summary.totals = other.totals := by
    refine perm.eq_of_pairwise ?_ summarizes.order summarizes'.order
    intro upper lower inside inside' above below
    have inside' := perm.mem_iff.mpr inside'
    exact absurd below
      (not_precedes_precedes (nonnegative upper inside) (nonnegative lower inside') above)
  have total := summarizes.total.trans summarizes'.total.symm
  cases summary
  cases other
  exact (Summary.mk.injEq ..).mpr ⟨total, totals⟩

/-- What is shown of some entries as a summary is the summary of them. -/
theorem aggregate_eq_summary_iff (entries : List TimeEntry) :
    ((∃ summary, aggregate entries .summary = .summary summary) ↔ entries ≠ []) ∧
      ∀ summary, aggregate entries .summary = .summary summary ↔
        entries ≠ [] ∧ Summarizes entries summary := by
  cases entries with
  | nil => simp [aggregate]
  | cons entry rest =>
    have shown : aggregate (entry :: rest) .summary =
        .summary (summarize ((entry :: rest).map namedHours)) := rfl
    have is := summarizes_summarize (entry :: rest)
    refine ⟨⟨fun _ => List.cons_ne_nil _ _, fun _ => ⟨_, shown⟩⟩, fun summary => ?_⟩
    rw [shown, View.summary.injEq]
    constructor
    · rintro rfl
      exact ⟨List.cons_ne_nil _ _, is⟩
    · exact fun both => is.unique both.2

end TimeReports.Report

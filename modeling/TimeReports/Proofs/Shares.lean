import Mathlib
import TimeReports.Proofs.Outcomes
import TimeReports.Proofs.Totals

set_option autoImplicit false

namespace TimeReports.Report

section Sums

variable {α : Type} [AddCommMonoid α] {items others : List (Text × α)}

theorem sum_eq (hours : List α) : sum hours = hours.sum := List.sum_eq_foldl.symm

/-- Hours added to the total of a name are added to all totals together. -/
theorem sum_addTo (name : Text) (hours : α) (totals : List (Text × α)) :
    ((addTo name hours totals).map (·.2)).sum = (totals.map (·.2)).sum + hours := by
  induction totals with
  | nil => simp [addTo]
  | cons total rest ih =>
    obtain ⟨other, found⟩ := total
    by_cases same : other = name
    · simp only [addTo, same, ↓reduceIte, List.map_cons, List.sum_cons]
      exact add_right_comm found hours _
    · simp only [addTo, same, ↓reduceIte, List.map_cons, List.sum_cons, ih, add_assoc]

theorem sum_totalsByName (items : List (Text × α)) :
    ((totalsByName items).map (·.2)).sum = (items.map (·.2)).sum := by
  induction items using List.reverseRecOn with
  | nil => rfl
  | append_singleton items item ih =>
    rw [totalsByName_concat, sum_addTo, ih, List.map_append, List.sum_append, List.map_singleton,
      List.sum_singleton]

theorem sum_hoursUnder_perm (perm : others.Perm items) (name : Text) :
    sum (hoursUnder name others) = sum (hoursUnder name items) := by
  rw [sum_eq, sum_eq]
  exact ((perm.filter _).map _).sum_eq

theorem totalsByName_perm (perm : others.Perm items) :
    (totalsByName others).Perm (totalsByName items) := by
  rw [totalsByName_eq, totalsByName_eq]
  simp only [sum_hoursUnder_perm perm]
  exact (firstNames_perm perm).map _

variable [LE α] [DecidableLE α]

theorem total_summarize (items : List (Text × α)) :
    (summarize items).total = (items.map (·.2)).sum := sum_eq _

theorem totals_summarize (items : List (Text × α)) :
    (summarize items).totals.Perm (totalsByName items) := ranked_perm _

theorem sum_totals_summarize (items : List (Text × α)) :
    ((summarize items).totals.map (·.2)).sum = (summarize items).total := by
  have perm := (totals_summarize items).map (·.2)
  rw [total_summarize, perm.sum_eq, sum_totalsByName]

theorem total_summarize_perm (perm : others.Perm items) :
    (summarize others).total = (summarize items).total := by
  rw [total_summarize, total_summarize]
  exact (perm.map _).sum_eq

theorem totals_summarize_perm (perm : others.Perm items) :
    (summarize others).totals.Perm (summarize items).totals :=
  (totals_summarize others).trans ((totalsByName_perm perm).trans (totals_summarize items).symm)

end Sums

def Summary.shares (summary : Summary ℚ≥0) : List (Text × ℚ≥0 × ℚ≥0) :=
  summary.totals.map fun total => (total.1, total.2, summary.share total.2)

/-- How the summary of items with exact hours adds up. -/
structure AddsUp (items : List (Text × ℚ≥0)) (summary : Summary ℚ≥0) : Prop where
  /-- The totals are all hours together. -/
  totals : (summary.totals.map (·.2)).sum = summary.total
  total : summary.total = (items.map (·.2)).sum
  /-- The sum from left to right, which executions report, is that of the summary. -/
  reported : sum (items.map (·.2)) = summary.total
  bounds : ∀ total ∈ summary.totals, 0 ≤ summary.share total.2 ∧ summary.share total.2 ≤ 100
  whole : 0 < summary.total → (summary.totals.map fun total => summary.share total.2).sum = 100
  none : summary.total = 0 → ∀ total ∈ summary.totals, summary.share total.2 = 0
  /-- In another order the same names have the same hours and shares. -/
  reordered : ∀ others : List (Text × ℚ≥0), others.Perm items →
    (summarize others).total = summary.total ∧ (summarize others).shares.Perm summary.shares

variable {summary : Summary ℚ≥0} {hours : ℚ≥0}

theorem share_of_pos (tracked : 0 < summary.total) :
    summary.share hours = hours / summary.total * 100 := if_neg (not_le.mpr tracked)

theorem share_of_zero (untracked : summary.total = 0) : summary.share hours = 0 :=
  if_pos (le_of_eq untracked)

theorem share_le (inside : hours ≤ summary.total) : summary.share hours ≤ 100 := by
  rcases eq_zero_or_pos summary.total with untracked | tracked
  · rw [share_of_zero untracked]
    exact zero_le
  · rw [share_of_pos tracked]
    calc hours / summary.total * 100
      _ ≤ 1 * 100 := mul_le_mul_left (div_le_one_of_le₀ inside zero_le) 100
      _ = 100 := one_mul 100

theorem sum_shares (tracked : 0 < summary.total)
    (totals : (summary.totals.map (·.2)).sum = summary.total) :
    (summary.totals.map fun total => summary.share total.2).sum = 100 := by
  have split : ∀ total ∈ summary.totals,
      summary.share total.2 = total.2 * (100 / summary.total) := by
    intro total _
    rw [share_of_pos tracked, div_mul_eq_mul_div, mul_div_assoc]
  calc (summary.totals.map fun total => summary.share total.2).sum
    _ = (summary.totals.map fun total => total.2 * (100 / summary.total)).sum := by
      rw [List.map_congr_left split]
    _ = summary.total * (100 / summary.total) := by rw [List.sum_map_mul_right, totals]
    _ = 100 := mul_div_cancel₀ 100 tracked.ne'

theorem shares_perm {other : Summary ℚ≥0} (total : other.total = summary.total)
    (totals : other.totals.Perm summary.totals) : other.shares.Perm summary.shares := by
  have same : other.share = summary.share := by
    funext hours
    rw [Summary.share, Summary.share, total]
  rw [Summary.shares, Summary.shares, same]
  exact totals.map _

theorem addsUp_summarize (items : List (Text × ℚ≥0)) : AddsUp items (summarize items) := by
  have totals := sum_totals_summarize items
  refine ⟨totals, total_summarize items, rfl, fun total member => ⟨zero_le, ?_⟩,
    fun tracked => sum_shares tracked totals, fun untracked _ _ => share_of_zero untracked,
    fun others perm => ?_⟩
  · apply share_le
    rw [← totals]
    exact List.le_sum_of_mem (List.mem_map_of_mem member)
  · have total := total_summarize_perm perm
    exact ⟨total, shares_perm total (totals_summarize_perm perm)⟩

end TimeReports.Report

namespace TimeReports.Execution

variable {source : Text} {fetch : SessionFetcher} {location : Option Location}
  {today : Date} {query : Query} {desk : Desk} {replies : List Harvest.Reply} {result : Result}
  {entries : List TimeEntry}

theorem totalHours_report (query : Query) (entries : List TimeEntry) :
    (report query entries).totalHours =
      (Report.summarize (entries.map Report.namedHours)).total := by
  rw [Report.summarize, List.map_map]
  rfl

variable [Console]

/-- Whether a block is live, frozen or kept, what is reported of the hours stays. -/
theorem totalHours_of_executed (reads : Reads source today query)
    (returned : (answered fetch query desk replies).outcome = .returned entries)
    (ends : (executed source fetch location today desk replies).outcome = .returned result) :
    result.totalHours = (Report.summarize (entries.map Report.namedHours)).total := by
  rw [← totalHours_report query]
  cases flag : Query.isStatic source with
  | false =>
    rw [executed_of_live flag reads returned] at ends
    cases ends
    rfl
  | true =>
    obtain ⟨markup, written⟩ := markup_report query entries
    cases location with
    | none =>
      rw [executed_of_unplaced flag reads returned written] at ends
      cases ends
      rfl
    | some place =>
      rw [executed_of_placed flag reads returned written] at ends
      cases replaced : (replacedAt desk.vault place source markup).2 with
      | ok done =>
        simp only [replaced] at ends
        cases ends
        rfl
      | error fault =>
        cases fault with
        | document fault =>
          simp only [replaced] at ends
          cases ends
          rfl
        | storage fault =>
          simp only [replaced] at ends
          cases ends

/-- Whether some execution that fetched the entries reports so many hours in all. -/
def Reports (entries : List TimeEntry) (hours : Float) : Prop :=
  ∃ (source : Text) (fetch : SessionFetcher) (location : Option Location) (today : Date)
    (desk : Desk) (replies : List Harvest.Reply) (query : Query) (result : Result),
    Reads source today query ∧ (answered fetch query desk replies).outcome = .returned entries ∧
      (executed source fetch location today desk replies).outcome = .returned result ∧
      result.totalHours = hours

theorem reports_iff (entries : List TimeEntry) (hours : Float) : Reports entries hours ↔
    hours = (Report.summarize (entries.map Report.namedHours)).total := by
  constructor
  · rintro ⟨_, _, _, _, _, _, _, _, reads, returned, ends, rfl⟩
    exact totalHours_of_executed reads returned ends
  · rintro rfl
    have reads : Reads "LIST TODAY".text someDay ⟨.list, .single someDay⟩ := by
      unfold Reads
      decide +kernel
    have live : Query.isStatic "LIST TODAY".text = false := by decide +kernel
    have ends : executed "LIST TODAY".text (fun _ _ => .done entries) none someDay
        (smallDesk .none) [] = _ := executed_of_live live reads rfl
    exact ⟨_, _, none, _, _, _, _, report _ entries, reads, rfl, by rw [ends],
      totalHours_report _ entries⟩

end TimeReports.Execution

namespace TimeReports.Report

/-- Exact hours add up in every summary, and an execution reports the hours in all of the summary of
its entries. -/
theorem addsUp_and_reported [Console] :
    (∀ items : List (Text × ℚ≥0), AddsUp items (summarize items)) ∧
    ∀ (entries : List TimeEntry) (hours : Float), Execution.Reports entries hours ↔
      hours = (summarize (entries.map namedHours)).total :=
  ⟨addsUp_summarize, Execution.reports_iff⟩

end TimeReports.Report

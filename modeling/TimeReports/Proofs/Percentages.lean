import TimeReports.Proofs.Columns
import TimeReports.Proofs.Magnitudes
import TimeReports.Proofs.Outcomes
import TimeReports.Proofs.Rankings

set_option autoImplicit false

namespace TimeReports.Report

open Float.Model (Format)
open Float.Model.UnpackedFloat
open Number

variable {summary : Summary Float} {hours : Float}

/-- The hours of a project are not above the hours in all. -/
theorem sum_projectHours_le (name : Text) (entries : List TimeEntry) :
    sum (projectHours name entries) ≤ totalHours entries := by
  -- both sums start at zero; each entry is added to the total, and to the other sum or not
  induction entries using List.reverseRecOn with
  | nil => exact projectHours_nonnegative name []
  | append_singleton entries entry ih =>
    have part := projectHours_nonnegative name entries
    have whole := totalHours_nonnegative entries
    have total : totalHours (entries ++ [entry]) = totalHours entries + entry.hours := by
      rw [totalHours, List.map_append, List.map_singleton, sum_concat, totalHours]
    rw [total, ← hoursUnder_namedHours, List.map_append, List.map_singleton, namedHours,
      sum_hoursUnder_concat, hoursUnder_namedHours]
    split
    · exact add_le_add_right part whole entry.hours_nonneg ih
    · exact le_trans_of_nonneg part whole (add_nonnegative whole entry.hours_nonneg) ih
        (le_add_right whole entry.hours_nonneg)

theorem holds_zero : Holds (0 : Float).toModel.unpack 0 := by
  have bits : (0 : Float).toModel.toBits = 0 := rfl
  have read : (0 : Float).toModel.unpack = .zero .positive := by
    rw [Float.Model.unpack, bits]
    rfl
  exact read ▸ .zero .positive

theorem holds_hundred : Holds (100 : Float).toModel.unpack 100 := by
  have bits : (100 : Float).toModel.toBits = 0x4059000000000000 := rfl
  have read : unpack .binary64 (0x4059000000000000 : UInt64).toBitVec =
      .finite .positive (25 * 2 ^ 48) (-46) (by norm_num) := rfl
  exact holds_of_bits bits read ⟨by norm_num, by norm_num, .inl (by norm_num)⟩ (by norm_num)

def FiniteHours (entries : List TimeEntry) : Prop :=
  ∀ name ∈ projectNames entries, (sum (projectHours name entries)).isFinite = true

/-- Finite hours have a share from 0 to 100. -/
theorem within_share (tracked : 0 ≤ hours) (whole : 0 ≤ summary.total)
    (inside : hours ≤ summary.total) (finite : hours.isFinite = true) :
    Within 100 (summary.share hours) := by
  have hundred : Within 100 (100 : Float) := ⟨100, holds_hundred, by norm_num⟩
  rw [Summary.share]
  split
  · exact ⟨0, holds_zero, by norm_num⟩
  · next some =>
    rcases finite_or_infinite tracked with ⟨-, u, part⟩ | ⟨endless, -⟩
    · rcases finite_or_infinite whole with ⟨-, v, total⟩ | ⟨-, infinite⟩
      · have zero : Amounts (0 : Float).toModel.unpack (0 : ℚ) := .finite holds_zero (by positivity)
        have divides : v ≠ 0 := by
          rintro rfl
          exact some ((le_iff_of_amounts total zero).mpr le_rfl)
        have le : u ≤ v := WithTop.coe_le_coe.mp ((le_iff_of_amounts part total).mp inside)
        exact (within_div part.holds total.holds le divides).mul hundred (by norm_num)
      · obtain ⟨w, holds, le⟩ :=
          (within_div_infinite part.holds infinite).mul hundred (by norm_num)
        exact ⟨w, holds, le.trans (by norm_num)⟩
    · exact absurd (finite.symm.trans endless) Bool.noConfusion

/-- Infinite hours have an undefined share. -/
theorem share_of_infinite (tracked : 0 ≤ hours) (whole : 0 ≤ summary.total)
    (inside : hours ≤ summary.total) (infinite : hours.isFinite = false) :
    summary.share hours = Float.nan := by
  rcases finite_or_infinite tracked with ⟨finite, -⟩ | ⟨-, endless⟩
  · exact absurd (finite.symm.trans infinite) Bool.noConfusion
  · have total := infinite_of_le endless whole inside
    have amount : Amounts summary.total.toModel.unpack ⊤ := total ▸ .infinite
    have zero : Amounts (0 : Float).toModel.unpack (0 : ℚ) := .finite holds_zero (by positivity)
    have some : ¬ summary.total ≤ 0 := by
      rw [le_iff_of_amounts amount zero, top_le_iff]
      exact WithTop.coe_ne_top
    have product : Float.nan * 100 = Float.nan := Float.toBits_inj.mp rfl
    rw [Summary.share, if_neg some, div_infinite endless total, product]

end TimeReports.Report

namespace TimeReports.Display

open Float.Model (Format)
open Float.Model.UnpackedFloat
open Number Report

variable {percentage : Float} {bar : Segment}

theorem roundNearest_le {numerator denominator n : ℕ} (positive : 0 < denominator)
    (le : numerator ≤ n * denominator) : roundNearest numerator denominator ≤ n := by
  have below : numerator / denominator ≤ n := Nat.div_le_of_le_mul (by rwa [mul_comm])
  -- a rest is there only below the bound
  have inner : numerator % denominator ≠ 0 → numerator / denominator + 1 ≤ n := by
    intro rest
    by_contra full
    obtain rfl : n = numerator / denominator := by omega
    have split := Nat.div_add_mod numerator denominator
    rw [mul_comm] at split
    omega
  unfold roundNearest
  dsimp only
  split
  · exact below
  · split
    · exact inner (by omega)
    · split
      · exact below
      · exact inner (by omega)

theorem holds_barWidth : Holds barWidth.toFloat.toModel.unpack 40 := by
  have bits : barWidth.toFloat.toModel.toBits = 0x4044000000000000 := rfl
  have read : unpack .binary64 (0x4044000000000000 : UInt64).toBitVec =
      .finite .positive (5 * 2 ^ 50) (-47) (by norm_num) := rfl
  exact holds_of_bits bits read ⟨by norm_num, by norm_num, .inl (by norm_num)⟩ (by norm_num)

/-- The bar of a percentage has a length, which is not above that of the whole. -/
theorem barLength_of_within (within : Within 100 percentage) :
    ∃ length ≤ 40, barLength percentage = .ok length := by
  obtain ⟨u, holds, le⟩ := within
  have width : Within 40 barWidth.toFloat := ⟨40, holds_barWidth, by norm_num⟩
  obtain ⟨v, scaled, below⟩ :=
    (within_div holds holds_hundred (by exact_mod_cast le) (by norm_num)).mul width (by norm_num)
  obtain ⟨negative, numerator, denominator, read, positive, rfl, -⟩ := shape_of_holds scaled
  have bound : roundNearest numerator denominator ≤ 40 := by
    refine roundNearest_le positive ?_
    rw [div_le_iff₀ (by exact_mod_cast positive)] at below
    exact_mod_cast below
  have small : 40 < twoTo 40 := by decide
  have small' : 40 < twoTo 63 := by decide
  unfold barLength
  rw [read]
  dsimp only
  split
  · rw [if_neg (by omega)]
    exact ⟨0, by norm_num, rfl⟩
  · rw [if_neg (by omega), if_neg (by omega)]
    exact ⟨_, bound, rfl⟩

theorem barLength_nan : barLength Float.nan = .error .undefinedBar := by
  have undefined : shape (Float.nan / 100 * barWidth.toFloat) = .nan := rfl
  rw [barLength, undefined]

theorem plainSegment_of_within (width : ℕ) (within : Within 100 bar.percentage) :
    ∃ line, plainSegment width bar = .ok line := by
  obtain ⟨length, -, counted⟩ := barLength_of_within within
  exact ⟨_, by rw [plainSegment, counted]; rfl⟩

theorem plainSegment_nan (width : ℕ) (undefined : bar.percentage = Float.nan) :
    plainSegment width bar = .error .undefinedBar := by
  rw [plainSegment, undefined, barLength_nan]
  rfl

section Lines

variable {α β : Type} {items : List α} {f : α → Except Fault β} {fault : Fault}

/-- Where each item has a result, so has the whole, and it is made of theirs. -/
theorem exists_mapM_forall₂ {r : α → β → Prop}
    (all : ∀ item ∈ items, ∃ out, f item = .ok out ∧ r item out) :
    ∃ outs, items.mapM f = .ok outs ∧ List.Forall₂ r items outs := by
  induction items with
  | nil => exact ⟨[], rfl, .nil⟩
  | cons item rest ih =>
    obtain ⟨⟨out, first, related⟩, others⟩ := List.forall_mem_cons.mp all
    obtain ⟨outs, others, pairs⟩ := ih others
    exact ⟨out :: outs, by rw [List.mapM_cons, first, others]; rfl, .cons related pairs⟩

theorem exists_mapM_ok (all : ∀ item ∈ items, ∃ out, f item = .ok out) :
    ∃ outs, items.mapM f = .ok outs := by
  obtain ⟨outs, written, -⟩ := exists_mapM_forall₂ (r := fun _ _ => True) fun item member =>
    (all item member).imp fun _ found => ⟨found, trivial⟩
  exact ⟨outs, written⟩

/-- Where all that can fail fails in one way, so does the whole. -/
theorem mapM_eq_error (all : ∀ item ∈ items, (∃ out, f item = .ok out) ∨ f item = .error fault)
    (some : ∃ item ∈ items, f item = .error fault) : items.mapM f = .error fault := by
  induction items with
  | nil =>
    obtain ⟨item, member, -⟩ := some
    cases member
  | cons item rest ih =>
    obtain ⟨first, others⟩ := List.forall_mem_cons.mp all
    rw [List.mapM_cons]
    rcases first with ⟨out, first⟩ | first
    · have later : ∃ item ∈ rest, f item = .error fault := by
        obtain ⟨item', member, failed⟩ := some
        rcases List.mem_cons.mp member with rfl | member
        · exact absurd (first.symm.trans failed) (by simp)
        · exact ⟨item', member, failed⟩
      rw [first, ih others later]
      rfl
    · rw [first]
      rfl

theorem plainNodes_eq (nodes : List Node) :
    plainNodes nodes = (nodes.mapM plainNode).map List.flatten := by
  induction nodes with
  | nil => rfl
  | cons node rest ih =>
    rw [plainNodes, ih, List.mapM_cons]
    cases plainNode node with
    | error fault => rfl
    | ok lines => cases rest.mapM plainNode <;> rfl

theorem exists_plain {tree : Tree}
    (all : ∀ node ∈ tree.children, ∃ lines, plainNode node = .ok lines) :
    ∃ text, tree.plain = .ok text := by
  obtain ⟨lines, written⟩ := exists_mapM_ok all
  exact ⟨_, by rw [Tree.plain, plainNodes_eq, written]; rfl⟩

theorem plain_eq_error {tree : Tree}
    (all : ∀ node ∈ tree.children, (∃ lines, plainNode node = .ok lines) ∨
      plainNode node = .error fault)
    (some : ∃ node ∈ tree.children, plainNode node = .error fault) : tree.plain = .error fault := by
  rw [Tree.plain, plainNodes_eq, mapM_eq_error all some]
  rfl

end Lines

def Node.percentages : Node → List Float
  | .barChart segments => segments.map (·.percentage)
  | _ => []

def Tree.percentages (tree : Tree) : List Float := tree.children.flatMap Node.percentages

/-- Whether a display can be shown: both texts of it are written, and it has no undefined
percentage. -/
structure Showable (tree : Tree) : Prop where
  plain : ∃ text, tree.plain = .ok text
  markup : ∃ text, tree.markup = .ok text
  defined : ∀ percentage ∈ tree.percentages, percentage.isNaN = false

section Summaries

variable {summary : Summary Float} {entries : List TimeEntry} {total : Text × Float}

def segments (summary : Summary Float) : List Segment := summary.totals.mapIdx (segment summary)

theorem exists_total_of_mem (member : bar ∈ segments summary) :
    ∃ total ∈ summary.totals, bar.percentage = summary.share total.2 := by
  obtain ⟨rank, bound, rfl⟩ := List.mem_mapIdx.mp member
  exact ⟨_, List.getElem_mem bound, rfl⟩

theorem exists_segment_of_mem (member : total ∈ summary.totals) :
    ∃ bar ∈ segments summary, bar.percentage = summary.share total.2 := by
  obtain ⟨rank, bound, rfl⟩ := List.mem_iff_getElem.mp member
  exact ⟨_, List.mem_mapIdx.mpr ⟨rank, bound, rfl⟩, rfl⟩

theorem percentages_ofSummary :
    (ofSummary summary).percentages = (segments summary).map (·.percentage) := by
  simp [Tree.percentages, ofSummary, Node.percentages, segments]

/-- Of the nodes of a summary it is the bars that may be refused. -/
theorem plainNode_of_summary {node : Node} (member : node ∈ (ofSummary summary).children) :
    node = .barChart (segments summary) ∨ ∃ lines, plainNode node = .ok lines := by
  simp only [ofSummary, List.mem_cons, List.not_mem_nil, or_false] at member
  rcases member with rfl | rfl | rfl | rfl
  · exact .inr ⟨_, rfl⟩
  · exact .inr ⟨_, rfl⟩
  · exact .inl rfl
  · exact .inr ⟨_, rfl⟩

theorem share_cases (summarizes : Summarizes entries summary) (member : total ∈ summary.totals) :
    total.2.isFinite = true ∧ Within 100 (summary.share total.2) ∨
      total.2.isFinite = false ∧ summary.share total.2 = Float.nan := by
  obtain ⟨-, hours⟩ := summarizes.mem_iff.mp member
  have tracked := projectHours_nonnegative total.1 entries
  have inside := sum_projectHours_le total.1 entries
  have whole := totalHours_nonnegative entries
  rw [← hours] at tracked inside
  rw [totalHours, ← summarizes.total] at inside whole
  cases finite : total.2.isFinite with
  | true => exact .inl ⟨rfl, within_share tracked whole inside finite⟩
  | false => exact .inr ⟨rfl, share_of_infinite tracked whole inside finite⟩

theorem finiteHours_iff (summarizes : Summarizes entries summary) :
    FiniteHours entries ↔ ∀ total ∈ summary.totals, total.2.isFinite = true := by
  constructor
  · rintro finite ⟨name, hours⟩ member
    obtain ⟨named, rfl⟩ := summarizes.mem_iff.mp member
    exact finite name named
  · intro finite name named
    exact finite (name, _) (summarizes.mem_iff.mpr ⟨named, rfl⟩)

theorem segments_cases (summarizes : Summarizes entries summary) (member : bar ∈ segments summary) :
    Within 100 bar.percentage ∨ bar.percentage = Float.nan := by
  obtain ⟨total, inside, same⟩ := exists_total_of_mem member
  rw [same]
  exact (share_cases summarizes inside).imp And.right And.right

/-- With finite hours all bars have a length. -/
theorem within_of_finiteHours (summarizes : Summarizes entries summary)
    (finite : FiniteHours entries) (member : bar ∈ segments summary) :
    Within 100 bar.percentage := by
  obtain ⟨total, inside, same⟩ := exists_total_of_mem member
  rw [same]
  rcases share_cases summarizes inside with ⟨-, within⟩ | ⟨infinite, -⟩
  · exact within
  · exact absurd ((finiteHours_iff summarizes).mp finite total inside) (by simp [infinite])

/-- With infinite hours a bar is undefined. -/
theorem exists_undefined (summarizes : Summarizes entries summary)
    (infinite : ¬ FiniteHours entries) : ∃ bar ∈ segments summary, bar.percentage = Float.nan := by
  rw [finiteHours_iff summarizes] at infinite
  push Not at infinite
  obtain ⟨total, inside, infinite⟩ := infinite
  obtain ⟨bar, member, same⟩ := exists_segment_of_mem inside
  rcases share_cases summarizes inside with ⟨finite, -⟩ | ⟨-, undefined⟩
  · exact absurd finite infinite
  · exact ⟨bar, member, same.trans undefined⟩

theorem showable_ofSummary (summarizes : Summarizes entries summary)
    (finite : FiniteHours entries) : Showable (ofSummary summary) := by
  refine ⟨exists_plain fun node member => ?_, exists_markup_render (.summary summary), ?_⟩
  · rcases plainNode_of_summary member with rfl | written
    · exact exists_mapM_ok fun bar inside =>
        plainSegment_of_within _ (within_of_finiteHours summarizes finite inside)
    · exact written
  · rw [percentages_ofSummary]
    intro percentage member
    obtain ⟨bar, inside, rfl⟩ := List.mem_map.mp member
    exact (within_of_finiteHours summarizes finite inside).isNaN

theorem plain_of_infiniteHours (summarizes : Summarizes entries summary)
    (infinite : ¬ FiniteHours entries) : (ofSummary summary).plain = .error .undefinedBar := by
  obtain ⟨bar, inside, undefined⟩ := exists_undefined summarizes infinite
  have refused : plainNode (.barChart (segments summary)) = .error .undefinedBar :=
    mapM_eq_error (fun bar inside => (segments_cases summarizes inside).imp
      (plainSegment_of_within _) (plainSegment_nan _)) ⟨bar, inside, plainSegment_nan _ undefined⟩
  refine plain_eq_error (fun node member => ?_) ⟨_, by simp [ofSummary, segments], refused⟩
  rcases plainNode_of_summary member with rfl | written
  · exact .inr refused
  · exact .inl written

end Summaries

theorem showable_noEntries : Showable (render .noEntries) where
  plain := ⟨_, rfl⟩
  markup := exists_markup_render .noEntries
  defined := fun _ member => nomatch member

theorem showable_list (rows : List Row) : Showable (render (.list rows)) where
  plain := exists_plain fun node member => by
    obtain rfl := List.mem_singleton.mp member
    refine exists_plainTable fun row inside => ?_
    obtain ⟨_, -, rfl⟩ := List.mem_map.mp inside
    rfl
  markup := exists_markup_render (.list rows)
  defined := fun _ member => nomatch member

variable {entries : List TimeEntry} {kind : ReportKind}

theorem showable_render (finite : kind = .list ∨ FiniteHours entries) :
    Showable (render (aggregate entries kind)) := by
  cases entries with
  | nil => exact showable_noEntries
  | cons entry rest =>
    cases kind with
    | list => exact showable_list _
    | summary =>
      have finite := finite.resolve_left ReportKind.noConfusion
      exact showable_ofSummary (summarizes_summarize (entry :: rest)) finite

theorem plain_render_of_infinite (infinite : ¬ FiniteHours entries) :
    (render (aggregate entries .summary)).plain = .error .undefinedBar := by
  cases entries with
  | nil => exact absurd (fun name named => nomatch named) infinite
  | cons entry rest =>
    exact plain_of_infiniteHours (summarizes_summarize (entry :: rest)) infinite

/-- Every report has its markup, and it can be shown if its kind is a list or the hours of every
project are finite. Otherwise its plain text is refused for a bar that has no length. -/
theorem showable_iff_finite (entries : List TimeEntry) (kind : ReportKind) :
    (∃ markup, (render (aggregate entries kind)).markup = .ok markup) ∧
      (Showable (render (aggregate entries kind)) ↔ kind = .list ∨ FiniteHours entries) ∧
      ((render (aggregate entries kind)).plain = .error .undefinedBar ↔
        kind = .summary ∧ ¬ FiniteHours entries) := by
  refine ⟨exists_markup_render _, ?_⟩
  by_cases finite : kind = .list ∨ FiniteHours entries
  · have showable := showable_render finite
    obtain ⟨text, written⟩ := showable.plain
    refine ⟨iff_of_true showable finite, iff_of_false (by simp [written]) ?_⟩
    rintro ⟨rfl, infinite⟩
    exact infinite (finite.resolve_left ReportKind.noConfusion)
  · obtain ⟨other, infinite⟩ := not_or.mp finite
    cases kind with
    | list => exact absurd rfl other
    | summary =>
      have refused := plain_render_of_infinite infinite
      refine ⟨iff_of_false (fun showable => ?_) finite, iff_of_true refused ⟨rfl, infinite⟩⟩
      obtain ⟨text, written⟩ := showable.plain
      exact absurd (written.symm.trans refused) (by simp)

def endlessEntry : TimeEntry where
  id := 1
  spentDate := Execution.someDay
  hours := Float.inf
  project := ⟨1, "P".text⟩
  task := ⟨2, "T".text⟩
  client := none
  notes := none
  isRunning := false
  hours_nonneg := by decide

theorem endlessEntry_not_showable :
    (render (aggregate [endlessEntry] .summary)).plain = .error .undefinedBar ∧
      ∃ percentage ∈ (render (aggregate [endlessEntry] .summary)).percentages,
        percentage.isNaN = true := by
  have infinite : ¬ FiniteHours [endlessEntry] := by
    intro finite
    have total := finite "P".text (List.mem_singleton.mpr rfl)
    exact absurd total (by decide)
  refine ⟨plain_render_of_infinite infinite, ?_⟩
  obtain ⟨bar, inside, undefined⟩ := exists_undefined (summarizes_summarize [endlessEntry]) infinite
  have shown : Float.nan ∈ (render (aggregate [endlessEntry] .summary)).percentages := by
    rw [← undefined]
    exact percentages_ofSummary ▸ List.mem_map_of_mem inside
  exact ⟨_, shown, rfl⟩

end TimeReports.Display

import Mathlib.Order.Interval.Set.Nat
import TimeReports.Proofs.Grammar

set_option autoImplicit false

namespace TimeReports

namespace DateRange

open Calendar

variable {range other : DateRange} {date day : Date}

def days (range : DateRange) : Set Date := {day | day ∈ range}

theorem mem_days : day ∈ range.days ↔ range.first ≤ day ∧ day ≤ range.last := Iff.rfl

theorem first_mem (range : DateRange) : range.first ∈ range := ⟨Nat.le_refl _, range.ordered⟩

theorem last_mem (range : DateRange) : range.last ∈ range := ⟨range.ordered, Nat.le_refl _⟩

theorem eq_of_ordinals (first : range.first.ordinal = other.first.ordinal)
    (last : range.last.ordinal = other.last.ordinal) : range = other := by
  cases range
  cases other
  have := Date.eq_of_ordinal_eq first
  have := Date.eq_of_ordinal_eq last
  simp_all only

theorem days_injective : Function.Injective days := by
  intro range other same
  have firstIn : range.first ∈ other.days := same ▸ range.first_mem
  have lastIn : range.last ∈ other.days := same ▸ range.last_mem
  have otherFirst : other.first ∈ range.days := same ▸ other.first_mem
  have otherLast : other.last ∈ range.days := same ▸ other.last_mem
  simp only [mem_days, Date.le_iff] at firstIn lastIn otherFirst otherLast
  exact eq_of_ordinals (by omega) (by omega)

/-- The ordinals of a range have no gap, since every one of them is a day's. -/
theorem image_ordinal_days (range : DateRange) :
    Date.ordinal '' range.days = Set.Icc range.first.ordinal range.last.ordinal := by
  ext ordinal
  constructor
  · rintro ⟨day, inside, rfl⟩
    exact inside
  · rintro ⟨first, last⟩
    have positive := range.first.ordinal_pos
    have inCalendar := range.last.ordinal_le_lastOrdinal
    obtain ⟨day, isDay⟩ := Date.exists_ofOrdinal? (positive.trans first) (last.trans inCalendar)
    have counted := Date.ordinal_of_ofOrdinal? isDay
    subst counted
    exact ⟨day, ⟨first, last⟩, rfl⟩

theorem ncard_days (range : DateRange) :
    range.days.ncard = range.last.ordinal + 1 - range.first.ordinal := by
  have injective : Function.Injective Date.ordinal := fun _ _ => Date.eq_of_ordinal_eq
  rw [← Set.ncard_image_of_injective range.days injective, image_ordinal_days, Set.ncard_Icc_nat]

theorem ncard_days_pos (range : DateRange) : 1 ≤ range.days.ncard := by
  have ordered := Date.le_iff.mp range.ordered
  rw [ncard_days]
  omega

theorem days_single (date : Date) : (single date).days = {date} := by
  ext day
  rw [mem_days, Date.le_iff, Date.le_iff, Set.mem_singleton_iff]
  constructor
  · rintro ⟨first, last⟩
    exact Date.eq_of_ordinal_eq (Nat.le_antisymm last first)
  · rintro rfl
    exact ⟨Nat.le_refl _, Nat.le_refl _⟩

theorem days_month (date : Date) :
    (month date).days = {day | day.year = date.year ∧ day.month = date.month} :=
  Set.ext fun _ => mem_month_iff

/-- A range of seven days from a Monday to a Sunday. -/
structure IsWeek (range : DateRange) : Prop where
  monday : range.first.weekday = 0
  sunday : range.last.weekday = 6
  seven : range.days.ncard = 7

theorem IsWeek.last_eq (isWeek : range.IsWeek) :
    range.last.ordinal = range.first.ordinal + 6 := by
  have seven := isWeek.seven
  rw [ncard_days] at seven
  omega

/-- Two weeks with a day in common begin on Mondays less than seven days apart. -/
theorem IsWeek.eq_of_mem (isWeek : range.IsWeek) (isWeek' : other.IsWeek) (inside : day ∈ range)
    (inside' : day ∈ other) : range = other := by
  have monday := isWeek.monday
  have monday' := isWeek'.monday
  have last := isWeek.last_eq
  have last' := isWeek'.last_eq
  obtain ⟨after, before⟩ := inside
  obtain ⟨after', before'⟩ := inside'
  rw [Date.le_iff] at after before after' before'
  unfold Date.weekday at monday monday'
  exact eq_of_ordinals (by omega) (by omega)

theorem isWeek_of_week (found : week date = .ok range) : range.IsWeek := by
  obtain ⟨monday, sixBehind, -⟩ := week_spec found
  refine ⟨monday, ?_, ?_⟩
  · unfold Date.weekday at monday ⊢
    omega
  · rw [ncard_days]
    omega

theorem week_eq_ok_iff : week date = .ok range ↔ range.IsWeek ∧ date ∈ range := by
  constructor
  · intro found
    exact ⟨isWeek_of_week found, (week_spec found).2.2⟩
  · rintro ⟨isWeek, inside⟩
    obtain ⟨after, before⟩ := inside
    have inCalendar := range.last.ordinal_le_lastOrdinal
    have monday := isWeek.monday
    have last := isWeek.last_eq
    rw [Date.le_iff] at after before
    have onTime : (date.ordinal : Int) - date.weekday + 6 ≤ lastOrdinal := by
      unfold Date.weekday at monday ⊢
      omega
    obtain ⟨found, isFound⟩ := exists_week onTime
    have same := isWeek.eq_of_mem (isWeek_of_week isFound) ⟨after, before⟩ (week_spec isFound).2.2
    rw [isFound, same]

/-- The week of New Year's Eve of 2024, a Tuesday. -/
example : week ⟨2024, 12, 31, by decide⟩ =
    .ok ⟨⟨2024, 12, 30, by decide⟩, ⟨2025, 1, 5, by decide⟩, by decide⟩ := by decide +kernel

theorem upTo_eq_ok_iff {before : Nat} :
    upTo date before = .ok range ↔ range.days.ncard = before + 1 ∧ range.last = date := by
  rw [ncard_days]
  constructor
  · intro found
    obtain ⟨first, rfl⟩ := upTo_spec found
    exact ⟨by omega, rfl⟩
  · rintro ⟨count, rfl⟩
    have positive := range.first.ordinal_pos
    obtain ⟨found, isFound⟩ := exists_upTo (show before < range.last.ordinal by omega)
    obtain ⟨first, last⟩ := upTo_spec isFound
    have same : found = range := eq_of_ordinals (by omega) (by rw [last])
    rw [isFound, same]

end DateRange

namespace Query

open Text Calendar

variable {keyword : Text} {words : List Text} {anchor : Date} {range : DateRange}

theorem resolveRange_week_iff : resolveRange "WEEK".text words anchor = .ok range ↔
    words = [] ∧ range.IsWeek ∧ anchor ∈ range := by
  rw [resolveRange_week, nothingBehind_eq_ok_iff, mapError_eq_ok_iff, DateRange.week_eq_ok_iff]

/-- The count of days in front of the anchor is one less than the number that the word writes. -/
theorem resolveRange_past_iff : resolveRange "PAST".text words anchor = .ok range ↔ ∃ count,
    words = [count, "DAYS".text] ∧ isNumeral count = true ∧ count.length ≤ Number.digitLimit ∧
      range.days.ncard = numeralValue count ∧ range.last = anchor := by
  rw [resolveRange_past, pastRange_eq_ok_iff]
  constructor
  · rintro ⟨count, before, isWritten, numeral, read, found⟩
    obtain ⟨short, value⟩ := Number.readNumeral_eq_ok_iff.mp read
    obtain ⟨number, last⟩ := DateRange.upTo_eq_ok_iff.mp found
    exact ⟨count, isWritten, numeral, short, by rw [number, value], last⟩
  · rintro ⟨count, isWritten, numeral, short, number, last⟩
    obtain ⟨before, isNumber⟩ := Nat.exists_eq_add_of_le' range.ncard_days_pos
    exact ⟨count, before, isWritten, numeral,
      Number.readNumeral_eq_ok_iff.mpr ⟨short, by rw [← number, isNumber]⟩,
      DateRange.upTo_eq_ok_iff.mpr ⟨isNumber, last⟩⟩

/-- The anchor is in every range but those that name their dates. -/
theorem anchor_mem_of_resolveRange (relative : keyword ≠ "FROM".text)
    (resolved : resolveRange keyword words anchor = .ok range) : anchor ∈ range := by
  have known : keyword ∈ rangeKeywords := by
    by_contra unknown
    rw [resolveRange_other unknown] at resolved
    cases resolved
  simp only [rangeKeywords, List.mem_cons, List.not_mem_nil, or_false] at known
  rcases known with rfl | rfl | rfl | rfl | rfl
  · rw [resolveRange_today, nothingBehind_eq_ok_iff] at resolved
    obtain ⟨-, found⟩ := resolved
    cases found
    exact (DateRange.single anchor).first_mem
  · exact (resolveRange_week_iff.mp resolved).2.2
  · rw [resolveRange_month, nothingBehind_eq_ok_iff] at resolved
    obtain ⟨-, found⟩ := resolved
    cases found
    exact DateRange.mem_month_iff.mpr ⟨rfl, rfl⟩
  · obtain ⟨count, -, -, -, -, rfl⟩ := resolveRange_past_iff.mp resolved
    exact range.last_mem
  · exact absurd rfl relative

/-- The days that each form of a range means, seen from an anchor day. -/
structure MeansDays (anchor : Date) : Prop where
  today words range : resolveRange "TODAY".text words anchor = .ok range ↔
    words = [] ∧ range.days = {anchor}
  week words range : resolveRange "WEEK".text words anchor = .ok range ↔
    words = [] ∧ range.IsWeek ∧ anchor ∈ range
  /-- The days of a week are those with this same week. -/
  sameWeek words range day : resolveRange "WEEK".text words anchor = .ok range →
    (day ∈ range ↔
      resolveRange "WEEK".text words day = resolveRange "WEEK".text words anchor)
  month words range : resolveRange "MONTH".text words anchor = .ok range ↔
    words = [] ∧ range.days = {day | day.year = anchor.year ∧ day.month = anchor.month}
  /-- Neither today nor the month can lie outside the calendar. -/
  answered : (∃ range, resolveRange "TODAY".text [] anchor = .ok range) ∧
    ∃ range, resolveRange "MONTH".text [] anchor = .ok range
  past words range : resolveRange "PAST".text words anchor = .ok range ↔ ∃ count,
    words = [count, "DAYS".text] ∧ isNumeral count = true ∧ count.length ≤ Number.digitLimit ∧
      range.days.ncard = numeralValue count ∧ range.last = anchor
  fromTo words range : resolveRange "FROM".text words anchor = .ok range ↔ ∃ start stop,
    words = [start, "TO".text, stop] ∧ readLiteral start = .ok range.first ∧
      readLiteral stop = .ok range.last
  inOrder keyword words range : resolveRange keyword words anchor = .ok range →
    range.first ≤ range.last ∧ (keyword ≠ "FROM".text → anchor ∈ range)

/-- From every anchor day each form is resolved to exactly the days that it means. The weeks divide
the days they cover, and every range is in order and, unless it names its dates, holds the
anchor. -/
theorem resolveRange_meansDays (anchor : Date) : MeansDays anchor where
  today words range := by
    rw [resolveRange_today, nothingBehind_eq_ok_iff, Except.ok.injEq, ← DateRange.days_single,
      DateRange.days_injective.eq_iff, @eq_comm _ range]
  week words range := resolveRange_week_iff
  sameWeek words range day resolved := by
    obtain ⟨rfl, isWeek, inside⟩ := resolveRange_week_iff.mp resolved
    rw [resolved, resolveRange_week_iff]
    simp only [isWeek, true_and]
  month words range := by
    rw [resolveRange_month, nothingBehind_eq_ok_iff, Except.ok.injEq, ← DateRange.days_month,
      DateRange.days_injective.eq_iff, @eq_comm _ range]
  answered := ⟨⟨_, resolveRange_today [] anchor⟩, ⟨_, resolveRange_month [] anchor⟩⟩
  past words range := resolveRange_past_iff
  fromTo words range := by rw [resolveRange_from, fromRange_eq_ok_iff]
  inOrder keyword words range resolved :=
    ⟨range.ordered, fun relative => anchor_mem_of_resolveRange relative resolved⟩

end Query
end TimeReports

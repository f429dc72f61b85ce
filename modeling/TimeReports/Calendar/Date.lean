set_option autoImplicit false

namespace TimeReports

namespace Calendar

def isLeap (year : Nat) : Bool := year % 4 == 0 && (year % 100 != 0 || year % 400 == 0)

def monthLength (leap : Bool) : Nat → Nat
  | 2 => if leap then 29 else 28
  | 4 | 6 | 9 | 11 => 30
  | _ => 31

/-- The number of days in front of a month, within its year. -/
def daysBeforeMonth (leap : Bool) (month : Nat) : Nat :=
  let ordinary := [0, 0, 31, 59, 90, 120, 151, 181, 212, 243, 273, 304, 334].getD month 0
  if leap && 2 < month then ordinary + 1 else ordinary

def daysBeforeYear (year : Nat) : Nat :=
  365 * (year - 1) + (year - 1) / 4 - (year - 1) / 100 + (year - 1) / 400

/-- Whether a year, month and day name a day of the calendar. -/
def isDay (year month day : Nat) : Bool :=
  1 ≤ year && year ≤ 9999 && 1 ≤ month && month ≤ 12 && 1 ≤ day
    && day ≤ monthLength (isLeap year) month

def lastOrdinal : Nat := 3652059

def yearOf (ordinal : Nat) : Nat :=
  let near := 400 * (ordinal - 1) / 146097 + 1
  if ordinal ≤ daysBeforeYear near then near - 1
  else if daysBeforeYear (near + 1) < ordinal then near + 1
  else near

/-- The month that the day with this number lies in, within its year. -/
def monthOf (leap : Bool) (dayOfYear : Nat) : Nat :=
  ((List.range 12).filter fun month => daysBeforeMonth leap (month + 1) < dayOfYear).length

/-- A year has about 365.2425 days, on the average. -/
theorem daysBeforeYear_near (year : Nat) :
    400 * daysBeforeYear year ≤ 146097 * (year - 1) + 396 ∧
      146097 * (year - 1) ≤ 400 * daysBeforeYear year + 700 := by
  unfold daysBeforeYear
  omega

theorem daysBeforeYear_yearOf_lt {ordinal : Nat} (h : 1 ≤ ordinal) :
    daysBeforeYear (yearOf ordinal) < ordinal := by
  unfold yearOf
  generalize near_eq : 400 * (ordinal - 1) / 146097 + 1 = near
  dsimp only
  split <;> rename_i before
  · have bound := (daysBeforeYear_near (near - 1)).1
    omega
  · split <;> rename_i after
    · exact after
    · omega

theorem le_daysBeforeYear_yearOf_succ {ordinal : Nat} (h : 1 ≤ ordinal) :
    ordinal ≤ daysBeforeYear (yearOf ordinal + 1) := by
  unfold yearOf
  generalize near_eq : 400 * (ordinal - 1) / 146097 + 1 = near
  dsimp only
  split <;> rename_i before
  · have next : near - 1 + 1 = near := by omega
    rw [next]
    exact before
  · split <;> rename_i after
    · have bound := (daysBeforeYear_near (near + 1 + 1)).2
      omega
    · omega

theorem monthOf_spec : ∀ (leap : Bool) (day : Fin 366), day.val < (if leap then 366 else 365) →
    let month := monthOf leap (day.val + 1)
    1 ≤ month ∧ month ≤ 12 ∧ daysBeforeMonth leap month < day.val + 1
      ∧ day.val + 1 ≤ daysBeforeMonth leap month + monthLength leap month := by
  decide +kernel

theorem div_pred (divisor year : Nat) (h : 1 ≤ year) :
    year / divisor = (year - 1) / divisor + (if year % divisor = 0 then 1 else 0) := by
  obtain ⟨before, rfl⟩ : ∃ before, year = before + 1 := ⟨year - 1, by omega⟩
  rw [Nat.succ_div]
  simp [Nat.dvd_iff_mod_eq_zero]

theorem daysBeforeYear_succ (year : Nat) (h : 1 ≤ year) :
    daysBeforeYear (year + 1) = daysBeforeYear year + (if isLeap year then 366 else 365) := by
  have fourth := div_pred 4 year h
  have hundredth := div_pred 100 year h
  have fourHundredth := div_pred 400 year h
  have enough : (year - 1) / 100 ≤ (year - 1) / 4 := by omega
  have hundred : year % 100 = 0 → year % 4 = 0 := by omega
  have fourHundred : year % 400 = 0 → year % 100 = 0 := by omega
  unfold daysBeforeYear isLeap
  rw [Nat.add_sub_cancel, fourth, hundredth, fourHundredth]
  by_cases a : year % 4 = 0 <;> by_cases b : year % 100 = 0 <;> by_cases c : year % 400 = 0 <;>
    simp [a, b, c] at * <;> omega

end Calendar

structure Date where
  year : Nat
  month : Nat
  day : Nat
  isDay : Calendar.isDay year month day = true
  deriving DecidableEq, Repr

namespace Date

open Calendar

def of? (year month day : Nat) : Option Date :=
  if h : Calendar.isDay year month day = true then some ⟨year, month, day, h⟩ else none

/-- The number of days from the first one of the calendar to this one, both counted. -/
def ordinal (date : Date) : Nat :=
  daysBeforeYear date.year + daysBeforeMonth (isLeap date.year) date.month + date.day

/-- The day with an ordinal, if it lies in the calendar. -/
def ofOrdinal? (ordinal : Nat) : Option Date :=
  if 1 ≤ ordinal ∧ ordinal ≤ lastOrdinal then
    let year := yearOf ordinal
    let dayOfYear := ordinal - daysBeforeYear year
    let month := monthOf (isLeap year) dayOfYear
    of? year month (dayOfYear - daysBeforeMonth (isLeap year) month)
  else none

/-- The day that many days later, or earlier when the number is negative. -/
def addDays? (date : Date) (days : Int) : Option Date :=
  let ordinal := (date.ordinal : Int) + days
  if ordinal < 1 then none else ofOrdinal? ordinal.toNat

/-- The day of the week, from 0 for Monday to 6 for Sunday. -/
def weekday (date : Date) : Nat := (date.ordinal + 6) % 7

/-- The last day of the month that this day lies in. -/
def lastOfMonth (date : Date) : Nat := monthLength (isLeap date.year) date.month

/-- Days are in order when their ordinals are. -/
instance : LE Date := ⟨fun a b => a.ordinal ≤ b.ordinal⟩

instance (a b : Date) : Decidable (a ≤ b) := inferInstanceAs (Decidable (a.ordinal ≤ b.ordinal))

theorem le_iff {a b : Date} : a ≤ b ↔ a.ordinal ≤ b.ordinal := Iff.rfl

theorem eq_of_fields {a b : Date} (year : a.year = b.year) (month : a.month = b.month)
    (day : a.day = b.day) : a = b := by
  cases a; cases b; simp_all

theorem of?_eq_some {year month day : Nat} {date : Date} (h : of? year month day = some date) :
    date.year = year ∧ date.month = month ∧ date.day = day := by
  unfold of? at h
  split at h
  · cases h; simp
  · cases h

/-- Reading an ordinal back gives the ordinal. -/
theorem ordinal_of_ofOrdinal? {ordinal : Nat} {date : Date} (h : ofOrdinal? ordinal = some date) :
    date.ordinal = ordinal := by
  unfold ofOrdinal? at h
  split at h
  case isFalse => cases h
  case isTrue inside =>
    dsimp only at h
    have before := daysBeforeYear_yearOf_lt inside.1
    have upTo := le_daysBeforeYear_yearOf_succ inside.1
    have positive : 1 ≤ yearOf ordinal := by
      unfold yearOf; dsimp only; split <;> rename_i early
      · unfold daysBeforeYear at early; omega
      · split <;> omega
    rw [daysBeforeYear_succ _ positive] at upTo
    have found := of?_eq_some h
    unfold Date.ordinal
    rw [found.1, found.2.1, found.2.2]
    generalize yearOf ordinal = year at *
    have small : ordinal - daysBeforeYear year - 1 < 366 := by split at upTo <;> omega
    have month := monthOf_spec (isLeap year) ⟨ordinal - daysBeforeYear year - 1, small⟩
      (by dsimp only; omega)
    have back : ordinal - daysBeforeYear year - 1 + 1 = ordinal - daysBeforeYear year := by omega
    simp only [back] at month
    omega

/-- Every ordinal of the calendar is a day's. -/
theorem exists_ofOrdinal? {ordinal : Nat} (first : 1 ≤ ordinal) (last : ordinal ≤ lastOrdinal) :
    ∃ date, ofOrdinal? ordinal = some date := by
  have before := daysBeforeYear_yearOf_lt first
  have upTo := le_daysBeforeYear_yearOf_succ first
  have positive : 1 ≤ yearOf ordinal := by
    unfold yearOf; dsimp only; split <;> rename_i early
    · unfold daysBeforeYear at early; omega
    · split <;> omega
  have inCalendar : yearOf ordinal ≤ 9999 := by
    have : daysBeforeYear (yearOf ordinal) < lastOrdinal := by omega
    unfold daysBeforeYear lastOrdinal at this
    omega
  rw [daysBeforeYear_succ _ positive] at upTo
  unfold ofOrdinal?
  rw [if_pos ⟨first, last⟩]
  dsimp only
  generalize yearOf ordinal = year at *
  have small : ordinal - daysBeforeYear year - 1 < 366 := by split at upTo <;> omega
  have month := monthOf_spec (isLeap year) ⟨ordinal - daysBeforeYear year - 1, small⟩
    (by dsimp only; omega)
  have back : ordinal - daysBeforeYear year - 1 + 1 = ordinal - daysBeforeYear year := by omega
  simp only [back] at month
  refine ⟨⟨_, _, _, ?_⟩, dif_pos ?_⟩ <;>
  · simp only [Calendar.isDay, Bool.and_eq_true, decide_eq_true_eq]
    omega

theorem ordinal_of_addDays? {date later : Date} {days : Int} (h : date.addDays? days = some later) :
    (later.ordinal : Int) = date.ordinal + days := by
  unfold addDays? at h
  dsimp only at h
  split at h
  · cases h
  · have := ordinal_of_ofOrdinal? h
    omega

end Date
end TimeReports

import TimeReports.Calendar.Iso
import TimeReports.Number.Read

set_option autoImplicit false

namespace TimeReports

/-- The days from `first` to `last`. -/
structure DateRange where
  first : Date
  last : Date
  ordered : first ≤ last
  deriving DecidableEq

namespace DateRange

/-- The days between two days in order. -/
def of? (first last : Date) : Option DateRange :=
  if h : first ≤ last then some ⟨first, last, h⟩ else none

/-- The days of a range. -/
instance : Membership Date DateRange where
  mem range date := range.first ≤ date ∧ date ≤ range.last

instance (date : Date) (range : DateRange) : Decidable (date ∈ range) :=
  inferInstanceAs (Decidable (_ ∧ _))

def single (date : Date) : DateRange := ⟨date, date, Nat.le_refl _⟩

end DateRange

namespace Calendar

/-- Why a count of days leads to no range. -/
inductive DayFault where
  /-- The count is written with more digits than are read. -/
  | tooManyDigits (digits : Nat)
  /-- The count does not fit in a machine word. -/
  | countTooLarge
  /-- The count goes beyond the longest time span. -/
  | spanTooLong (days : Nat)
  | outsideCalendar
  deriving DecidableEq, Repr

/-- What is said when a count of days leads to no range. -/
def DayFault.message : DayFault → Text
  | .tooManyDigits digits => Number.tooLongMessage digits
  | .countTooLarge => "Python int too large to convert to C int".text
  | .spanTooLong days => "days=".text ++ Text.natDigits days
      ++ "; must have magnitude <= 999999999".text
  | .outsideCalendar => "date value out of range".text

end Calendar

namespace DateRange

open Calendar

def upTo (date : Date) (before : Nat) : Except DayFault DateRange :=
  if 2147483647 < before then .error .countTooLarge
  else if 999999999 < before then .error (.spanTooLong before)
  else
    match h : date.addDays? (-(before : Int)) with
    | none => .error .outsideCalendar
    | some first => .ok ⟨first, date, by
        have := Date.ordinal_of_addDays? h
        rw [Date.le_iff]; omega⟩

/-- The week that a day lies in, from Monday to Sunday. -/
def week (date : Date) : Except DayFault DateRange :=
  match date.addDays? (-(date.weekday : Int)) with
  | none => .error .outsideCalendar
  | some monday =>
    match h : monday.addDays? 6 with
    | none => .error .outsideCalendar
    | some sunday => .ok ⟨monday, sunday, by
        have := Date.ordinal_of_addDays? h
        rw [Date.le_iff]; omega⟩

theorem isDay_of_le {date : Date} {day : Nat} (positive : 1 ≤ day) (h : day ≤ date.lastOfMonth) :
    Calendar.isDay date.year date.month day = true := by
  have fields := date.isDay
  simp only [Calendar.isDay, Bool.and_eq_true, decide_eq_true_eq] at fields ⊢
  exact ⟨⟨fields.1.1, positive⟩, h⟩

theorem one_le_lastOfMonth (date : Date) : 1 ≤ date.lastOfMonth := by
  have fields := date.isDay
  simp only [Calendar.isDay, Bool.and_eq_true, decide_eq_true_eq] at fields
  exact Nat.le_trans fields.1.2 fields.2

def month (date : Date) : DateRange where
  first := ⟨date.year, date.month, 1, isDay_of_le (Nat.le_refl 1) (one_le_lastOfMonth date)⟩
  last := ⟨date.year, date.month, date.lastOfMonth,
    isDay_of_le (one_le_lastOfMonth date) (Nat.le_refl _)⟩
  ordered := Nat.add_le_add_left (one_le_lastOfMonth date) _

end DateRange
end TimeReports

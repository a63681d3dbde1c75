import Mathlib
import DerivedFields.Calendar.Date

/-!
# Years that begin in March

With February at the end of the year a leap day moves no other day: the months from March on start at
fixed places, and a year is longer than another only at its end. The day number of a date counts the
days of the years before and the days of its own year.
-/

namespace DerivedFields

theorem isLeapYear_iff (year : ℤ) :
    isLeapYear year = true ↔ year % 4 = 0 ∧ (year % 100 ≠ 0 ∨ year % 400 = 0) := by
  simp [isLeapYear]

theorem le_daysInMonth (year : ℤ) (month : ℕ) : 28 ≤ daysInMonth year month := by
  fun_cases daysInMonth year month
  all_goals omega

namespace Date

variable {date : Date} {year later : ℤ}

/-! ## Years -/

/-- Days from 0000-03-01 to the first of March of a year. -/
def yearStart (year : ℤ) : ℤ := 365 * year + year / 4 - year / 100 + year / 400

/-- Days of the year that begins in March. -/
def yearLength (year : ℤ) : ℤ := if isLeapYear (year + 1) then 366 else 365

theorem yearLength_mem (year : ℤ) : 365 ≤ yearLength year ∧ yearLength year ≤ 366 := by
  rw [yearLength]
  split <;> omega

theorem yearStart_succ (year : ℤ) : yearStart (year + 1) = yearStart year + yearLength year := by
  have fourth : (year + 1) / 4 = year / 4 + if (year + 1) % 4 = 0 then 1 else 0 := by
    split <;> omega
  have hundredth : (year + 1) / 100 = year / 100 + if (year + 1) % 100 = 0 then 1 else 0 := by
    split <;> omega
  have last : (year + 1) / 400 = year / 400 + if (year + 1) % 400 = 0 then 1 else 0 := by
    split <;> omega
  simp only [yearStart, yearLength, isLeapYear_iff, fourth, hundredth, last]
  clear fourth hundredth last
  split_ifs <;> omega

theorem yearStart_mono (order : year ≤ later) : yearStart year ≤ yearStart later := by
  simp only [yearStart]
  omega

theorem yearStart_add_cycles (year cycles : ℤ) :
    yearStart (year + 400 * cycles) = yearStart year + cycleLength * cycles := by
  simp only [yearStart, cycleLength]
  omega

theorem yearLength_add_cycles (year cycles : ℤ) :
    yearLength (year + 400 * cycles) = yearLength year := by
  have same : isLeapYear (year + 400 * cycles + 1) = isLeapYear (year + 1) := by
    rw [Bool.eq_iff_iff, isLeapYear_iff, isLeapYear_iff]
    omega
  rw [yearLength, yearLength, same]

/-! ## Months -/

/-- Days from the first of March to the start of a month, which is counted from March on. -/
def monthStart (month : ℤ) : ℤ := (153 * month + 2) / 5

theorem monthStart_mono {month next : ℤ} (order : month ≤ next) :
    monthStart month ≤ monthStart next := by
  simp only [monthStart]
  omega

/-- A month other than February ends where the next one starts. -/
theorem monthStart_succ (year : ℤ) {month : ℕ} (inYear : 1 ≤ month ∧ month ≤ 12)
    (notLast : month ≠ 2) :
    monthStart ((month + 9) % 12) + daysInMonth year month =
      monthStart ((month + 9) % 12 + 1) := by
  obtain ⟨least, most⟩ := inYear
  interval_cases month
  case «2» => contradiction
  all_goals rfl

/-- February ends the year. -/
theorem monthStart_february (year : ℤ) :
    monthStart 11 + daysInMonth (year + 1) 2 = yearLength year := by
  rw [daysInMonth, yearLength]
  split <;> rfl

/-! ## The place of a date -/

/-- The year that begins in March and has the date. -/
def marchYear (date : Date) : ℤ := if date.month ≤ 2 then date.year - 1 else date.year

/-- Months since March. -/
def marchMonth (date : Date) : ℤ := (date.month + 9) % 12

/-- Days since the first of March. -/
def dayOfYear (date : Date) : ℤ := monthStart date.marchMonth + (date.day - 1)

theorem dayNumber_eq (date : Date) :
    date.dayNumber = yearStart date.marchYear + date.dayOfYear - epochOffset := by
  rw [dayOfYear, ← Int.add_assoc]
  rfl

theorem marchMonth_mem (date : Date) : 0 ≤ date.marchMonth ∧ date.marchMonth ≤ 11 := by
  rw [marchMonth]
  omega

theorem marchMonth_of_february (february : date.month = 2) : date.marchMonth = 11 := by
  rw [marchMonth, february]
  rfl

/-- Both ways to count months differ by two. -/
theorem monthIndex_eq (date : Date) :
    date.monthIndex = 12 * date.marchYear + date.marchMonth + 2 := by
  have months := date.month_mem
  rw [monthIndex, marchYear, marchMonth]
  split <;> omega

theorem dayOfYear_nonneg (date : Date) : 0 ≤ date.dayOfYear := by
  have first : monthStart 0 = 0 := rfl
  have start := monthStart_mono date.marchMonth_mem.1
  have days := date.day_mem
  rw [dayOfYear]
  omega

theorem dayOfYear_lt_monthStart (notLast : date.month ≠ 2) :
    date.dayOfYear < monthStart (date.marchMonth + 1) := by
  have days := date.day_mem
  rw [dayOfYear, marchMonth, ← monthStart_succ date.year date.month_mem notLast]
  omega

theorem dayOfYear_lt (date : Date) : date.dayOfYear < yearLength date.marchYear := by
  by_cases february : date.month = 2
  · have days := date.day_mem
    have year : date.year = date.marchYear + 1 := by
      rw [marchYear, if_pos (by omega)]
      omega
    rw [february, year] at days
    rw [← monthStart_february, dayOfYear, marchMonth_of_february february]
    omega
  · have months := date.month_mem
    have before : date.marchMonth + 1 ≤ 11 := by
      rw [marchMonth]
      omega
    have last : monthStart 11 = 337 := rfl
    have start := monthStart_mono before
    have ends := dayOfYear_lt_monthStart february
    have length := yearLength_mem date.marchYear
    omega

end Date

end DerivedFields

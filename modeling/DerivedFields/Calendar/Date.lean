/-!
# Dates

Dates of the Gregorian calendar, extended to all years. `dayNumber` counts days from 1970-01-01 on
years that begin in March, so that a leap day is the last of its year; `ofDayNumber?` goes back by
way of the 400-year cycle.
-/

namespace DerivedFields

def isLeapYear (year : Int) : Bool :=
  year % 4 == 0 && (year % 100 != 0 || year % 400 == 0)

def daysInMonth (year : Int) : Nat → Nat
  | 4 | 6 | 9 | 11 => 30
  | 2 => if isLeapYear year then 29 else 28
  | _ => 31

/-- A day of the calendar between the years −262143 and 262142. -/
structure Date where
  year : Int
  month : Nat
  day : Nat
  year_mem : -262143 ≤ year ∧ year ≤ 262142
  month_mem : 1 ≤ month ∧ month ≤ 12
  day_mem : 1 ≤ day ∧ day ≤ daysInMonth year month
  deriving DecidableEq

namespace Date

/-- 1970-01-01. -/
def epoch : Date := ⟨1970, 1, 1, by decide, by decide, by decide⟩

/-- The day with these numbers, if the calendar has it. -/
def make? (year : Int) (month day : Nat) : Option Date :=
  if inYears : -262143 ≤ year ∧ year ≤ 262142 then
    if inMonths : 1 ≤ month ∧ month ≤ 12 then
      if inDays : 1 ≤ day ∧ day ≤ daysInMonth year month then
        some ⟨year, month, day, inYears, inMonths, inDays⟩
      else none
    else none
  else none

/-- Days from 0000-03-01 to 1970-01-01. -/
def epochOffset : Int := 719468

/-- Days in 400 years. -/
def cycleLength : Int := 146097

/-- Days since 1970-01-01. -/
def dayNumber (date : Date) : Int :=
  let year := if date.month ≤ 2 then date.year - 1 else date.year
  let month : Int := (date.month + 9) % 12
  365 * year + year / 4 - year / 100 + year / 400 + (153 * month + 2) / 5 + (date.day - 1) -
    epochOffset

/-- The date that many days after 1970-01-01, if it is in range. -/
def ofDayNumber? (number : Int) : Option Date :=
  let cycle := (number + epochOffset) / cycleLength
  let dayOfCycle := (number + epochOffset) % cycleLength
  let yearOfCycle :=
    (dayOfCycle - dayOfCycle / 1460 + dayOfCycle / 36524 - dayOfCycle / 146096) / 365
  let dayOfYear := dayOfCycle - (365 * yearOfCycle + yearOfCycle / 4 - yearOfCycle / 100)
  let fromMarch := (5 * dayOfYear + 2) / 153
  let day := dayOfYear - (153 * fromMarch + 2) / 5 + 1
  let month := if fromMarch < 10 then fromMarch + 3 else fromMarch - 9
  let year := yearOfCycle + cycle * 400 + if month ≤ 2 then 1 else 0
  make? year month.toNat day.toNat

/-- The day of the week, Monday being zero. -/
def weekday (date : Date) : Nat := ((date.dayNumber + 3) % 7).toNat

/-- Months since the start of year zero. -/
def monthIndex (date : Date) : Int := date.year * 12 + (date.month - 1)

/-- The date some months later or earlier. A day that the month does not have becomes its last. -/
def addMonths? (date : Date) (months : Int) : Option Date :=
  let index := date.monthIndex + months
  let year := index / 12
  let month := (index % 12).toNat + 1
  make? year month (min date.day (daysInMonth year month))

/-- The date some days later or earlier. -/
def addDays? (date : Date) (days : Int) : Option Date := ofDayNumber? (date.dayNumber + days)

/-- Whole months from one date to another. A month counts once its day is reached. -/
def monthsUntil (start finish : Date) : Int :=
  let months := finish.monthIndex - start.monthIndex
  if 0 < months ∧ finish.day < start.day then months - 1
  else if months < 0 ∧ start.day < finish.day then months + 1
  else months

/-- Days from one date to another. -/
def daysUntil (start finish : Date) : Int := finish.dayNumber - start.dayNumber

end Date

end DerivedFields

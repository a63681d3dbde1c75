import DerivedFields.Calendar.Date

/-!
# Times and date-times

A time of day has nanoseconds. A leap second is a second of 59 with a nanosecond count of a whole
second and more; it is shown as second 60.
-/

namespace DerivedFields

/-- Nanoseconds in a second. -/
abbrev nanosPerSecond : Nat := 1000000000

structure TimeOfDay where
  hour : Nat
  minute : Nat
  second : Nat
  nanosecond : Nat
  hour_lt : hour < 24
  minute_lt : minute < 60
  second_lt : second < 60
  nanosecond_lt : nanosecond < 2 * nanosPerSecond
  leap_second : nanosPerSecond ≤ nanosecond → second = 59
  deriving DecidableEq

namespace TimeOfDay

def midnight : TimeOfDay :=
  ⟨0, 0, 0, 0, by decide, by decide, by decide, by decide, by decide⟩

/-- The time with these parts, if the day has it. -/
def make? (hour minute second nanosecond : Nat) : Option TimeOfDay :=
  if inDay : hour < 24 ∧ minute < 60 ∧ second < 60 then
    if inSecond : nanosecond < 2 * nanosPerSecond ∧ (nanosPerSecond ≤ nanosecond → second = 59) then
      some ⟨hour, minute, second, nanosecond, inDay.1, inDay.2.1, inDay.2.2, inSecond.1, inSecond.2⟩
    else none
  else none

/-- The second as a clock shows it: 60 during a leap second. -/
def shownSecond (time : TimeOfDay) : Nat := time.second + time.nanosecond / nanosPerSecond

/-- The fraction of the shown second. -/
def fraction (time : TimeOfDay) : Nat := time.nanosecond % nanosPerSecond

/-- The hour on a dial of twelve. -/
def clockHour (time : TimeOfDay) : Nat := if time.hour % 12 = 0 then 12 else time.hour % 12

end TimeOfDay

structure DateTime where
  date : Date
  time : TimeOfDay
  deriving DecidableEq

/-- The parts of a date that intervals are counted in. -/
inductive CalendarUnit
  | year
  | month
  | day
  deriving DecidableEq

def CalendarUnit.label : CalendarUnit → String
  | .year => "Year"
  | .month => "Month"
  | .day => "Day"

namespace DateTime

/-- The date-time some units later or earlier, at the same time of day. -/
def addInterval? (value : DateTime) (amount : Int) (unit : CalendarUnit) : Option DateTime :=
  let date? := match unit with
    | .year => value.date.addMonths? (12 * amount)
    | .month => value.date.addMonths? amount
    | .day => value.date.addDays? amount
  date?.map fun date => { value with date }

end DateTime

end DerivedFields

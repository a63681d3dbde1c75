import DerivedFields.Calendar.DateTime

/-!
# Parts of a date-time

What has been read of a date-time so far. A part that is read twice must agree with itself. The
hour is kept as its half of the day and its place in it, which are read apart on a dial of twelve.
-/

namespace DerivedFields

structure DateParts where
  year : Option Int
  yearOfCentury : Option Nat
  month : Option Nat
  day : Option Nat
  weekday : Option Nat
  half : Option Nat
  hourOfHalf : Option Nat
  minute : Option Nat
  second : Option Nat
  nanosecond : Option Nat

namespace DateParts

def none : DateParts :=
  ⟨.none, .none, .none, .none, .none, .none, .none, .none, .none, .none⟩

/-- A part with a value read for it, unless another value was read before. -/
def agree? {α : Type} [DecidableEq α] (known : Option α) (value : α) : Option (Option α) :=
  match known with
  | .none => some (some value)
  | .some old => if old = value then some (some value) else .none

def setYear? (parts : DateParts) (year : Int) : Option DateParts :=
  (agree? parts.year year).map fun year => { parts with year }

def setYearOfCentury? (parts : DateParts) (year : Nat) : Option DateParts :=
  (agree? parts.yearOfCentury year).map fun yearOfCentury => { parts with yearOfCentury }

def setMonth? (parts : DateParts) (month : Nat) : Option DateParts :=
  if 1 ≤ month ∧ month ≤ 12 then (agree? parts.month month).map fun month => { parts with month }
  else .none

def setDay? (parts : DateParts) (day : Nat) : Option DateParts :=
  if 1 ≤ day ∧ day ≤ 31 then (agree? parts.day day).map fun day => { parts with day } else .none

def setWeekday? (parts : DateParts) (weekday : Nat) : Option DateParts :=
  (agree? parts.weekday weekday).map fun weekday => { parts with weekday }

/-- Morning is zero, afternoon is one. -/
def setHalf? (parts : DateParts) (half : Nat) : Option DateParts :=
  (agree? parts.half half).map fun half => { parts with half }

def setHourOfHalf? (parts : DateParts) (hour : Nat) : Option DateParts :=
  (agree? parts.hourOfHalf hour).map fun hourOfHalf => { parts with hourOfHalf }

def setHour? (parts : DateParts) (hour : Nat) : Option DateParts :=
  if hour < 24 then (parts.setHalf? (hour / 12)).bind (·.setHourOfHalf? (hour % 12)) else .none

/-- The hour on a dial of twelve. -/
def setClockHour? (parts : DateParts) (hour : Nat) : Option DateParts :=
  if 1 ≤ hour ∧ hour ≤ 12 then parts.setHourOfHalf? (hour % 12) else .none

def setMinute? (parts : DateParts) (minute : Nat) : Option DateParts :=
  if minute < 60 then (agree? parts.minute minute).map fun minute => { parts with minute }
  else .none

/-- A second of 60 is a leap second. -/
def setSecond? (parts : DateParts) (second : Nat) : Option DateParts :=
  if second ≤ 60 then (agree? parts.second second).map fun second => { parts with second }
  else .none

def setNanosecond? (parts : DateParts) (nanosecond : Nat) : Option DateParts :=
  (agree? parts.nanosecond nanosecond).map fun nanosecond => { parts with nanosecond }

/-- The year. Two digits stand for a year from 1970 to 2069, or must be those of the full year. -/
def fullYear? (parts : DateParts) : Option Int :=
  match parts.year, parts.yearOfCentury with
  | year, .none => year
  | .some year, .some short => if 0 ≤ year ∧ year % 100 = short then some year else .none
  | .none, .some short => some (if short < 70 then 2000 + short else 1900 + short)

/-- The date, if year, month and day are known and the weekday is not wrong. -/
def date? (parts : DateParts) : Option Date := do
  let date ← Date.make? (← parts.fullYear?) (← parts.month) (← parts.day)
  match parts.weekday with
  | .none => some date
  | .some weekday => if date.weekday = weekday then some date else .none

/-- The time, if hour and minute are known. Seconds default to zero; a fraction needs seconds. -/
def time? (parts : DateParts) : Option TimeOfDay := do
  let half ← parts.half
  let hour ← parts.hourOfHalf
  let minute ← parts.minute
  match parts.second, parts.nanosecond with
  | .none, .some _ => .none
  | second, nanosecond =>
    let nanosecond := nanosecond.getD 0
    match second.getD 0 with
    | 60 => TimeOfDay.make? (half * 12 + hour) minute 59 (nanosPerSecond + nanosecond)
    | second => TimeOfDay.make? (half * 12 + hour) minute second nanosecond

/-- The date-time, if both date and time are known. -/
def dateTime? (parts : DateParts) : Option DateTime := do
  some ⟨← parts.date?, ← parts.time?⟩

end DateParts

end DerivedFields

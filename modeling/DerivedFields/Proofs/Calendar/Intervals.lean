import DerivedFields.Calendar.DateTime
import DerivedFields.Proofs.Calendar.DayNumbers

/-!
# Intervals

Adding months counts months, whatever their lengths are, and only then looks at the day, which is cut
to the length of the month. Adding days counts days, so it can be undone. Both find a date-time
whenever the calendar has it, and neither touches the time of day.
-/

namespace DerivedFields

namespace Date

variable {start finish : Date} {months days : ℤ}

private theorem addMonths?_eq_some_iff : start.addMonths? months = some finish ↔
    finish.monthIndex = start.monthIndex + months ∧
      finish.day = min start.day (daysInMonth finish.year finish.month) := by
  have range := finish.month_mem
  constructor
  · intro found
    obtain ⟨year, month, day⟩ := make?_eq_some found
    rw [day, ← year, ← month]
    rw [monthIndex, year, month]
    omega
  · rintro ⟨index, day⟩
    have year : finish.monthIndex / 12 = finish.year := by
      rw [monthIndex]
      omega
    have month : (finish.monthIndex % 12).toNat + 1 = finish.month := by
      rw [monthIndex]
      omega
    rw [addMonths?, ← index, year, month, ← day, make?_self]

/-- A day that all months have is never cut, so every month counts. -/
theorem monthsUntil_of_addMonths? (shifted : start.addMonths? months = some finish)
    (early : start.day ≤ 28) : start.monthsUntil finish = months := by
  obtain ⟨index, day⟩ := addMonths?_eq_some_iff.mp shifted
  have length := le_daysInMonth finish.year finish.month
  have sameDay : finish.day = start.day := day.trans (min_eq_left (early.trans length))
  rw [monthsUntil, index, sameDay]
  simp

/-- A date lies some days after another, or before it if the number is negative. The days are
counted one by one. -/
def IsDaysFrom (start : Date) (days : ℤ) (finish : Date) : Prop :=
  (0 ≤ days → start.later? days.toNat = some finish) ∧
    (days ≤ 0 → finish.later? (-days).toNat = some start)

private theorem isDaysFrom_iff : start.IsDaysFrom days finish ↔
    finish.dayNumber = start.dayNumber + days := by
  rw [IsDaysFrom, later?_eq_some_iff, later?_eq_some_iff]
  omega

private theorem addDays?_eq_some_iff_isDaysFrom :
    start.addDays? days = some finish ↔ start.IsDaysFrom days finish := by
  rw [addDays?_eq_some_iff, isDaysFrom_iff]

private theorem addDays?_neg (shifted : start.addDays? days = some finish) :
    finish.addDays? (-days) = some start := by
  rw [addDays?_eq_some_iff] at shifted ⊢
  omega

private theorem daysUntil_of_addDays? (shifted : start.addDays? days = some finish) :
    start.daysUntil finish = days := by
  rw [addDays?_eq_some_iff] at shifted
  rw [daysUntil]
  omega

end Date

namespace DateTime

variable {value shifted : DateTime} {amount : ℤ}

private theorem map_date_eq_some_iff {date? : Option Date} :
    (date?.map fun date => { value with date }) = some shifted ↔
      date? = some shifted.date ∧ shifted.time = value.time := by
  obtain ⟨date, time⟩ := shifted
  rw [Option.map_eq_some_iff]
  constructor
  · rintro ⟨found, rfl, same⟩
    obtain ⟨rfl, rfl⟩ := mk.inj same
    exact ⟨rfl, rfl⟩
  · rintro ⟨found, rfl⟩
    exact ⟨date, found, rfl⟩

/-- Some months later is the date-time in the month that many months on, with the same time and the
same day or the last of the month if it has no such day. Years are twelve months. Some days later is
the date-time at the same time that many days on, from which the same number of days leads back. -/
theorem addInterval?_exact (value shifted : DateTime) (amount : ℤ) :
    (value.addInterval? amount .month = some shifted ↔
      12 * shifted.date.year + shifted.date.month =
          12 * value.date.year + value.date.month + amount ∧
        shifted.date.day = min value.date.day (daysInMonth shifted.date.year shifted.date.month) ∧
        shifted.time = value.time) ∧
    (value.addInterval? amount .month = some shifted → value.date.day ≤ 28 →
      value.date.monthsUntil shifted.date = amount) ∧
    value.addInterval? amount .year = value.addInterval? (12 * amount) .month ∧
    (value.addInterval? amount .day = some shifted ↔
      value.date.IsDaysFrom amount shifted.date ∧ shifted.time = value.time) ∧
    (value.addInterval? amount .day = some shifted →
      shifted.addInterval? (-amount) .day = some value ∧
        value.date.daysUntil shifted.date = amount) := by
  have month : value.addInterval? amount .month = some shifted ↔
      value.date.addMonths? amount = some shifted.date ∧ shifted.time = value.time :=
    map_date_eq_some_iff
  have day : value.addInterval? amount .day = some shifted ↔
      value.date.addDays? amount = some shifted.date ∧ shifted.time = value.time :=
    map_date_eq_some_iff
  refine ⟨?_, ?_, rfl, ?_, ?_⟩
  · rw [month, Date.addMonths?_eq_some_iff, Date.monthIndex, Date.monthIndex, and_assoc]
    refine and_congr_left fun _ => ?_
    omega
  · intro found early
    exact Date.monthsUntil_of_addMonths? (month.mp found).1 early
  · rw [day, Date.addDays?_eq_some_iff_isDaysFrom]
  · intro found
    obtain ⟨date, time⟩ := day.mp found
    exact ⟨map_date_eq_some_iff.mpr ⟨Date.addDays?_neg date, time.symm⟩,
      Date.daysUntil_of_addDays? date⟩

/-- A year and 366 days from a leap second, the latter to a leap day and back. -/
theorem addInterval?_exact_leap_day :
    let time : TimeOfDay :=
      ⟨23, 59, 59, 1000000000, by decide, by decide, by decide, by decide, by decide⟩
    let value : DateTime := ⟨⟨2023, 2, 28, by decide, by decide, by decide⟩, time⟩
    let nextYear : DateTime := ⟨⟨2024, 2, 28, by decide, by decide, by decide⟩, time⟩
    let leapDay : DateTime := ⟨⟨2024, 2, 29, by decide, by decide, by decide⟩, time⟩
    (value.addInterval? 12 .month = some nextYear ∧ value.date.day ≤ 28 ∧
        value.date.monthsUntil nextYear.date = 12) ∧
      value.addInterval? 366 .day = some leapDay ∧
        leapDay.addInterval? (-366) .day = some value ∧
        value.date.daysUntil leapDay.date = 366 := by
  intro time value nextYear leapDay
  have months : value.addInterval? 12 .month = some nextYear := by decide
  have days : value.addInterval? 366 .day = some leapDay := by decide
  have early : value.date.day ≤ 28 := by decide
  obtain ⟨-, counted, -, -, -⟩ := addInterval?_exact value nextYear 12
  obtain ⟨-, -, -, -, undone⟩ := addInterval?_exact value leapDay 366
  exact ⟨⟨months, early, counted months early⟩, days, undone days⟩

end DateTime

end DerivedFields

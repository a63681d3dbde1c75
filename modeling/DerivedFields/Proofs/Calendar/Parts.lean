import DerivedFields.Calendar.Parts

/-!
# Date-times of their parts

A date-time is known from its parts: the date from year, month and day, and the time from the hour,
the minute, the second that a clock shows and the fraction of that second.
-/

namespace DerivedFields

/-! ## Dates and times -/

theorem Date.make?_self (date : Date) : make? date.year date.month date.day = some date := by
  rw [make?, dif_pos date.year_mem, dif_pos date.month_mem, dif_pos date.day_mem]

theorem Date.make?_eq_some {year : Int} {month day : Nat} {date : Date}
    (made : make? year month day = some date) :
    date.year = year ∧ date.month = month ∧ date.day = day := by
  rw [make?] at made
  split at made
  · split at made
    · split at made
      · obtain rfl := Option.some.inj made
        exact ⟨rfl, rfl, rfl⟩
      · cases made
    · cases made
  · cases made

theorem daysInMonth_le (year : Int) (month : Nat) : daysInMonth year month ≤ 31 := by
  fun_cases daysInMonth year month
  all_goals omega

theorem TimeOfDay.shownSecond_le (time : TimeOfDay) : time.shownSecond ≤ 60 := by
  have second := time.second_lt
  have nanosecond := time.nanosecond_lt
  rw [nanosPerSecond] at nanosecond
  rw [shownSecond, nanosPerSecond]
  omega

private theorem TimeOfDay.make?_self (time : TimeOfDay) :
    make? time.hour time.minute time.second time.nanosecond = some time := by
  rw [make?, dif_pos ⟨time.hour_lt, time.minute_lt, time.second_lt⟩,
    dif_pos ⟨time.nanosecond_lt, time.leap_second⟩]

/-- The date is known from its year, month and day. -/
theorem DateParts.date?_of_day (date : Date) {parts : DateParts}
    (year : parts.year = some date.year) (noShortYear : parts.yearOfCentury = .none) (month : parts.month = some date.month)
    (day : parts.day = some date.day) (noWeekday : parts.weekday = .none) :
    parts.date? = some date := by
  have full : parts.fullYear? = some date.year := by rw [fullYear?, year, noShortYear]
  simp only [date?, full, month, day, noWeekday, date.make?_self, Option.bind_eq_bind,
    Option.bind_some]

/-- The time is known from its shown second and the fraction of that. -/
theorem DateParts.time?_of_shown (time : TimeOfDay) {parts : DateParts}
    (half : parts.half = some (time.hour / 12))
    (hourOfHalf : parts.hourOfHalf = some (time.hour % 12))
    (minute : parts.minute = some time.minute) (second : parts.second = some time.shownSecond)
    (fraction : parts.nanosecond.getD 0 = time.fraction) : parts.time? = some time := by
  have hour : time.hour / 12 * 12 + time.hour % 12 = time.hour := Nat.div_add_mod' time.hour 12
  have second_lt := time.second_lt
  have nanosecond_lt := time.nanosecond_lt
  simp only [time?, half, hourOfHalf, minute, second, fraction, Option.bind_eq_bind,
    Option.bind_some, hour, Option.getD_some]
  rw [TimeOfDay.shownSecond, TimeOfDay.fraction]
  by_cases leap : nanosPerSecond ≤ time.nanosecond
  · have last := time.leap_second leap
    have once : time.nanosecond / nanosPerSecond = 1 := by
      rw [nanosPerSecond] at leap nanosecond_lt ⊢
      omega
    have rest : nanosPerSecond + time.nanosecond % nanosPerSecond = time.nanosecond := by
      rw [nanosPerSecond] at leap nanosecond_lt ⊢
      omega
    simp only [last, once, rest]
    rw [← last]
    exact time.make?_self
  · have never : time.nanosecond / nanosPerSecond = 0 := Nat.div_eq_of_lt (Nat.not_le.mp leap)
    have rest : time.nanosecond % nanosPerSecond = time.nanosecond :=
      Nat.mod_eq_of_lt (Nat.not_le.mp leap)
    simp only [never, rest, Nat.add_zero]
    split
    · omega
    · exact time.make?_self

namespace DateParts

variable {parts : DateParts}

/-! ## Parts one after the other -/

theorem setMonth?_unknown {month : Nat} (inYear : 1 ≤ month ∧ month ≤ 12)
    (unknown : parts.month = .none) :
    parts.setMonth? month = some { parts with month } := by
  rw [setMonth?, if_pos inYear, unknown]
  rfl

theorem setDay?_unknown {day : Nat} (inMonth : 1 ≤ day ∧ day ≤ 31) (unknown : parts.day = .none) :
    parts.setDay? day = some { parts with day } := by
  rw [setDay?, if_pos inMonth, unknown]
  rfl

theorem setHour?_unknown {hour : Nat} (inDay : hour < 24) (unknown : parts.half = .none)
    (unknownHour : parts.hourOfHalf = .none) :
    parts.setHour? hour =
      some { parts with half := some (hour / 12), hourOfHalf := some (hour % 12) } := by
  rw [setHour?, if_pos inDay, setHalf?, unknown]
  change setHourOfHalf? { parts with half := some (hour / 12) } (hour % 12) = _
  rw [setHourOfHalf?, unknownHour]
  rfl

theorem setMinute?_unknown {minute : Nat} (inHour : minute < 60) (unknown : parts.minute = .none) :
    parts.setMinute? minute = some { parts with minute } := by
  rw [setMinute?, if_pos inHour, unknown]
  rfl

theorem setSecond?_unknown {second : Nat} (inMinute : second ≤ 60)
    (unknown : parts.second = .none) :
    parts.setSecond? second = some { parts with second } := by
  rw [setSecond?, if_pos inMinute, unknown]
  rfl

end DateParts

end DerivedFields

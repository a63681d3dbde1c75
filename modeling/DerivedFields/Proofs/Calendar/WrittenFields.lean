import DerivedFields.Proofs.Calendar.KnownParts

/-!
# Fields that are read again

The supported masks have numbers with all their digits, names of months and halves of the day. What such
a field shows of a date-time has the form of the field, and is read as the number that was written. That
number agrees with whatever other fields have shown of the same date-time, so it can be recorded. Only a
year that needs a sign is not read again.
-/

namespace DerivedFields

/-- The year has four digits. -/
def Date.IsShort (date : Date) : Prop := 0 ≤ date.year ∧ date.year ≤ 9999

namespace DateField

/-- The fields of the supported masks. -/
inductive IsCommon : DateField → Prop
  | year : IsCommon (.year true)
  | month : IsCommon (.month true)
  | monthName : IsCommon (.monthName true)
  | day : IsCommon (.day true)
  | hour : IsCommon (.hour true)
  | clockHour : IsCommon (.clockHour true)
  | minute : IsCommon (.minute true)
  | second : IsCommon (.second true)
  | halfDay : IsCommon .halfDay

instance (part : DateField) : Decidable part.IsCommon :=
  decidable_of_iff (part ∈ [.year true, .month true, .monthName true, .day true, .hour true,
    .clockHour true, .minute true, .second true, .halfDay]) <| by
    constructor
    · intro member
      simp only [List.mem_cons, List.not_mem_nil, or_false] at member
      rcases member with rfl | rfl | rfl | rfl | rfl | rfl | rfl | rfl | rfl
      all_goals constructor
    · intro common
      cases common <;> decide

/-- The number that a date-time has for a field, as the reader counts it. -/
def number (value : DateTime) : DateField → ℕ
  | .year _ => value.date.year.toNat
  | .yearOfCentury => (value.date.year % 100).toNat
  | .month _ => value.date.month
  | .monthName _ => value.date.month - 1
  | .day _ => value.date.day
  | .weekday _ => value.date.weekday
  | .hour _ => value.time.hour
  | .clockHour _ => value.time.clockHour
  | .minute _ => value.time.minute
  | .second _ => value.time.shownSecond
  | .fraction places => value.time.fraction / 10 ^ (9 - places) * 10 ^ (9 - places)
  | .halfDay => value.time.hour / 12

variable {part : DateField} {value : DateTime}

private theorem readName?_nameText {month : ℕ} (inYear : 1 ≤ month ∧ month ≤ 12) (rest : List Char) :
    Calendar.readName? true Calendar.months
      (Calendar.nameText true Calendar.months (month - 1) ++ rest) = some (month - 1, rest) := by
  obtain ⟨least, most⟩ := inYear
  interval_cases month <;> rfl

private theorem admitsName_nameText {month : ℕ} (inYear : 1 ≤ month ∧ month ≤ 12) :
    admitsName true (Calendar.nameText true Calendar.months (month - 1)) = true := by
  obtain ⟨least, most⟩ := inYear
  interval_cases month <;> decide

private theorem trimStart_nameText {month : ℕ} (inYear : 1 ≤ month ∧ month ≤ 12) (rest : List Char) :
    Text.trimStart (Calendar.nameText true Calendar.months (month - 1) ++ rest) =
      Calendar.nameText true Calendar.months (month - 1) ++ rest := by
  obtain ⟨least, most⟩ := inYear
  interval_cases month <;> rfl

private theorem admitsDigits_padded {width n : ℕ} (positive : width ≠ 0) (small : n < 10 ^ width) :
    admitsDigits width width (padded width n) = true := by
  have digits : (padded width n).all Text.isDecimalDigit = true :=
    List.all_eq_true.mpr fun c member => Text.isDecimalDigit_of_isDigit (isDigit_of_mem_padded member)
  rw [admitsDigits, length_padded positive small, digits]
  simp

private theorem clockHour_mem (time : TimeOfDay) : 1 ≤ time.clockHour ∧ time.clockHour ≤ 12 := by
  rw [TimeOfDay.clockHour]
  split <;> omega

private theorem clockHour_mod (time : TimeOfDay) : time.clockHour % 12 = time.hour % 12 := by
  rw [TimeOfDay.clockHour]
  split <;> omega

/-- A common field is written as a number of its width, or as a name. -/
theorem write_common (common : part.IsCommon) (short : value.date.IsShort) :
    (∃ width, part.fixedWidth? = some width ∧ part.number value < 10 ^ width ∧
      part.write value = padded width (part.number value) ∧ part.readValue? = readNumber? width) ∨
    part = .monthName true ∨ part = .halfDay := by
  have months := value.date.month_mem
  have days := value.date.day_mem.2.trans (daysInMonth_le value.date.year value.date.month)
  have hours := value.time.hour_lt
  have minutes := value.time.minute_lt
  have seconds := value.time.shownSecond_le
  have clock := clockHour_mem value.time
  cases common with
  | year =>
    have ⟨least, most⟩ := short
    refine .inl ⟨4, rfl, show value.date.year.toNat < 10000 by omega, ?_, rfl⟩
    rw [write, yearText, if_pos ⟨least, most⟩, number]
  | monthName => exact .inr (.inl rfl)
  | halfDay => exact .inr (.inr rfl)
  | month => exact .inl ⟨2, rfl, show value.date.month < 100 by omega, rfl, rfl⟩
  | day => exact .inl ⟨2, rfl, show value.date.day < 100 by omega, rfl, rfl⟩
  | hour => exact .inl ⟨2, rfl, show value.time.hour < 100 by omega, rfl, rfl⟩
  | clockHour => exact .inl ⟨2, rfl, show value.time.clockHour < 100 by omega, rfl, rfl⟩
  | minute => exact .inl ⟨2, rfl, show value.time.minute < 100 by omega, rfl, rfl⟩
  | second => exact .inl ⟨2, rfl, show value.time.shownSecond < 100 by omega, rfl, rfl⟩

private theorem write_halfDay (value : DateTime) :
    (write value .halfDay = ['A', 'M'] ∧ number value .halfDay = 0) ∨
      (write value .halfDay = ['P', 'M'] ∧ number value .halfDay = 1) := by
  have hours := value.time.hour_lt
  rw [write, number]
  split
  · exact .inl ⟨rfl, by omega⟩
  · exact .inr ⟨rfl, by omega⟩

section
variable (common : part.IsCommon) (short : value.date.IsShort)
include common short

theorem readValue?_write (rest : List Char) :
    part.readValue? (part.write value ++ rest) = some (part.number value, rest) := by
  rcases write_common common short with ⟨width, fixed, small, written, read⟩ | rfl | rfl
  · rw [written, read, readNumber?_padded (width_pos fixed).ne' small]
  · exact readName?_nameText value.date.month_mem rest
  · rcases write_halfDay value with ⟨written, number⟩ | ⟨written, number⟩
    · rw [written, number]
      rfl
    · rw [written, number]
      rfl

theorem admits_write : part.admits (part.write value) = true := by
  rcases write_common common short with ⟨width, fixed, small, written, -⟩ | rfl | rfl
  · rw [written, admits_fixed fixed, admitsDigits_padded (width_pos fixed).ne' small]
  · exact admitsName_nameText value.date.month_mem
  · rcases write_halfDay value with ⟨written, -⟩ | ⟨written, -⟩
    · rw [written]
      rfl
    · rw [written]
      rfl

theorem trimStart_write (rest : List Char) :
    Text.trimStart (part.write value ++ rest) = part.write value ++ rest := by
  rcases write_common common short with ⟨width, fixed, small, written, -⟩ | rfl | rfl
  · rw [written, trimStart_padded]
  · exact trimStart_nameText value.date.month_mem rest
  · rcases write_halfDay value with ⟨written, -⟩ | ⟨written, -⟩
    · rw [written]
      rfl
    · rw [written]
      rfl

end

end DateField

/-- The date-time has the parts that are known of it. -/
structure DateTime.Shows (value : DateTime) (parts : DateParts) : Prop where
  date : value.date.Shows parts
  time : value.time.Shows parts

theorem DateTime.shows_none (value : DateTime) : value.Shows DateParts.none :=
  ⟨⟨nofun, nofun, nofun⟩, ⟨nofun, nofun, nofun, nofun, nofun⟩⟩

private theorem DateParts.agree?_of_eq {α : Type} [DecidableEq α] {known : Option α} {value : α}
    (same : ∀ old, known = some old → value = old) : agree? known value = some (some value) := by
  cases known with
  | none => rfl
  | some old => rw [agree?, if_pos (same old rfl).symm]

namespace DateField

variable {part : DateField} {value : DateTime} {parts next : DateParts}

/-- The parts know what a common field shows of a date-time. -/
def IsTold (value : DateTime) (parts : DateParts) : DateField → Prop
  | .year _ => parts.year = some value.date.year
  | .month _ | .monthName _ => parts.month = some value.date.month
  | .day _ => parts.day = some value.date.day
  | .hour _ => parts.half = some (value.time.hour / 12) ∧
      parts.hourOfHalf = some (value.time.hour % 12)
  | .clockHour _ => parts.hourOfHalf = some (value.time.hour % 12)
  | .halfDay => parts.half = some (value.time.hour / 12)
  | .minute _ => parts.minute = some value.time.minute
  | .second _ => parts.second = some value.time.shownSecond
  | .yearOfCentury | .weekday _ | .fraction _ => False

theorem IsTold.mono (told : part.IsTold value parts) (extend : next.Extends parts) :
    part.IsTold value next := by
  cases part with
  | year => exact extend.year _ told
  | month | monthName => exact extend.month _ told
  | day => exact extend.day _ told
  | hour => exact ⟨extend.half _ told.1, extend.hourOfHalf _ told.2⟩
  | clockHour => exact extend.hourOfHalf _ told
  | halfDay => exact extend.half _ told
  | minute => exact extend.minute _ told
  | second => exact extend.second _ told
  | yearOfCentury | weekday | fraction => exact told.elim

/-- The parts, with what a common field shows of a date-time. -/
def tell (value : DateTime) (parts : DateParts) : DateField → DateParts
  | .year _ => { parts with year := some value.date.year }
  | .month _ | .monthName _ => { parts with month := some value.date.month }
  | .day _ => { parts with day := some value.date.day }
  | .hour _ => { parts with
      half := some (value.time.hour / 12), hourOfHalf := some (value.time.hour % 12) }
  | .clockHour _ => { parts with hourOfHalf := some (value.time.hour % 12) }
  | .halfDay => { parts with half := some (value.time.hour / 12) }
  | .minute _ => { parts with minute := some value.time.minute }
  | .second _ => { parts with second := some value.time.shownSecond }
  | .yearOfCentury | .weekday _ | .fraction _ => parts

theorem isTold_tell (common : part.IsCommon) : part.IsTold value (part.tell value parts) := by
  cases common with
  | hour => exact ⟨rfl, rfl⟩
  | _ => rfl

section

variable (shown : value.Shows parts)

include shown

theorem shows_tell : value.Shows (part.tell value parts) := by
  obtain ⟨⟨year, month, day⟩, ⟨half, hourOfHalf, minute, second, nanosecond⟩⟩ := shown
  cases part
  all_goals constructor <;> constructor <;> grind [tell]

theorem extends_tell : (part.tell value parts).Extends parts := by
  obtain ⟨⟨year, month, day⟩, ⟨half, hourOfHalf, minute, second, nanosecond⟩⟩ := shown
  cases part
  all_goals constructor <;> grind [tell]

/-- The number of a common field can be recorded again. -/
theorem record?_number (common : part.IsCommon) (short : value.date.IsShort) :
    record? parts part (part.number value) = some (part.tell value parts) := by
  obtain ⟨⟨year, month, day⟩, ⟨half, hourOfHalf, minute, second, nanosecond⟩⟩ := shown
  have inYear := value.date.month_mem
  have inMonth : 1 ≤ value.date.day ∧ value.date.day ≤ 31 :=
    ⟨value.date.day_mem.1, value.date.day_mem.2.trans (daysInMonth_le _ _)⟩
  cases common with
  | year =>
    have number : (value.date.year.toNat : ℤ) = value.date.year := Int.toNat_of_nonneg short.1
    change parts.setYear? value.date.year.toNat = _
    rw [number, DateParts.setYear?, DateParts.agree?_of_eq year]
    rfl
  | month =>
    change parts.setMonth? value.date.month = _
    rw [DateParts.setMonth?, if_pos inYear, DateParts.agree?_of_eq month]
    rfl
  | monthName =>
    have number : value.date.month - 1 + 1 = value.date.month := Nat.sub_add_cancel inYear.1
    change parts.setMonth? (value.date.month - 1 + 1) = _
    rw [number, DateParts.setMonth?, if_pos inYear, DateParts.agree?_of_eq month]
    rfl
  | day =>
    change parts.setDay? value.date.day = _
    rw [DateParts.setDay?, if_pos inMonth, DateParts.agree?_of_eq day]
    rfl
  | hour =>
    change parts.setHour? value.time.hour = _
    rw [DateParts.setHour?, if_pos value.time.hour_lt, DateParts.setHalf?, DateParts.agree?_of_eq half]
    change DateParts.setHourOfHalf? { parts with half := some (value.time.hour / 12) } _ = _
    rw [DateParts.setHourOfHalf?, DateParts.agree?_of_eq hourOfHalf]
    rfl
  | clockHour =>
    change parts.setClockHour? value.time.clockHour = _
    rw [DateParts.setClockHour?, if_pos (clockHour_mem value.time), clockHour_mod,
      DateParts.setHourOfHalf?, DateParts.agree?_of_eq hourOfHalf]
    rfl
  | minute =>
    change parts.setMinute? value.time.minute = _
    rw [DateParts.setMinute?, if_pos value.time.minute_lt, DateParts.agree?_of_eq minute]
    rfl
  | second =>
    change parts.setSecond? value.time.shownSecond = _
    rw [DateParts.setSecond?, if_pos value.time.shownSecond_le, DateParts.agree?_of_eq second]
    rfl
  | halfDay =>
    change parts.setHalf? (value.time.hour / 12) = _
    rw [DateParts.setHalf?, DateParts.agree?_of_eq half]
    rfl

end

end DateField

/-- What common fields can make known: a year of four digits, no fraction of a second, and nothing that
a year or a date must agree with. -/
structure DateParts.IsPlain (parts : DateParts) : Prop where
  year : ∀ known, parts.year = some known → 0 ≤ known ∧ known ≤ 9999
  yearOfCentury : parts.yearOfCentury = .none
  weekday : parts.weekday = .none
  nanosecond : parts.nanosecond = .none

theorem DateParts.isPlain_none : DateParts.none.IsPlain := ⟨nofun, rfl, rfl, rfl⟩

namespace DateField

variable {part : DateField} {parts next : DateParts} {n : ℕ} {text rest : List Char}

private theorem readNumber?_lt {width : ℕ} (read : readNumber? width text = some (n, rest)) :
    n < 10 ^ width := by
  obtain ⟨digits, -, -, all, few, rfl⟩ := readNumber?_eq_some read
  exact (Decimal.ofDigitChars_lt all).trans_le (Nat.pow_le_pow_right (by decide) few)

theorem plain_of_record? (common : part.IsCommon) (plain : parts.IsPlain)
    (read : part.readValue? text = some (n, rest)) (recorded : record? parts part n = some next) :
    next.IsPlain ∧ (part.isDatePart = true → next.hourOfHalf = parts.hourOfHalf) := by
  obtain ⟨year, yearOfCentury, weekday, nanosecond⟩ := plain
  cases common with
  | year =>
    have small : n < 10 ^ 4 := readNumber?_lt read
    obtain ⟨rfl, -⟩ := DateParts.map_agree?_eq_some recorded
    refine ⟨⟨?_, yearOfCentury, weekday, nanosecond⟩, fun _ => rfl⟩
    rintro _ ⟨⟩
    omega
  | month | monthName | day =>
    obtain ⟨-, recorded⟩ := Option.ite_none_right_eq_some.mp recorded
    obtain ⟨rfl, -⟩ := DateParts.map_agree?_eq_some recorded
    exact ⟨⟨year, yearOfCentury, weekday, nanosecond⟩, fun _ => rfl⟩
  | hour =>
    obtain ⟨-, recorded⟩ := Option.ite_none_right_eq_some.mp recorded
    obtain ⟨halved, first, second⟩ := Option.bind_eq_some_iff.mp recorded
    obtain ⟨rfl, -⟩ := DateParts.map_agree?_eq_some first
    obtain ⟨rfl, -⟩ := DateParts.map_agree?_eq_some second
    exact ⟨⟨year, yearOfCentury, weekday, nanosecond⟩, nofun⟩
  | clockHour | minute | second =>
    obtain ⟨-, recorded⟩ := Option.ite_none_right_eq_some.mp recorded
    obtain ⟨rfl, -⟩ := DateParts.map_agree?_eq_some recorded
    exact ⟨⟨year, yearOfCentury, weekday, nanosecond⟩, nofun⟩
  | halfDay =>
    obtain ⟨rfl, -⟩ := DateParts.map_agree?_eq_some recorded
    exact ⟨⟨year, yearOfCentury, weekday, nanosecond⟩, nofun⟩

end DateField

end DerivedFields

import DerivedFields.Proofs.Calendar.MarchYears
import DerivedFields.Proofs.Calendar.Parts

/-!
# Day numbers

Counting days and taking a date apart into its year, month and day are inverse to each other. The
day number of the next day is one more, so the date with a day number that is greater by some days is
the one that many days later, and a date is before another exactly if its number is less.
-/

namespace DerivedFields.Date

variable {first second date next : Date} {number : ℤ}

/-! ## Order -/

/-- The order of the calendar: by year, then by month, then by day. -/
def Before (first second : Date) : Prop :=
  first.year < second.year ∨ first.year = second.year ∧
    (first.month < second.month ∨ first.month = second.month ∧ first.day < second.day)

theorem before_iff_monthIndex : first.Before second ↔ first.monthIndex < second.monthIndex ∨
    first.monthIndex = second.monthIndex ∧ first.day < second.day := by
  have months := first.month_mem
  have others := second.month_mem
  simp only [Before, monthIndex]
  omega

private theorem eq_of_not_before (notBefore : ¬ first.Before second)
    (notAfter : ¬ second.Before first) :
    first = second := by
  obtain ⟨year, month, day, _, _, _⟩ := first
  obtain ⟨otherYear, otherMonth, otherDay, _, _, _⟩ := second
  simp only [Before] at notBefore notAfter
  obtain rfl : year = otherYear := by omega
  obtain rfl : month = otherMonth := by omega
  obtain rfl : day = otherDay := by omega
  rfl

theorem dayNumber_lt_of_before (before : first.Before second) :
    first.dayNumber < second.dayNumber := by
  have months := first.marchMonth_mem
  have others := second.marchMonth_mem
  have positive := second.dayOfYear_nonneg
  rw [before_iff_monthIndex, monthIndex_eq, monthIndex_eq] at before
  rw [dayNumber_eq, dayNumber_eq]
  rcases lt_trichotomy first.marchYear second.marchYear with less | same | more
  · have next := yearStart_succ first.marchYear
    have later := yearStart_mono (Int.add_one_le_of_lt less)
    have ends := first.dayOfYear_lt
    omega
  · rw [same] at before ⊢
    rcases before with less | ⟨sameMonth, less⟩
    · have notLast : first.month ≠ 2 := by
        intro february
        have last := marchMonth_of_february february
        omega
      have ends := dayOfYear_lt_monthStart notLast
      have later := monthStart_mono (show first.marchMonth + 1 ≤ second.marchMonth by omega)
      have days := second.day_mem
      have place : second.dayOfYear = monthStart second.marchMonth + (second.day - 1) := rfl
      omega
    · have month : first.marchMonth = second.marchMonth := by omega
      rw [dayOfYear, dayOfYear, month]
      omega
  · omega

theorem before_iff_dayNumber : first.Before second ↔ first.dayNumber < second.dayNumber := by
  refine ⟨dayNumber_lt_of_before, fun less => ?_⟩
  by_contra notBefore
  by_cases after : second.Before first
  · exact absurd (dayNumber_lt_of_before after) (not_lt.mpr less.le)
  · rw [eq_of_not_before notBefore after] at less
    exact lt_irrefl _ less

private theorem dayNumber_inj (same : first.dayNumber = second.dayNumber) : first = second := by
  apply eq_of_not_before
  · rw [before_iff_dayNumber, same]
    exact lt_irrefl _
  · rw [before_iff_dayNumber, same]
    exact lt_irrefl _

/-! ## From numbers to dates -/

/-- The year of a day in the cycle of 400 years. Without the leap days before it, every year has 365
days. -/
theorem yearOfCycle_eq {year day : ℤ} (inCycle : 0 ≤ year ∧ year < 400)
    (inYear : 0 ≤ day ∧ day < yearLength year) (place : number = yearStart year + day) :
    (number - number / 1460 + number / 36524 - number / 146096) / 365 = year := by
  obtain ⟨century, fourth, rest, rfl, centuries, fourths, rests⟩ :
      ∃ century fourth rest, year = 100 * century + 4 * fourth + rest ∧
        (0 ≤ century ∧ century ≤ 3) ∧ (0 ≤ fourth ∧ fourth ≤ 24) ∧ 0 ≤ rest ∧ rest ≤ 3 :=
    ⟨year / 100, year % 100 / 4, year % 4, by omega, by omega, by omega, by omega⟩
  have counted : number = 36524 * century + 1461 * fourth + 365 * rest + day := by
    rw [place, yearStart]
    omega
  have leapDay : day ≤ 365 ∧ (day = 365 → rest = 3 ∧ (fourth < 24 ∨ century = 3)) := by
    simp only [yearLength, isLeapYear_iff] at inYear
    split at inYear <;> omega
  have everyFourth : number / 1460 = 25 * century + fourth +
      if 1460 ≤ 24 * century + fourth + 365 * rest + day then 1 else 0 := by
    split <;> omega
  -- only the leap day of the last year is not counted by whole centuries
  have everyHundredth : number / 36524 - number / 146096 = century := by
    by_cases last : number = 146096
    · rw [last]
      omega
    · have inCentury : 1461 * fourth + 365 * rest + day < 36524 := by omega
      have whole : number / 36524 = century := by omega
      have never : number / 146096 = 0 := by omega
      rw [whole, never, sub_zero]
  rw [everyFourth]
  split <;> omega

/-- Every day from 0000-03-01 on is in a year. -/
theorem exists_dayOfYear (number_nonneg : 0 ≤ number) :
    ∃ year day, number = yearStart year + day ∧ 0 ≤ year ∧ 0 ≤ day ∧ day < yearLength year := by
  induction number, number_nonneg using Int.leInduction with
  | base => exact ⟨0, 0, rfl, le_rfl, le_rfl, by decide⟩
  | succ number _ ih =>
    obtain ⟨year, day, place, years, days, inYear⟩ := ih
    by_cases ends : day + 1 = yearLength year
    · refine ⟨year + 1, 0, ?_, by omega, le_rfl, ?_⟩
      · rw [yearStart_succ]
        omega
      · have length := yearLength_mem (year + 1)
        omega
    · exact ⟨year, day + 1, by omega, years, by omega, by omega⟩

/-- What the numbers of a date are computed to be from the place of a day in its year. -/
theorem ofDayNumber?_eq {year day : ℤ} (cycles : ℤ) (inCycle : 0 ≤ year ∧ year < 400)
    (inYear : 0 ≤ day ∧ day < yearLength year) :
    let fromMarch := (5 * day + 2) / 153
    let month := if fromMarch < 10 then fromMarch + 3 else fromMarch - 9
    ofDayNumber? (yearStart (year + 400 * cycles) + day - epochOffset) =
      make? (year + 400 * cycles + if month ≤ 2 then 1 else 0) month.toNat
        (day - monthStart fromMarch + 1).toNat := by
  have number : yearStart (year + 400 * cycles) + day - epochOffset + epochOffset =
      yearStart year + day + cycleLength * cycles := by
    rw [yearStart_add_cycles]
    ring
  have inside : 0 ≤ yearStart year + day ∧ yearStart year + day < cycleLength := by
    have least : yearStart 0 = 0 := rfl
    have most : yearStart 400 = cycleLength := rfl
    have start := yearStart_mono inCycle.1
    have ends := yearStart_mono (Int.add_one_le_of_lt inCycle.2)
    rw [yearStart_succ] at ends
    omega
  have cycle : (yearStart year + day + cycleLength * cycles) / cycleLength = cycles := by
    rw [Int.add_mul_ediv_left _ _ (by decide), Int.ediv_eq_zero_of_lt inside.1 inside.2, zero_add]
  have dayOfCycle : (yearStart year + day + cycleLength * cycles) % cycleLength =
      yearStart year + day := by
    rw [Int.add_mul_emod_self_left, Int.emod_eq_of_lt inside.1 inside.2]
  have start : 365 * year + year / 4 - year / 100 = yearStart year := by
    rw [yearStart, Int.ediv_eq_zero_of_lt inCycle.1 inCycle.2, add_zero]
  simp only [ofDayNumber?, number, cycle, dayOfCycle, yearOfCycle_eq inCycle inYear rfl, start,
    add_sub_cancel_left, mul_comm cycles]
  rfl

/-- The month of a day: five months have 153 days. -/
theorem marchMonth_eq (date : Date) : (5 * date.dayOfYear + 2) / 153 = date.marchMonth := by
  have days := date.day_mem
  have place : date.dayOfYear = (153 * date.marchMonth + 2) / 5 + (date.day - 1) := rfl
  by_cases february : date.month = 2
  · have ends := date.dayOfYear_lt
    have length := yearLength_mem date.marchYear
    rw [marchMonth_of_february february] at place ⊢
    omega
  · have ends := dayOfYear_lt_monthStart february
    rw [monthStart] at ends
    omega

private theorem ofDayNumber?_dayNumber (date : Date) : ofDayNumber? date.dayNumber = some date := by
  obtain ⟨year, cycles, split, inCycle⟩ :
      ∃ year cycles, date.marchYear = year + 400 * cycles ∧ 0 ≤ year ∧ year < 400 :=
    ⟨date.marchYear % 400, date.marchYear / 400, by omega, by omega, by omega⟩
  have inYear := date.dayOfYear_lt
  rw [split, yearLength_add_cycles] at inYear
  rw [dayNumber_eq, split, ofDayNumber?_eq cycles inCycle ⟨date.dayOfYear_nonneg, inYear⟩, ← split,
    marchMonth_eq]
  have months := date.month_mem
  have day : (date.dayOfYear - monthStart date.marchMonth + 1).toNat = date.day := by
    rw [dayOfYear]
    omega
  have month : (if date.marchMonth < 10 then date.marchMonth + 3 else date.marchMonth - 9) =
      date.month := by
    rw [marchMonth]
    split <;> omega
  have year : (date.marchYear + if (date.month : ℤ) ≤ 2 then 1 else 0) = date.year := by
    rw [marchYear]
    split <;> split <;> omega
  rw [day, month, year, Int.toNat_natCast, make?_self]

private theorem dayNumber_of_ofDayNumber? (found : ofDayNumber? number = some date) :
    date.dayNumber = number := by
  have inside := Int.emod_nonneg (number + epochOffset) (show cycleLength ≠ 0 by decide)
  obtain ⟨year, day, place, years, inYear⟩ := exists_dayOfYear inside
  have inCycle : year < 400 := by
    by_contra more
    have start := yearStart_mono (not_lt.mp more)
    have whole : yearStart 400 = cycleLength := rfl
    have below := Int.emod_lt_of_pos (number + epochOffset) (show 0 < cycleLength by decide)
    omega
  obtain ⟨cycles, counted⟩ :
      ∃ cycles, yearStart (year + 400 * cycles) + day - epochOffset = number := by
    refine ⟨(number + epochOffset) / cycleLength, ?_⟩
    have split := Int.emod_add_mul_ediv (number + epochOffset) cycleLength
    rw [yearStart_add_cycles]
    omega
  rw [← counted, ofDayNumber?_eq cycles ⟨years, inCycle⟩ inYear] at found
  obtain ⟨sameYear, sameMonth, sameDay⟩ := make?_eq_some found
  have length := yearLength_mem year
  have months : 0 ≤ (5 * day + 2) / 153 ∧ (5 * day + 2) / 153 ≤ 11 := by omega
  have month : date.marchMonth = (5 * day + 2) / 153 := by
    rw [marchMonth, sameMonth]
    split <;> omega
  have marchYear : date.marchYear = year + 400 * cycles := by
    rw [Date.marchYear, sameYear, sameMonth]
    split_ifs <;> omega
  have dayOfYear : date.dayOfYear = day := by
    rw [Date.dayOfYear, month, sameDay, monthStart]
    omega
  rw [dayNumber_eq, marchYear, dayOfYear, counted]

private theorem ofDayNumber?_eq_some_iff :
    ofDayNumber? number = some date ↔ date.dayNumber = number := by
  constructor
  · exact dayNumber_of_ofDayNumber?
  · rintro rfl
    exact date.ofDayNumber?_dayNumber

theorem addDays?_eq_some_iff {days : ℤ} :
    first.addDays? days = some second ↔ second.dayNumber = first.dayNumber + days :=
  ofDayNumber?_eq_some_iff

/-! ## Day after day -/

/-- The next day: the month goes on, or the next one begins, or the next year. -/
def next? (date : Date) : Option Date :=
  if date.day < daysInMonth date.year date.month then make? date.year date.month (date.day + 1)
  else if date.month < 12 then make? date.year (date.month + 1) 1
  else make? (date.year + 1) 1 1

/-- The date some days later, counted day by day. -/
def later? : ℕ → Date → Option Date
  | 0, date => some date
  | days + 1, date => date.next?.bind (later? days)

/-- The first day of a month follows the last of the month before. -/
theorem dayNumber_first_of_month (notLast : date.month < 12)
    (last : date.day = daysInMonth date.year date.month) (year : next.year = date.year)
    (month : next.month = date.month + 1) (first : next.day = 1) :
    next.dayNumber = date.dayNumber + 1 := by
  rw [dayNumber_eq, dayNumber_eq]
  by_cases february : date.month = 2
  · have start : next.marchMonth = 0 := by rw [marchMonth, month, february]; rfl
    have here : date.marchYear = date.year - 1 := if_pos (by omega)
    have there : next.marchYear = date.year - 1 + 1 := by
      rw [marchYear, if_neg (by omega), year]
      omega
    have length := monthStart_february (date.year - 1)
    rw [Int.sub_add_cancel] at length
    rw [here, there, yearStart_succ, dayOfYear, dayOfYear, start,
      marchMonth_of_february february, last, february, first]
    have zero : monthStart 0 = 0 := rfl
    omega
  · have here : next.marchMonth = date.marchMonth + 1 := by
      rw [marchMonth, marchMonth, month]
      omega
    have sameYear : next.marchYear = date.marchYear := by
      rw [marchYear, marchYear, month, year]
      split_ifs <;> omega
    have start := monthStart_succ date.year date.month_mem february
    rw [sameYear, dayOfYear, dayOfYear, here, marchMonth, ← start, first, last]
    omega

private theorem dayNumber_next? (found : date.next? = some next) :
    next.dayNumber = date.dayNumber + 1 := by
  have days := date.day_mem
  have months := date.month_mem
  rw [next?] at found
  split at found
  · obtain ⟨year, month, day⟩ := make?_eq_some found
    rw [dayNumber, dayNumber, year, month, day]
    omega
  · have last : date.day = daysInMonth date.year date.month := by omega
    split at found
    · next notLast =>
      obtain ⟨year, month, first⟩ := make?_eq_some found
      exact dayNumber_first_of_month notLast last year month first
    · have december : date.month = 12 := by omega
      have length : daysInMonth date.year 12 = 31 := rfl
      obtain ⟨year, month, first⟩ := make?_eq_some found
      rw [december, length] at last
      simp only [dayNumber, year, month, first, december, last]
      norm_num
      ring

/-- Only the last date of all has no next day. -/
theorem exists_next? (before : first.Before second) : ∃ next, first.next? = some next := by
  have years := first.year_mem
  have months := first.month_mem
  have days := first.day_mem
  have made (year : ℤ) (month day : ℕ) (inYears : -262143 ≤ year ∧ year ≤ 262142)
      (inMonths : 1 ≤ month ∧ month ≤ 12) (inDays : 1 ≤ day ∧ day ≤ daysInMonth year month) :
      ∃ date, make? year month day = some date :=
    ⟨_, make?_self ⟨year, month, day, inYears, inMonths, inDays⟩⟩
  have positive (year : ℤ) (month : ℕ) : 1 ≤ daysInMonth year month :=
    le_trans (by decide) (le_daysInMonth year month)
  rw [next?]
  split
  · exact made _ _ _ years months (by omega)
  · split
    · exact made _ _ _ years (by omega) ⟨le_rfl, positive _ _⟩
    · have later : first.year < second.year := by
        have december : first.month = 12 := by omega
        have lastDay : daysInMonth first.year first.month = 31 := by rw [december]; rfl
        have others := second.month_mem
        have otherDays := second.day_mem.2.trans (daysInMonth_le second.year second.month)
        rw [Before] at before
        omega
      have range := second.year_mem
      exact made _ _ _ (by omega) (by decide) ⟨le_rfl, positive _ _⟩

theorem later?_eq_some_iff {days : ℕ} :
    first.later? days = some second ↔ second.dayNumber = first.dayNumber + days := by
  induction days generalizing first with
  | zero =>
    rw [later?, Option.some.injEq, Nat.cast_zero, add_zero]
    exact ⟨fun same => same ▸ rfl, fun same => (dayNumber_inj same).symm⟩
  | succ days ih =>
    rw [later?, Option.bind_eq_some_iff]
    constructor
    · rintro ⟨next, found, later⟩
      have one := dayNumber_next? found
      have others := ih.mp later
      omega
    · intro counted
      have before : first.Before second := before_iff_dayNumber.mpr (by omega)
      obtain ⟨next, found⟩ := exists_next? before
      have one := dayNumber_next? found
      exact ⟨next, found, ih.mpr (by omega)⟩

end DerivedFields.Date

import DerivedFields.Function.Dates
import DerivedFields.Proofs.Calendar.DayNumbers
import DerivedFields.Proofs.Calendar.Detection

/-!
# Durations

Whole months are counted alike in both directions, and a later date never has fewer of them before it,
although the day of the month takes one away only from a difference that is not zero. Texts that one
supported mask reads have no other common mask, so their duration is that of the dates they stand for.
-/

namespace DerivedFields

namespace Date

variable {start finish later : Date}

private theorem monthsUntil_swap (start finish : Date) :
    finish.monthsUntil start = -start.monthsUntil finish := by
  simp only [monthsUntil]
  split_ifs <;> omega

private theorem monthsUntil_mono (start : Date) (order : ¬ later.Before finish) :
    start.monthsUntil finish ≤ start.monthsUntil later := by
  rw [before_iff_monthIndex] at order
  simp only [monthsUntil]
  split_ifs <;> omega

private theorem daysUntil_swap (start finish : Date) :
    finish.daysUntil start = -start.daysUntil finish :=
  (neg_sub _ _).symm

private theorem daysUntil_mono (start : Date) (order : ¬ later.Before finish) :
    start.daysUntil finish ≤ start.daysUntil later := by
  rw [before_iff_dayNumber] at order
  rw [daysUntil, daysUntil]
  omega

/-- A month that counts lies in the direction of the days. -/
theorem daysUntil_pos_of_monthsUntil_pos (positive : 0 < start.monthsUntil finish) :
    0 < start.daysUntil finish := by
  have before : start.Before finish := by
    rw [before_iff_monthIndex]
    simp only [monthsUntil] at positive
    split_ifs at positive <;> omega
  exact sub_pos.mpr (dayNumber_lt_of_before before)

private theorem sign_monthsUntil (start finish : Date) :
    start.monthsUntil finish = 0 ∨
      (start.monthsUntil finish).sign = (start.daysUntil finish).sign := by
  rcases lt_trichotomy (start.monthsUntil finish) 0 with negative | zero | positive
  -- the other direction is the same with the dates exchanged
  · rw [← neg_pos, ← monthsUntil_swap] at negative
    have days := daysUntil_pos_of_monthsUntil_pos negative
    rw [monthsUntil_swap, neg_pos] at negative
    rw [daysUntil_swap, neg_pos] at days
    rw [Int.sign_eq_neg_one_of_neg negative, Int.sign_eq_neg_one_of_neg days]
    exact .inr rfl
  · exact .inl zero
  · have days := daysUntil_pos_of_monthsUntil_pos positive
    rw [Int.sign_eq_one_of_pos positive, Int.sign_eq_one_of_pos days]
    exact .inr rfl

end Date

namespace Dates

variable {start finish later : Date}

private theorem unitsBetween_swap (unit : CalendarUnit) (start finish : Date) :
    unitsBetween unit finish start = -unitsBetween unit start finish := by
  cases unit with
  | year => rw [unitsBetween, Date.monthsUntil_swap, Int.neg_tdiv, unitsBetween]
  | month => exact Date.monthsUntil_swap start finish
  | day => exact Date.daysUntil_swap start finish

private theorem unitsBetween_mono (unit : CalendarUnit) (start : Date) (order : ¬ later.Before finish) :
    unitsBetween unit start finish ≤ unitsBetween unit start later := by
  cases unit with
  | year => exact Int.tdiv_le_tdiv (by decide) (Date.monthsUntil_mono start order)
  | month => exact Date.monthsUntil_mono start order
  | day => exact Date.daysUntil_mono start order

/-- What two texts of a supported mask with a date have between them, in any unit. -/
theorem between_eq {mask : DateMask} {text other : String} {first second : DateTime}
    (supported : mask ∈ DateMask.supported) (dated : mask.isTimeOnly = false)
    (read : mask.parse text = .ok first) (readOther : mask.parse other = .ok second) (word : String) :
    between text other word =
      (readUnit word).map fun unit => unitsBetween unit first.date second.date := by
  have common : DateMask.common? text other = some mask :=
    DateMask.common?_eq_some_iff.mpr ⟨supported, isOk_iff.mpr ⟨_, read⟩, isOk_iff.mpr ⟨_, readOther⟩⟩
  rw [between]
  cases readUnit word with
  | error fault => rfl
  | ok unit =>
    simp only [common, dated, read, readOther, Bool.false_eq_true, if_false]
    rfl

/-- The function gives what is between its two texts as a number. -/
theorem duration_strings (a b word : String) :
    duration ⟨"Duration", [.string a, .string b, .string word]⟩ =
      (lift (between a b word)).map fun amount => .numeric (.ofInt amount) := by
  set arguments : Arguments := ⟨"Duration", [.string a, .string b, .string word]⟩
  have start : arguments.string 0 = .ok a := rfl
  have finish : arguments.string 1 = .ok b := rfl
  have unit : arguments.string 2 = .ok word := rfl
  rw [duration, start, finish, unit]
  simp only [bind, Except.bind]
  cases lift (between a b word) with
  | error fault => rfl
  | ok amount => rfl

/-- Laws of durations between texts that a supported mask with a date reads. -/
theorem between_laws {mask : DateMask} {a b c : String} {first second third : DateTime}
    (supported : mask ∈ DateMask.supported) (dated : mask.isTimeOnly = false)
    (readFirst : mask.parse a = .ok first) (readSecond : mask.parse b = .ok second)
    (readThird : mask.parse c = .ok third) :
    (∀ word, duration ⟨"Duration", [.string a, .string b, .string word]⟩ =
      (lift (between a b word)).map fun amount => .numeric (.ofInt amount)) ∧
    (∀ word, between b a word = (between a b word).map (-·)) ∧
    (∀ word amount, ¬ third.date.Before second.date → between a b word = .ok amount →
      ∃ more, between a c word = .ok more ∧ amount ≤ more) ∧
    (∀ months years, readUnit months = .ok .month → readUnit years = .ok .year →
      ∃ amount, between a b months = .ok amount ∧ between a b years = .ok (amount.tdiv 12)) ∧
    (∀ months days, readUnit months = .ok .month → readUnit days = .ok .day →
      ∃ amount count, between a b months = .ok amount ∧ between a b days = .ok count ∧
        (amount = 0 ∨ amount.sign = count.sign)) := by
  have forward := between_eq supported dated readFirst readSecond
  refine ⟨duration_strings a b, fun word => ?_, fun word amount order known => ?_,
    fun months years month year => ?_, fun months days month day => ?_⟩
  · rw [forward, between_eq supported dated readSecond readFirst]
    cases readUnit word with
    | error fault => rfl
    | ok unit => exact congrArg Except.ok (unitsBetween_swap unit first.date second.date)
  · rw [forward] at known
    rw [between_eq supported dated readFirst readThird]
    cases named : readUnit word with
    | error fault =>
      rw [named] at known
      exact absurd known nofun
    | ok unit =>
      rw [named] at known
      obtain rfl := Except.ok.inj known
      exact ⟨_, rfl, unitsBetween_mono unit first.date order⟩
  · refine ⟨first.date.monthsUntil second.date, ?_, ?_⟩
    · rw [forward, month]
      rfl
    · rw [forward, year]
      rfl
  · refine ⟨first.date.monthsUntil second.date, first.date.daysUntil second.date, ?_, ?_,
      Date.sign_monthsUntil _ _⟩
    · rw [forward, month]
      rfl
    · rw [forward, day]
      rfl

/-- Ends of months, one of them in a leap year, with the later date first. -/
theorem between_laws_month_ends :
    let mask : DateMask := ⟨"yyyy-MM-dd", [
      .field (.year true), .literal '-', .field (.month true), .literal '-', .field (.day true)]⟩
    let march : DateTime := ⟨⟨2024, 3, 31, by decide, by decide, by decide⟩, TimeOfDay.midnight⟩
    let before : DateTime := ⟨⟨2023, 2, 28, by decide, by decide, by decide⟩, TimeOfDay.midnight⟩
    let leap : DateTime := ⟨⟨2024, 2, 29, by decide, by decide, by decide⟩, TimeOfDay.midnight⟩
    (mask ∈ DateMask.supported ∧ mask.isTimeOnly = false ∧
        mask.parse "2024-03-31" = .ok march ∧ mask.parse "2023-02-28" = .ok before ∧
        mask.parse "2024-02-29" = .ok leap ∧ ¬ leap.date.Before before.date ∧
        readUnit "months" = .ok .month ∧ readUnit " Year" = .ok .year ∧ readUnit "day" = .ok .day ∧
        between "2024-03-31" "2023-02-28" "months" = .ok (-13)) ∧
      between "2023-02-28" "2024-03-31" "months" = .ok 13 ∧
      (∃ more, between "2024-03-31" "2024-02-29" "months" = .ok more ∧ -13 ≤ more) ∧
      (∃ amount, between "2024-03-31" "2023-02-28" "months" = .ok amount ∧
        between "2024-03-31" "2023-02-28" " Year" = .ok (amount.tdiv 12)) ∧
      ∃ amount count, between "2024-03-31" "2023-02-28" "months" = .ok amount ∧
        between "2024-03-31" "2023-02-28" "day" = .ok count ∧
        (amount = 0 ∨ amount.sign = count.sign) := by
  intro mask march before leap
  have supported : mask ∈ DateMask.supported := by decide +kernel
  have dated : mask.isTimeOnly = false := by decide
  have readMarch : mask.parse "2024-03-31" = .ok march := by decide
  have readBefore : mask.parse "2023-02-28" = .ok before := by decide
  have readLeap : mask.parse "2024-02-29" = .ok leap := by decide
  have order : ¬ leap.date.Before before.date := by
    simp only [Date.Before, leap, before]
    omega
  have months : readUnit "months" = .ok .month := by cbv
  have years : readUnit " Year" = .ok .year := by cbv
  have days : readUnit "day" = .ok .day := by cbv
  have known : between "2024-03-31" "2023-02-28" "months" = .ok (-13) := by
    rw [between_eq supported dated readMarch readBefore, months]
    rfl
  obtain ⟨-, swapped, more, inYears, sign⟩ :=
    between_laws supported dated readMarch readBefore readLeap
  refine ⟨⟨supported, dated, readMarch, readBefore, readLeap, order, months, years, days, known⟩,
    ?_, more "months" (-13) order known, inYears _ _ months years, sign _ _ months days⟩
  rw [swapped, known]
  rfl

end Dates

end DerivedFields

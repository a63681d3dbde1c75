import DerivedFields.Calendar.Iso
import DerivedFields.Proofs.Calendar.Parts
import DerivedFields.Proofs.Decimal.Spelling

/-!
# Date-times written and read

Every part of a date-time but the year has a fixed number of digits, and the reader takes no more
than these. A year that has a sign may be longer; its digits end at the hyphen. The fraction is as
long as it must be, in steps of three digits, and a leap second is written as second 60. So no part
of a date-time is lost between the two.
-/

namespace DerivedFields

namespace DateField

variable {width n : Nat}

theorem isDigit_of_mem_padded {c : Char} (member : c ∈ padded width n) : c.isDigit = true :=
  Decimal.isDigit_of_mem_padLeft (fun _ => Decimal.isDigit_of_mem_digitsOf) member

private theorem padded_eq_cons (width n : Nat) :
    ∃ first rest, padded width n = first :: rest ∧ first.isDigit = true := by
  have some : padded width n ≠ [] :=
    List.append_ne_nil_of_right_ne_nil _ (Decimal.digitsOf_ne_nil n)
  obtain ⟨first, rest, written⟩ := List.exists_cons_of_ne_nil some
  exact ⟨first, rest, written, isDigit_of_mem_padded (written ▸ List.mem_cons_self)⟩

private theorem takeWhile_padded (width n : Nat) :
    (padded width n).takeWhile Char.isDigit = padded width n :=
  List.takeWhile_eq_self_iff.mpr fun _ => isDigit_of_mem_padded

theorem trimStart_padded (width n : Nat) (rest : List Char) :
    Text.trimStart (padded width n ++ rest) = padded width n ++ rest := by
  obtain ⟨first, others, written, digit⟩ := padded_eq_cons width n
  have solid : ¬ Text.isBlank first = true := by
    rw [Text.isBlank_of_isDigit digit]
    exact Bool.false_ne_true
  rw [written, List.cons_append, Text.trimStart, List.dropWhile_cons_of_neg solid]

section

variable (positive : width ≠ 0) (small : n < 10 ^ width)

include positive small

theorem length_padded : (padded width n).length = width :=
  Decimal.length_padLeft ((Decimal.length_digitsOf_le_iff positive).mpr small)

/-- The reader stops behind the digits of the width. -/
theorem readDigits?_padded (rest : List Char) :
    readDigits? width (padded width n ++ rest) = some (n, rest) := by
  have length := length_padded positive small
  have read : Decimal.readCount? (padded width n) = some n := Decimal.readCount?_padLeft width n
  simp only [readDigits?, List.take_left' length, takeWhile_padded, read, Option.map_some,
    List.drop_left]

theorem readNumber?_padded (rest : List Char) :
    readNumber? width (padded width n ++ rest) = some (n, rest) := by
  rw [readNumber?, trimStart_padded, readDigits?_padded positive small]

end

end DateField

namespace DateTime

open DateField

/-! ## Parts of a text -/

private theorem dropMark?_self {mark : Char} (solid : Text.isBlank mark = false) (rest : List Char) :
    dropMark? mark (mark :: rest) = some rest := by
  have stays : ¬ Text.isBlank mark = true := by
    rw [solid]
    exact Bool.false_ne_true
  rw [dropMark?, Text.trimStart, List.dropWhile_cons_of_neg stays, Text.dropPrefix?, if_pos rfl,
    Text.dropPrefix?]

/-- A year with a sign ends where there is no digit, a year without one has four digits. -/
theorem readYear?_yearText (year : Int) {rest : List Char}
    (ends : ∀ c ∈ rest.head?, c.isDigit = false) :
    readYear? (yearText year ++ rest) = some (year, rest) := by
  rw [yearText]
  split
  · next few =>
    have small : year.toNat < 10 ^ 4 := by omega
    obtain ⟨first, others, written, digit⟩ := padded_eq_cons 4 year.toNat
    have read := readDigits?_padded (by decide) small rest
    have stays := trimStart_padded 4 year.toNat rest
    rw [written, List.cons_append] at read stays ⊢
    have number : (year.toNat : Int) = year := Int.toNat_of_nonneg few.1
    rw [readYear?, stays]
    split
    · next minus =>
      cases minus
      exact absurd digit (by decide)
    · next plus =>
      cases plus
      exact absurd digit (by decide)
    · simp only [read, Option.map_some, number]
  · next many =>
    have digits : (padded 4 year.natAbs ++ rest).takeWhile Char.isDigit = padded 4 year.natAbs :=
      Text.takeWhile_append (fun _ => isDigit_of_mem_padded) ends
    have value : Decimal.readCount? (padded 4 year.natAbs) = some year.natAbs :=
      Decimal.readCount?_padLeft 4 year.natAbs
    rw [List.cons_append, readYear?]
    by_cases negative : year < 0
    · have start : Text.trimStart ('-' :: (padded 4 year.natAbs ++ rest)) =
        '-' :: (padded 4 year.natAbs ++ rest) := rfl
      have number : -(year.natAbs : Int) = year := by omega
      simp only [negative, if_true, start, digits, value, List.drop_left]
      change some (-(year.natAbs : Int), rest) = _
      rw [number]
    · have start : Text.trimStart ('+' :: (padded 4 year.natAbs ++ rest)) =
        '+' :: (padded 4 year.natAbs ++ rest) := rfl
      have number : (year.natAbs : Int) = year := by omega
      simp only [negative, if_false, start, digits, value, List.drop_left]
      change some ((year.natAbs : Int), rest) = _
      rw [number]

private theorem readOptionalFraction?_padded {places n : Nat} (positive : places ≠ 0) (few : places ≤ 9)
    (small : n < 10 ^ places) :
    readOptionalFraction? ('.' :: padded places n) = some (some (n * 10 ^ (9 - places)), []) := by
  have length := length_padded positive small
  have all : (padded places n).take 9 = padded places n := List.take_of_length_le (by omega)
  have value : Decimal.readCount? (padded places n) = some n := Decimal.readCount?_padLeft places n
  simp only [readOptionalFraction?, all, takeWhile_padded, value, Option.map_some, length,
    List.drop_of_length_le (Nat.le_of_eq length), Nat.pow_eq, List.dropWhile_nil]

/-- The fraction is read from the digits that hold it. -/
theorem readOptionalFraction?_fractionText {fraction : Nat} (small : fraction < nanosPerSecond) :
    ∃ nanosecond, readOptionalFraction? (fractionText fraction) = some (nanosecond, []) ∧
      nanosecond.getD 0 = fraction := by
  rw [nanosPerSecond] at small
  rw [fractionText]
  split
  · next whole => exact ⟨none, rfl, whole.symm⟩
  split
  · next milliseconds =>
    refine ⟨_, readOptionalFraction?_padded (by decide) (by decide) (by omega), ?_⟩
    rw [Option.getD_some]
    omega
  split
  · next microseconds =>
    refine ⟨_, readOptionalFraction?_padded (by decide) (by decide) (by omega), ?_⟩
    rw [Option.getD_some]
    omega
  · refine ⟨_, readOptionalFraction?_padded (by decide) (by decide) (by omega), ?_⟩
    rw [Option.getD_some]
    omega

/-! ## The text -/

/-- A part with two digits is read behind its mark. -/
theorem readMarked {α : Type} {mark : Char} (solid : Text.isBlank mark = false) {n : Nat}
    (small : n < 100) (rest : List Char) (next : Nat × List Char → Option α) :
    (do next (← DateField.readNumber? 2 (← dropMark? mark (mark :: (padded 2 n ++ rest))))) =
      next (n, rest) := by
  rw [dropMark?_self solid, Option.bind_eq_bind, Option.bind_some,
    DateField.readNumber?_padded (by decide) small,
    Option.bind_eq_bind, Option.bind_some]

/-- A date-time is read from its text, whatever its year, its second and its fraction are. -/
theorem ofIso?_toIso (value : DateTime) : ofIso? value.toIso = some value := by
  obtain ⟨date, time⟩ := value
  have days := date.day_mem.2.trans (daysInMonth_le date.year date.month)
  have shown := time.shownSecond_le
  have ends (rest : List Char) : ∀ c ∈ ('-' :: rest).head?, c.isDigit = false := by
    rintro c ⟨⟩
    rfl
  have year (rest : List Char) := readYear?_yearText date.year (ends rest)
  have fraction : time.fraction < nanosPerSecond := Nat.mod_lt _ (by decide)
  obtain ⟨nanosecond, read, value⟩ := readOptionalFraction?_fractionText fraction
  rw [ofIso?, toIso, String.toList_ofList]
  simp only [List.append_assoc, List.cons_append]
  rw [year, Option.bind_eq_bind, Option.bind_some]
  dsimp only
  rw [readMarked (by decide) (by have := date.month_mem; omega)]
  dsimp only
  rw [readMarked (by decide) (by omega)]
  dsimp only
  rw [readMarked (by decide) (by have := time.hour_lt; omega)]
  dsimp only
  rw [readMarked (by decide) (by have := time.minute_lt; omega)]
  dsimp only
  rw [readMarked (by decide) (by omega)]
  dsimp only
  rw [read, Option.bind_eq_bind, Option.bind_some]
  dsimp only
  have known : DateParts.none.setYear? date.year =
    some { DateParts.none with year := some date.year } := rfl
  rw [known, Option.bind_eq_bind, Option.bind_some, DateParts.setMonth?_unknown date.month_mem rfl,
    Option.bind_some, DateParts.setDay?_unknown ⟨date.day_mem.1, days⟩ rfl,
    Option.bind_some, DateParts.setHour?_unknown time.hour_lt rfl rfl,
    Option.bind_some, DateParts.setMinute?_unknown time.minute_lt rfl,
    Option.bind_some, DateParts.setSecond?_unknown shown rfl, Option.bind_some]
  let parts : DateParts := {
    DateParts.none with
    year := date.year, month := date.month, day := date.day
    half := some (time.hour / 12), hourOfHalf := some (time.hour % 12)
    minute := time.minute, second := time.shownSecond, nanosecond }
  have calendar : parts.date? = some date := DateParts.date?_of_day date rfl rfl rfl rfl rfl
  have clock : parts.time? = some time := DateParts.time?_of_shown time rfl rfl rfl rfl value
  change parts.dateTime? = _
  rw [DateParts.dateTime?, calendar, clock]
  rfl

end DateTime

end DerivedFields

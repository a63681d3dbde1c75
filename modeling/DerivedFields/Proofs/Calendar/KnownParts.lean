import DerivedFields.Proofs.Calendar.FixedFields

/-!
# What the parts know

A number that is recorded for a field stays known: recording another one never replaces it, and fails
if the two do not agree. The parts of a clock stay in their ranges, so they always make a time of day
if what is missing of them is zero.
-/

namespace DerivedFields

namespace DateParts

variable {parts next final : DateParts}

/-! ## Setting one part -/

/-- A part is set to the value that is read, which is the old one if there was one. -/
theorem map_agree?_eq_some {α : Type} [DecidableEq α] {known : Option α} {value : α}
    {update : Option α → DateParts} (agreed : (agree? known value).map update = some next) :
    next = update (some value) ∧ ∀ old, known = some old → old = value := by
  cases known with
  | none => exact ⟨(Option.some.inj agreed).symm, fun _ => nofun⟩
  | some old =>
    rw [agree?] at agreed
    split at agreed
    · next same =>
      refine ⟨(Option.some.inj agreed).symm, fun other first => ?_⟩
      rw [← same, Option.some.inj first]
    · exact absurd agreed nofun

/-- Later parts know what earlier ones do, and as much of weekdays and of years in two digits. -/
structure Extends (next parts : DateParts) : Prop where
  year : ∀ known, parts.year = some known → next.year = some known
  month : ∀ known, parts.month = some known → next.month = some known
  day : ∀ known, parts.day = some known → next.day = some known
  half : ∀ known, parts.half = some known → next.half = some known
  hourOfHalf : ∀ known, parts.hourOfHalf = some known → next.hourOfHalf = some known
  minute : ∀ known, parts.minute = some known → next.minute = some known
  second : ∀ known, parts.second = some known → next.second = some known
  nanosecond : ∀ known, parts.nanosecond = some known → next.nanosecond = some known
  yearOfCentury : next.yearOfCentury = parts.yearOfCentury
  weekday : next.weekday = parts.weekday

namespace Extends

theorem refl (parts : DateParts) : parts.Extends parts :=
  ⟨fun _ => id, fun _ => id, fun _ => id, fun _ => id, fun _ => id, fun _ => id, fun _ => id,
    fun _ => id, rfl, rfl⟩

theorem trans (second : final.Extends next) (first : next.Extends parts) : final.Extends parts where
  year known same := second.year known (first.year known same)
  month known same := second.month known (first.month known same)
  day known same := second.day known (first.day known same)
  half known same := second.half known (first.half known same)
  hourOfHalf known same := second.hourOfHalf known (first.hourOfHalf known same)
  minute known same := second.minute known (first.minute known same)
  second known same := second.second known (first.second known same)
  nanosecond known same := second.nanosecond known (first.nanosecond known same)
  yearOfCentury := second.yearOfCentury.trans first.yearOfCentury
  weekday := second.weekday.trans first.weekday

end Extends

/-- The parts of a clock are in their ranges. -/
structure InRange (parts : DateParts) : Prop where
  half : ∀ known, parts.half = some known → known < 2
  hourOfHalf : ∀ known, parts.hourOfHalf = some known → known < 12
  minute : ∀ known, parts.minute = some known → known < 60
  second : ∀ known, parts.second = some known → known ≤ 60
  nanosecond : ∀ known, parts.nanosecond = some known → known < nanosPerSecond

end DateParts

namespace DateField

private theorem unit_pos (field : DateField) : 0 < field.unit := by
  fun_cases unit field
  · exact Nat.pow_pos (by decide)
  · exact Nat.one_pos

/-- The parts know a number for a field. -/
def IsKnown (parts : DateParts) (n : ℕ) : DateField → Prop
  | .year _ => parts.year = some (n : ℤ)
  | .month _ => parts.month = some n
  | .day _ => parts.day = some n
  | .hour _ => parts.half = some (n / 12) ∧ parts.hourOfHalf = some (n % 12)
  | .clockHour _ => parts.hourOfHalf = some (n % 12) ∧ 1 ≤ n ∧ n ≤ 12
  | .minute _ => parts.minute = some n
  | .second _ => parts.second = some n
  | .fraction _ => parts.nanosecond = some n
  | _ => False

/-- What it does to the parts when a number is recorded for a field. -/
structure Records (field : DateField) (n : ℕ) (parts next : DateParts) : Prop where
  extend : next.Extends parts
  known : field.IsKnown next n
  inRange : parts.InRange → next.InRange
  half : next.half ≠ parts.half → field = .hour true
  minute : next.minute ≠ parts.minute → field = .minute true
  second : next.second ≠ parts.second → field = .second true
  nanosecond : next.nanosecond ≠ parts.nanosecond → field = .fraction 3

private theorem records_of_record? {field : DateField} {width n : ℕ} {parts next : DateParts}
    (fixed : field.fixedWidth? = some width) (small : n < 10 ^ width * field.unit)
    (recorded : record? parts field n = some next) : field.Records n parts next := by
  fun_cases fixedWidth? field
  all_goals simp only [fixedWidth?, Option.some.injEq, reduceCtorEq] at fixed
  case case1 =>
    obtain ⟨rfl, old⟩ := DateParts.map_agree?_eq_some recorded
    constructor
    case extend => constructor <;> grind
    all_goals grind [IsKnown, DateParts.InRange]
  case case4 =>
    obtain ⟨inDay, recorded⟩ := Option.ite_none_right_eq_some.mp recorded
    obtain ⟨halved, first, second⟩ := Option.bind_eq_some_iff.mp recorded
    obtain ⟨rfl, oldHalf⟩ := DateParts.map_agree?_eq_some first
    obtain ⟨rfl, oldHour⟩ := DateParts.map_agree?_eq_some second
    constructor
    case extend => constructor <;> grind
    all_goals grind [IsKnown, DateParts.InRange]
  case case8 =>
    obtain ⟨rfl, old⟩ := DateParts.map_agree?_eq_some recorded
    have second : 10 ^ 3 * (fraction 3).unit = nanosPerSecond := rfl
    rw [← fixed, second] at small
    constructor
    case extend => constructor <;> grind
    all_goals grind [IsKnown, DateParts.InRange]
  all_goals
    obtain ⟨range, recorded⟩ := Option.ite_none_right_eq_some.mp recorded
    obtain ⟨rfl, old⟩ := DateParts.map_agree?_eq_some recorded
    constructor
    case extend => constructor <;> grind
    all_goals grind [IsKnown, DateParts.InRange]

private theorem IsKnown.mono {field : DateField} {n : ℕ} {parts next : DateParts}
    (known : field.IsKnown parts n) (extend : next.Extends parts) : field.IsKnown next n := by
  cases field with
  | year => exact extend.year _ known
  | month => exact extend.month _ known
  | day => exact extend.day _ known
  | hour => exact ⟨extend.half _ known.1, extend.hourOfHalf _ known.2⟩
  | clockHour => exact ⟨extend.hourOfHalf _ known.1, known.2⟩
  | minute => exact extend.minute _ known
  | second => exact extend.second _ known
  | fraction => exact extend.nanosecond _ known
  | yearOfCentury | monthName | weekday | halfDay => exact known.elim

end DateField

/-! ## Whole texts -/

namespace MaskItem.Spells

variable {items : List MaskItem} {text : List Char} {parts final : DateParts}

/-- The number of a field is below the power of ten of its width. -/
theorem records {part : DateField} {digits : List Char} {next : DateParts}
    (width : part.fixedWidth? = some digits.length) (all : ∀ c ∈ digits, c.isDigit = true)
    (recorded : DateField.record? parts part (Nat.ofDigitChars 10 digits 0 * part.unit) = some next) :
    part.Records (Nat.ofDigitChars 10 digits 0 * part.unit) parts next := by
  exact DateField.records_of_record? width
    (Nat.mul_lt_mul_of_pos_right (Decimal.ofDigitChars_lt all) part.unit_pos) recorded

theorem extend (spelled : Spells items text parts final) : final.Extends parts := by
  induction spelled with
  | nil parts => exact .refl parts
  | literal c rest ih => exact ih
  | field width all recorded rest ih => exact ih.trans (records width all recorded).extend

theorem inRange (spelled : Spells items text parts final) (range : parts.InRange) :
    final.InRange := by
  induction spelled with
  | nil parts => exact range
  | literal c rest ih => exact ih range
  | field width all recorded rest ih => exact ih ((records width all recorded).inRange range)

/-- What only one field changes is as it was, unless the mask has that field. -/
theorem mem_of_ne {α : Type} (read : DateParts → Option α) (source : DateField)
    (only : ∀ {field n parts next}, DateField.Records field n parts next →
      read next ≠ read parts → field = source)
    (spelled : Spells items text parts final) (changed : read final ≠ read parts) :
    .field source ∈ items := by
  induction spelled with
  | nil parts => exact absurd rfl changed
  | literal c rest ih => exact List.mem_cons_of_mem _ (ih changed)
  | @field part digits items text parts next final width all recorded rest ih =>
    by_cases later : read final = read next
    · have here := only (records width all recorded) (later ▸ changed)
      rw [here]
      exact List.mem_cons_self
    · exact List.mem_cons_of_mem _ (ih later)

/-- A field of the mask is known in the end. -/
theorem known (spelled : Spells items text parts final) {part : DateField}
    (member : .field part ∈ items) : ∃ n, part.IsKnown final n := by
  induction spelled with
  | nil parts => exact absurd member List.not_mem_nil
  | literal c rest ih => exact ih ((List.mem_cons.mp member).resolve_left nofun)
  | field width all recorded rest ih =>
    rcases List.mem_cons.mp member with same | behind
    · obtain rfl := MaskItem.field.inj same
      exact ⟨_, (records width all recorded).known.mono rest.extend⟩
    · exact ih behind

/-- Where nothing was known before, what only one field changes is known if the mask has that field. -/
theorem ne_none_iff {α : Type} (read : DateParts → Option α) (source : DateField)
    (only : ∀ {field n parts next}, DateField.Records field n parts next →
      read next ≠ read parts → field = source)
    (knows : ∀ {n parts}, source.IsKnown parts n → ∃ value, read parts = some value)
    (spelled : Spells items text parts final) (fresh : read parts = none) :
    read final ≠ none ↔ .field source ∈ items := by
  constructor
  · intro some
    exact mem_of_ne read source only spelled (fresh ▸ some)
  · intro member
    obtain ⟨n, known⟩ := spelled.known member
    exact Option.ne_none_iff_exists'.mpr (knows known)

/-- The text is written again by a date-time that has the known number for each field. -/
theorem write_eq (spelled : Spells items text parts final) {value : DateTime}
    (shown : ∀ part width n, .field part ∈ items → part.fixedWidth? = some width → n < 10 ^ width →
      part.IsKnown final (n * part.unit) → part.write value = DateField.padded width n) :
    items.flatMap (MaskItem.write value) = text := by
  induction spelled with
  | nil parts => rfl
  | literal c rest ih =>
    have written := ih fun part width n member => shown part width n (List.mem_cons_of_mem _ member)
    rw [List.flatMap_cons, written]
    rfl
  | @field part digits items text parts next final width all recorded rest ih =>
    have some : digits ≠ [] := List.ne_nil_of_length_pos (DateField.width_pos width)
    have known := (records width all recorded).known.mono rest.extend
    have first := shown part _ _ List.mem_cons_self width (Decimal.ofDigitChars_lt all) known
    rw [DateField.padded, Decimal.padLeft_ofDigitChars all some] at first
    have behind := ih fun part width n member => shown part width n (List.mem_cons_of_mem _ member)
    rw [List.flatMap_cons, MaskItem.write, first, behind]

end MaskItem.Spells

/-! ## Date-times that show the parts -/

/-- The date has the parts that are known of it. -/
structure Date.Shows (date : Date) (parts : DateParts) : Prop where
  year : ∀ known, parts.year = some known → date.year = known
  month : ∀ known, parts.month = some known → date.month = known
  day : ∀ known, parts.day = some known → date.day = known

/-- The time has the parts that are known of it. -/
structure TimeOfDay.Shows (time : TimeOfDay) (parts : DateParts) : Prop where
  half : ∀ known, parts.half = some known → time.hour / 12 = known
  hourOfHalf : ∀ known, parts.hourOfHalf = some known → time.hour % 12 = known
  minute : ∀ known, parts.minute = some known → time.minute = known
  second : ∀ known, parts.second = some known → time.shownSecond = known
  nanosecond : ∀ known, parts.nanosecond = some known → time.fraction = known

/-- The number that is known for a field is written with its width. -/
theorem DateField.write_of_known {field : DateField} {width n : ℕ} {parts : DateParts}
    {value : DateTime} (fixed : field.fixedWidth? = some width) (small : n < 10 ^ width)
    (known : field.IsKnown parts (n * field.unit))
    (date : field.isDatePart = true → value.date.Shows parts)
    (time : field.isDatePart = false → value.time.Shows parts) :
    field.write value = padded width n := by
  fun_cases fixedWidth? field
  all_goals simp only [fixedWidth?, Option.some.injEq, reduceCtorEq] at fixed
  all_goals subst fixed
  case case8 =>
    have nanoseconds : value.time.fraction = n * 10 ^ 6 := (time rfl).nanosecond _ known
    change padded 3 (value.time.fraction / 10 ^ 6) = _
    rw [nanoseconds, Nat.mul_div_cancel _ (by decide)]
  all_goals simp only [unit, Nat.mul_one] at known
  case case1 =>
    have year : value.date.year = n := (date rfl).year _ known
    rw [write, year, yearText, if_pos ⟨Int.natCast_nonneg n, by omega⟩, Int.toNat_natCast]
  case case2 => rw [write, (date rfl).month _ known]; rfl
  case case3 => rw [write, (date rfl).day _ known]; rfl
  case case4 =>
    have half := (time rfl).half _ known.1
    have hourOfHalf := (time rfl).hourOfHalf _ known.2
    have hour : value.time.hour = n := by omega
    rw [write, hour]
    rfl
  case case5 =>
    have hourOfHalf := (time rfl).hourOfHalf _ known.1
    have dial : value.time.clockHour = n := by
      rw [TimeOfDay.clockHour, hourOfHalf]
      have := known.2
      split <;> omega
    rw [write, dial]
    rfl
  case case6 => rw [write, (time rfl).minute _ known]; rfl
  case case7 => rw [write, (time rfl).second _ known]; rfl

/-! ## Dates and times of the parts -/

/-- There is a time for every reading of a clock, a leap second included. -/
theorem TimeOfDay.exists_shown {hour minute second fraction : ℕ} (inDay : hour < 24)
    (inHour : minute < 60) (inMinute : second ≤ 60) (inSecond : fraction < nanosPerSecond) :
    ∃ time : TimeOfDay, time.hour = hour ∧ time.minute = minute ∧ time.shownSecond = second ∧
      time.fraction = fraction := by
  have never : fraction / nanosPerSecond = 0 := Nat.div_eq_of_lt inSecond
  have whole : fraction % nanosPerSecond = fraction := Nat.mod_eq_of_lt inSecond
  rcases Nat.lt_or_eq_of_le inMinute with usual | rfl
  · refine ⟨⟨hour, minute, second, fraction, inDay, inHour, usual, by omega, by omega⟩,
      rfl, rfl, ?_, whole⟩
    rw [shownSecond, never, Nat.add_zero]
  · refine ⟨⟨hour, minute, 59, nanosPerSecond + fraction, inDay, inHour, by decide, by omega,
      fun _ => rfl⟩, rfl, rfl, ?_, ?_⟩
    · rw [shownSecond, Nat.add_div_left _ (by decide), never]
    · rw [TimeOfDay.fraction, Nat.add_mod_left, whole]

namespace DateParts

variable {parts : DateParts}

theorem shows_of_date? {date : Date} (noShortYear : parts.yearOfCentury = .none)
    (read : parts.date? = some date) : date.Shows parts := by
  obtain ⟨year, known, read⟩ := Option.bind_eq_some_iff.mp read
  obtain ⟨month, knownMonth, read⟩ := Option.bind_eq_some_iff.mp read
  obtain ⟨day, knownDay, read⟩ := Option.bind_eq_some_iff.mp read
  obtain ⟨made, calendar, read⟩ := Option.bind_eq_some_iff.mp read
  have same : made = date := by
    cases weekday : parts.weekday with
    | none => rw [weekday] at read; exact Option.some.inj read
    | some other =>
      rw [weekday] at read
      exact Option.some.inj (Option.ite_none_right_eq_some.mp read).2
  obtain ⟨rfl, rfl, rfl⟩ := same ▸ Date.make?_eq_some calendar
  have full : parts.fullYear? = parts.year := by rw [fullYear?, noShortYear]
  rw [full] at known
  exact ⟨fun _ first => Option.some.inj (known.symm.trans first),
    fun _ first => Option.some.inj (knownMonth.symm.trans first),
    fun _ first => Option.some.inj (knownDay.symm.trans first)⟩

/-- Hour and minute are known, and the second too if its fraction is. -/
def TellTime (parts : DateParts) : Prop :=
  parts.half ≠ .none ∧ parts.hourOfHalf ≠ .none ∧ parts.minute ≠ .none ∧
    (parts.nanosecond ≠ .none → parts.second ≠ .none)

theorem tellTime_of_time? {time : TimeOfDay} (read : parts.time? = some time) : parts.TellTime := by
  obtain ⟨half, knownHalf, read⟩ := Option.bind_eq_some_iff.mp read
  obtain ⟨hour, knownHour, read⟩ := Option.bind_eq_some_iff.mp read
  obtain ⟨minute, knownMinute, read⟩ := Option.bind_eq_some_iff.mp read
  refine ⟨Option.ne_none_iff_exists'.mpr ⟨half, knownHalf⟩,
    Option.ne_none_iff_exists'.mpr ⟨hour, knownHour⟩,
    Option.ne_none_iff_exists'.mpr ⟨minute, knownMinute⟩, fun fraction noSecond => ?_⟩
  obtain ⟨nanosecond, known⟩ := Option.ne_none_iff_exists'.mp fraction
  rw [noSecond, known] at read
  exact absurd read nofun

private theorem time?_of_tellTime {time : TimeOfDay} (tell : parts.TellTime) (shown : time.Shows parts)
    (second : time.shownSecond = parts.second.getD 0)
    (fraction : time.fraction = parts.nanosecond.getD 0) : parts.time? = some time := by
  obtain ⟨half, hourOfHalf, minute, enough⟩ := tell
  obtain ⟨half, knownHalf⟩ := Option.ne_none_iff_exists'.mp half
  obtain ⟨hour, knownHour⟩ := Option.ne_none_iff_exists'.mp hourOfHalf
  obtain ⟨minute, knownMinute⟩ := Option.ne_none_iff_exists'.mp minute
  have filled : ({ parts with second := some time.shownSecond } : DateParts).time? = some time := by
    refine time?_of_shown time ?_ ?_ ?_ rfl fraction.symm
    · rw [shown.half _ knownHalf]; exact knownHalf
    · rw [shown.hourOfHalf _ knownHour]; exact knownHour
    · rw [shown.minute _ knownMinute]; exact knownMinute
  cases known : parts.second with
  | some second =>
    have same : ({ parts with second := some time.shownSecond } : DateParts) = parts := by
      rw [shown.second _ known, ← known]
    rwa [same] at filled
  | none =>
    have noFraction : parts.nanosecond = .none := by
      by_contra some
      exact enough some known
    rw [known, Option.getD_none] at second
    rw [second] at filled
    simpa only [time?, known, noFraction, Option.getD_some, Option.getD_none] using filled

/-- Some time of day has all that is known, and it is what the parts tell if that is enough. -/
theorem exists_time (range : parts.InRange) :
    ∃ time : TimeOfDay, time.Shows parts ∧ (parts.TellTime → parts.time? = some time) := by
  have below {part : Option ℕ} {bound : ℕ} (positive : 0 < bound)
      (range : ∀ known, part = some known → known < bound) : part.getD 0 < bound := by
    cases part with
    | none => exact positive
    | some known => exact range known rfl
  have half := below (by decide) range.half
  have hourOfHalf := below (by decide) range.hourOfHalf
  have inDay : parts.half.getD 0 * 12 + parts.hourOfHalf.getD 0 < 24 := by omega
  have second : parts.second.getD 0 < 61 := below (by decide) fun known same =>
    Nat.lt_succ_of_le (range.second known same)
  obtain ⟨time, hour, minute, second, fraction⟩ := TimeOfDay.exists_shown inDay
    (below (by decide) range.minute) (Nat.le_of_lt_succ second) (below (by decide) range.nanosecond)
  have shown : time.Shows parts := {
    half := fun known same => by
      rw [same, Option.getD_some] at hour
      omega
    hourOfHalf := fun known same => by
      have := range.hourOfHalf known same
      rw [same, Option.getD_some] at hour
      omega
    minute := fun known same => by rw [minute, same, Option.getD_some]
    second := fun known same => by rw [second, same, Option.getD_some]
    nanosecond := fun known same => by rw [fraction, same, Option.getD_some] }
  exact ⟨time, shown, fun tell => time?_of_tellTime tell shown second fraction⟩

end DateParts

end DerivedFields

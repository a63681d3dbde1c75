import DerivedFields.Function.Dates
import DerivedFields.Proofs.Calendar.Detection
import DerivedFields.Proofs.Calendar.WrittenFields

/-!
# Date-times read again as they were written

What a supported mask writes has the form of the mask, and is read as the date, the time up to the
second, or both, as the mask has fields for them. What it does not write is filled in again in the same
way, so a date-time that was read with the mask comes back whole.
-/

namespace DerivedFields

/-! ## Items -/

namespace MaskItem

variable {item : MaskItem} {items : List MaskItem} {text rest piece : List Char}
  {parts next final : DateParts} {value : DateTime}

/-- A literal character, or a field of the supported masks. -/
def IsCommon : MaskItem → Prop
  | .literal _ => True
  | .field part => part.IsCommon

instance : (item : MaskItem) → Decidable item.IsCommon
  | .literal _ => inferInstanceAs (Decidable True)
  | .field part => inferInstanceAs (Decidable part.IsCommon)

/-- A field of the time of day. -/
def isClock : MaskItem → Bool
  | .literal _ => false
  | .field part => !part.isDatePart

private theorem fits_append (admitted : item.admits piece = true) (fit : fits items rest = true) :
    fits (item :: items) (piece ++ rest) = true := by
  rw [fits]
  refine List.any_eq_true.mpr ⟨piece.length, List.mem_range.mpr ?_, ?_⟩
  · rw [List.length_append]
    omega
  · rw [List.take_left, List.drop_left, admitted, fit]
    rfl

section

variable (short : value.date.IsShort)

include short

/-- What is written has the form of the mask. -/
theorem fits_write (common : ∀ item ∈ items, item.IsCommon) :
    fits items (items.flatMap (write value)) = true := by
  induction items with
  | nil => rfl
  | cons item items ih =>
    have behind := ih fun item member => common item (List.mem_cons_of_mem _ member)
    refine fits_append ?_ behind
    cases item with
    | literal c => exact beq_self_eq_true _
    | field part => exact DateField.admits_write (common _ List.mem_cons_self) short

variable (shown : value.Shows parts)

include shown

/-- An item is read as it was written. A blank in front of it may have taken its blanks. -/
theorem read?_write (common : item.IsCommon)
    (left : text = item.write value ++ rest ∨ text = Text.trimStart (item.write value ++ rest)) :
    ∃ next behind, item.read? parts text = some (next, behind) ∧
      (behind = rest ∨ behind = Text.trimStart rest) ∧ value.Shows next ∧ next.Extends parts ∧
      ∀ part, item = .field part → part.IsTold value next := by
  cases item with
  | literal c =>
    rw [write, List.singleton_append] at left
    have noField : ∀ part, literal c = .field part → part.IsTold value parts := by
      intro part same
      cases same
    by_cases blank : Text.isBlank c = true
    -- a blank takes all blanks behind it too, even those that the next item would show
    · have dropped : Text.trimStart (c :: rest) = Text.trimStart rest :=
        List.dropWhile_cons_of_pos blank
      refine ⟨parts, Text.trimStart text, ?_, .inr ?_, shown, .refl parts, noField⟩
      · rw [MaskItem.read?, if_pos blank]
      · rw [← dropped]
        rcases left with rfl | rfl
        · rfl
        · exact List.dropWhile_idempotent _ _
    · have stays : Text.trimStart (c :: rest) = c :: rest :=
        trimStart_of_solid (Bool.eq_false_iff.mpr blank)
      obtain rfl : text = c :: rest := left.elim id (·.trans stays)
      refine ⟨parts, rest, ?_, .inl rfl, shown, .refl parts, noField⟩
      rw [MaskItem.read?, if_neg blank, Text.dropPrefix?, if_pos rfl, Text.dropPrefix?]
      rfl
  | field part =>
    have stays := DateField.trimStart_write common short rest
    obtain rfl : text = part.write value ++ rest := left.elim id (·.trans stays)
    refine ⟨part.tell value parts, rest, ?_, .inl rfl, DateField.shows_tell shown,
      DateField.extends_tell shown, ?_⟩
    · exact read?_field.mpr ⟨_, DateField.readValue?_write common short rest,
        DateField.record?_number shown common short⟩
    · rintro _ ⟨⟩
      exact DateField.isTold_tell common

private theorem readAll?_write (common : ∀ item ∈ items, item.IsCommon)
    (left : text = items.flatMap (write value) ∨
      text = Text.trimStart (items.flatMap (write value))) :
    ∃ final, readAll? parts items text = some final ∧ value.Shows final ∧ final.Extends parts ∧
      ∀ part, .field part ∈ items → part.IsTold value final := by
  -- the date-time shows all that has been recorded, so each number agrees with those before
  induction items generalizing parts text with
  | nil =>
    obtain rfl : text = [] := left.elim id id
    exact ⟨parts, rfl, shown, .refl parts, fun _ => nofun⟩
  | cons item items ih =>
    obtain ⟨next, behind, read, left, shownNext, extend, told⟩ :=
      read?_write short shown (common item List.mem_cons_self) left
    obtain ⟨final, readRest, shownFinal, extendRest, toldRest⟩ :=
      ih shownNext (fun item member => common item (List.mem_cons_of_mem _ member)) left
    refine ⟨final, ?_, shownFinal, extendRest.trans extend, fun part member => ?_⟩
    · rw [readAll?, read]
      exact readRest
    · rcases List.mem_cons.mp member with same | behind
      · exact (told part same.symm).mono extendRest
      · exact toldRest part behind

end

private theorem plain_of_read? (common : item.IsCommon) (plain : parts.IsPlain)
    (read : item.read? parts text = some (next, rest)) :
    next.IsPlain ∧ (item.isClock = false → next.hourOfHalf = parts.hourOfHalf) := by
  cases item with
  | literal c =>
    obtain ⟨rfl, -⟩ := read?_literal read
    exact ⟨plain, fun _ => rfl⟩
  | field part =>
    obtain ⟨n, value, record⟩ := read?_field.mp read
    obtain ⟨plain, same⟩ := DateField.plain_of_record? common plain value record
    exact ⟨plain, fun dated => same (by simpa [isClock] using dated)⟩

/-- Common fields leave the parts plain, and the hour alone if there is no field of the clock. -/
theorem plain_of_readAll? (common : ∀ item ∈ items, item.IsCommon) (plain : parts.IsPlain)
    (read : readAll? parts items text = some final) :
    final.IsPlain ∧ (items.any isClock = false → final.hourOfHalf = parts.hourOfHalf) := by
  induction items generalizing parts text with
  | nil =>
    obtain ⟨-, same⟩ := Option.ite_none_right_eq_some.mp read
    obtain rfl := Option.some.inj same
    exact ⟨plain, fun _ => rfl⟩
  | cons item items ih =>
    obtain ⟨⟨next, rest⟩, first, behind⟩ := Option.bind_eq_some_iff.mp read
    obtain ⟨plainNext, hour⟩ := plain_of_read? (common item List.mem_cons_self) plain first
    obtain ⟨plainFinal, hourRest⟩ :=
      ih (fun item member => common item (List.mem_cons_of_mem _ member)) plainNext behind
    refine ⟨plainFinal, fun noClock => ?_⟩
    obtain ⟨notHere, notBehind⟩ := Bool.or_eq_false_iff.mp (List.any_cons ▸ noClock)
    exact (hourRest notBehind).trans (hour notHere)

end MaskItem

/-! ## Times without a fraction -/

namespace TimeOfDay

/-- The time without the fraction of its second. -/
def wholeSecond (time : TimeOfDay) : TimeOfDay where
  hour := time.hour
  minute := time.minute
  second := time.second
  nanosecond := time.nanosecond / nanosPerSecond * nanosPerSecond
  hour_lt := time.hour_lt
  minute_lt := time.minute_lt
  second_lt := time.second_lt
  nanosecond_lt := (Nat.div_mul_le_self _ _).trans_lt time.nanosecond_lt
  leap_second leap := time.leap_second (leap.trans (Nat.div_mul_le_self _ _))

private theorem shownSecond_wholeSecond (time : TimeOfDay) :
    time.wholeSecond.shownSecond = time.shownSecond := by
  simp only [wholeSecond, shownSecond, Nat.mul_div_cancel _ (show 0 < nanosPerSecond by decide)]

private theorem fraction_wholeSecond (time : TimeOfDay) : time.wholeSecond.fraction = 0 :=
  Nat.mul_mod_left _ _

private theorem wholeSecond_of_fraction {time : TimeOfDay} (whole : time.fraction = 0) :
    time.wholeSecond = time := by
  have same : time.nanosecond / nanosPerSecond * nanosPerSecond = time.nanosecond :=
    Nat.div_mul_cancel (Nat.dvd_of_mod_eq_zero whole)
  obtain ⟨hour, minute, second, nanosecond⟩ := time
  simp only [wholeSecond, mk.injEq, true_and]
  exact same

private theorem nanosecond_of_make? {hour minute second nanosecond : ℕ} {time : TimeOfDay}
    (made : make? hour minute second nanosecond = some time) : time.nanosecond = nanosecond := by
  rw [make?] at made
  split at made
  · split at made
    · obtain rfl := Option.some.inj made
      rfl
    · cases made
  · cases made

end TimeOfDay

/-- The fields of the supported masks show no fraction of a second. -/
theorem DateField.write_of_eq {part : DateField} {first second : DateTime} (common : part.IsCommon)
    (date : part.isDatePart = true → first.date = second.date)
    (time : part.isDatePart = false → first.time = second.time.wholeSecond) :
    part.write first = part.write second := by
  cases common with
  | year | month | monthName | day => rw [write, write, date rfl]
  | second => rw [write, write, time rfl, TimeOfDay.shownSecond_wholeSecond]
  | hour | clockHour | minute | halfDay =>
    rw [write, write, time rfl]
    rfl

namespace DateParts

variable {parts : DateParts}

private theorem fraction_of_time? {time : TimeOfDay} (noFraction : parts.nanosecond = .none)
    (read : parts.time? = some time) : time.fraction = 0 := by
  obtain ⟨half, -, read⟩ := Option.bind_eq_some_iff.mp read
  obtain ⟨hour, -, read⟩ := Option.bind_eq_some_iff.mp read
  obtain ⟨minute, -, read⟩ := Option.bind_eq_some_iff.mp read
  rw [TimeOfDay.fraction]
  split at read
  · cases read
  · simp only [noFraction, Option.getD_none] at read
    split at read
    · rw [TimeOfDay.nanosecond_of_make? read]
      rfl
    · rw [TimeOfDay.nanosecond_of_make? read]
      rfl

private theorem year_of_date? {date : Date} (noShortYear : parts.yearOfCentury = .none)
    (read : parts.date? = some date) : parts.year = some date.year := by
  obtain ⟨year, known, -⟩ := Option.bind_eq_some_iff.mp read
  have full : parts.fullYear? = parts.year := by rw [fullYear?, noShortYear]
  rw [full] at known
  rw [(shows_of_date? noShortYear read).year _ known, known]

end DateParts

/-! ## Masks -/

namespace DateMask

variable {mask : DateMask} {text : String} {value : DateTime}

/-- A mask with some part of a time of day. -/
def hasClock (mask : DateMask) : Bool := mask.items.any MaskItem.isClock

/-- What a mask shows of a date-time, and what the reader fills in for the rest. -/
def kept (mask : DateMask) (value : DateTime) : DateTime where
  date := if mask.isTimeOnly then Date.epoch else value.date
  time := if mask.hasClock then value.time.wholeSecond else TimeOfDay.midnight

/-- A mask of common fields for a whole date, a whole time, or both. -/
@[mk_iff]
structure IsComplete (mask : DateMask) : Prop where
  readable : outputOnly.contains mask.source = false
  common : ∀ item ∈ mask.items, item.IsCommon
  date : mask.isTimeOnly = false → .field (.year true) ∈ mask.items ∧
    (.field (.month true) ∈ mask.items ∨ .field (.monthName true) ∈ mask.items) ∧
    .field (.day true) ∈ mask.items
  clock : mask.hasClock = true →
    (.field (.hour true) ∈ mask.items ∨
      .field (.clockHour true) ∈ mask.items ∧ .field .halfDay ∈ mask.items) ∧
    .field (.minute true) ∈ mask.items ∧ .field (.second true) ∈ mask.items
  some : mask.isTimeOnly = true → mask.hasClock = true

private theorem isComplete_of_supported : ∀ mask ∈ supported, mask.IsComplete := by
  simp only [isComplete_iff]
  decide +kernel

section

variable (complete : mask.IsComplete)

include complete

/-- The parts that the fields tell make the date-time that the mask keeps. -/
theorem ofParts?_of_told {final : DateParts} (plain : final.IsPlain)
    (hour : mask.hasClock = false → final.hourOfHalf = none)
    (told : ∀ part, .field part ∈ mask.items → part.IsTold value final) :
    mask.ofParts? final = some (mask.kept value) := by
  have date (dated : mask.isTimeOnly = false) : final.date? = some value.date := by
    obtain ⟨year, month, day⟩ := complete.date dated
    have month : final.month = some value.date.month := month.elim (told _) (told _)
    exact DateParts.date?_of_day value.date (told _ year) plain.yearOfCentury month (told _ day)
      plain.weekday
  have time (clock : mask.hasClock = true) : final.time? = some value.time.wholeSecond := by
    obtain ⟨hour, minute, second⟩ := complete.clock clock
    have hour : final.half = some (value.time.hour / 12) ∧
        final.hourOfHalf = some (value.time.hour % 12) :=
      hour.elim (told _) fun ⟨dial, half⟩ => ⟨told _ half, told _ dial⟩
    refine DateParts.time?_of_shown value.time.wholeSecond hour.1 hour.2 (told _ minute) ?_ ?_
    · rw [TimeOfDay.shownSecond_wholeSecond]
      exact told _ second
    · rw [plain.nanosecond, TimeOfDay.fraction_wholeSecond]
      rfl
  have noTime (noClock : mask.hasClock = false) : final.time? = none := by
    refine Option.eq_none_iff_forall_ne_some.mpr fun clock read => ?_
    exact (DateParts.tellTime_of_time? read).2.1 (hour noClock)
  refine ofParts?_eq_some_iff.mpr ⟨?_, ?_⟩
  · split
    · next timeOnly => rw [kept, if_pos timeOnly]
    · next dated =>
      rw [kept, if_neg dated]
      exact date (Bool.eq_false_iff.mpr dated)
  · cases clock : mask.hasClock with
    | true =>
      rw [kept, if_pos clock]
      exact .inl (time clock)
    | false =>
      have dated : mask.isTimeOnly = false :=
        Bool.eq_false_iff.mpr fun timeOnly => by simp [complete.some timeOnly] at clock
      rw [kept, clock, if_neg Bool.false_ne_true]
      exact .inr ⟨dated, noTime clock, rfl⟩

/-- What a mask writes, it reads as what it shows. -/
theorem parse_format (short : value.date.IsShort) :
    mask.parse (mask.format value) = .ok (mask.kept value) := by
  obtain ⟨final, read, -, -, told⟩ :=
    MaskItem.readAll?_write short value.shows_none complete.common (.inl rfl)
  obtain ⟨plain, hour⟩ := MaskItem.plain_of_readAll? complete.common DateParts.isPlain_none read
  rw [parse_ok_iff, format, String.toList_ofList]
  exact ⟨complete.readable, MaskItem.fits_write short complete.common, final, read,
    ofParts?_of_told complete plain hour told⟩

/-- A mask shows all of what it reads. -/
theorem kept_of_parse (parsed : mask.parse text = .ok value) :
    value.date.IsShort ∧ mask.kept value = value := by
  obtain ⟨-, -, final, read, made⟩ := parse_ok_iff.mp parsed
  obtain ⟨plain, hour⟩ := MaskItem.plain_of_readAll? complete.common DateParts.isPlain_none read
  obtain ⟨date, time⟩ := ofParts?_eq_some_iff.mp made
  have calendar : value.date.IsShort ∧ (mask.kept value).date = value.date := by
    rw [kept]
    split at date
    · next timeOnly =>
      rw [if_pos timeOnly, date]
      exact ⟨⟨by decide, by decide⟩, rfl⟩
    · next dated =>
      rw [if_neg dated]
      exact ⟨plain.year _ (DateParts.year_of_date? plain.yearOfCentury date), rfl⟩
  have clock : (mask.kept value).time = value.time := by
    rw [kept]
    rcases time with read | ⟨-, -, midnight⟩
    · have some : mask.hasClock = true := by
        by_contra noClock
        exact (DateParts.tellTime_of_time? read).2.1 (hour (Bool.eq_false_iff.mpr noClock))
      have whole := DateParts.fraction_of_time? plain.nanosecond read
      rw [if_pos some, TimeOfDay.wholeSecond_of_fraction whole]
    · rw [midnight, TimeOfDay.wholeSecond_of_fraction rfl, ite_self]
  exact ⟨calendar.1, congrArg₂ DateTime.mk calendar.2 clock⟩

/-- What a mask does not keep, it does not show. -/
theorem format_kept (value : DateTime) : mask.format (mask.kept value) = mask.format value := by
  rw [format, format]
  congr 1
  refine List.flatMap_congr fun item member => ?_
  cases item with
  | literal c => rfl
  | field part =>
    have dated (calendar : part.isDatePart = true) : (mask.kept value).date = value.date := by
      rw [kept, isTimeOnly_eq_false member calendar]
      rfl
    have timed (clock : part.isDatePart = false) :
        (mask.kept value).time = value.time.wholeSecond := by
      have some : mask.hasClock = true :=
        List.any_eq_true.mpr ⟨_, member, by rw [MaskItem.isClock, clock]; rfl⟩
      rw [kept, if_pos some]
    exact DateField.write_of_eq (complete.common _ member) dated timed

end

private theorem exists_compile {source : String} (member : source ∈ supportedSources) :
    ∃ mask ∈ supported, compile source = .ok mask := by
  have all : ∀ source ∈ supportedSources, (compile source).isOk = true := by decide +kernel
  obtain ⟨mask, compiled⟩ := isOk_iff.mp (all source member)
  exact ⟨mask, List.mem_filterMap.mpr ⟨source, member, toOption_eq_some_iff.mpr compiled⟩, compiled⟩

end DateMask

/-! ## Functions -/

namespace Dates

private theorem toDateTime_eq_ok {source text : String} {mask : DateMask} {value : DateTime}
    (compiled : DateMask.compile source = .ok mask) (detected : DateMask.autodetect text = .ok value) :
    toDateTime ⟨"ToDateTime", [.string text, .string source]⟩ =
      .ok (.string (mask.format value)) := by
  change (lift (DateMask.autodetect text)).bind (write source) = _
  rw [detected]
  change write source value = _
  rw [write, compiled]
  rfl

/-- What is read with a supported mask is written with it so that it is read again. A text that can be
detected is brought into the form of a supported mask, and stays as it is when that is done again. -/
theorem toDateTime_round_trip {source : String} (member : source ∈ DateMask.supportedSources) :
    ∃ mask, DateMask.compile source = .ok mask ∧
      (∀ text value, mask.parse text = .ok value → mask.parse (mask.format value) = .ok value) ∧
      ∀ text value, DateMask.autodetect text = .ok value →
        ∃ written, toDateTime ⟨"ToDateTime", [.string text, .string source]⟩ = .ok (.string written) ∧
          toDateTime ⟨"ToDateTime", [.string written, .string source]⟩ = .ok (.string written) := by
  obtain ⟨mask, supported, compiled⟩ := DateMask.exists_compile member
  have complete := DateMask.isComplete_of_supported mask supported
  refine ⟨mask, compiled, fun text value parsed => ?_, fun text value detected => ?_⟩
  · obtain ⟨short, same⟩ := DateMask.kept_of_parse complete parsed
    rw [DateMask.parse_format complete short, same]
  -- whichever mask has read the text, the year has four digits and can be read again
  · obtain ⟨other, present, parsed⟩ := DateMask.autodetect_eq_ok_iff.mp detected
    obtain ⟨short, -⟩ :=
      DateMask.kept_of_parse (DateMask.isComplete_of_supported other present) parsed
    have again : DateMask.autodetect (mask.format value) = .ok (mask.kept value) :=
      DateMask.autodetect_eq_ok_iff.mpr ⟨mask, supported, DateMask.parse_format complete short⟩
    refine ⟨mask.format value, toDateTime_eq_ok compiled detected, ?_⟩
    rw [toDateTime_eq_ok compiled again, DateMask.format_kept complete]

/-- A leap second past noon, and the date that is filled in for it. -/
theorem toDateTime_round_trip_leap_second :
    let mask : DateMask := ⟨"hh:mm:ss a", [
      .field (.clockHour true), .literal ':', .field (.minute true), .literal ':',
      .field (.second true), .literal ' ', .field .halfDay]⟩
    let value : DateTime := ⟨Date.epoch,
      ⟨12, 59, 59, 1000000000, by decide, by decide, by decide, by decide, by decide⟩⟩
    ("hh:mm:ss a" ∈ DateMask.supportedSources ∧ "MM/dd/yyyy" ∈ DateMask.supportedSources ∧
        DateMask.compile "hh:mm:ss a" = .ok mask ∧ mask.parse "12:59:60 pm" = .ok value ∧
        DateMask.autodetect "12:59:60 pm" = .ok value) ∧
      mask.parse (mask.format value) = .ok value ∧
      ∃ written,
        toDateTime ⟨"ToDateTime", [.string "12:59:60 pm", .string "MM/dd/yyyy"]⟩ =
          .ok (.string written) ∧
        toDateTime ⟨"ToDateTime", [.string written, .string "MM/dd/yyyy"]⟩ = .ok (.string written) := by
  intro mask value
  have member : "hh:mm:ss a" ∈ DateMask.supportedSources := by decide
  have memberDate : "MM/dd/yyyy" ∈ DateMask.supportedSources := by decide
  have supported : mask ∈ DateMask.supported := by decide +kernel
  have compiled : DateMask.compile "hh:mm:ss a" = .ok mask := by decide +kernel
  have parsed : mask.parse "12:59:60 pm" = .ok value := by decide
  have detected : DateMask.autodetect "12:59:60 pm" = .ok value :=
    DateMask.autodetect_eq_ok_iff.mpr ⟨mask, supported, parsed⟩
  obtain ⟨same, compiledToo, again, -⟩ := toDateTime_round_trip member
  obtain rfl := Except.ok.inj (compiled.symm.trans compiledToo)
  obtain ⟨-, -, -, written⟩ := toDateTime_round_trip memberDate
  exact ⟨⟨member, memberDate, compiled, parsed, detected⟩, again _ _ parsed, written _ _ detected⟩

end Dates

end DerivedFields

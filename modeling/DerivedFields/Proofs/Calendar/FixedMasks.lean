import DerivedFields.Proofs.Calendar.KnownParts

/-!
# Date-times written again as they were read

A text that a mask of a fixed width takes is the text of a date and a time, digit for digit. The date
is always the one that is read. The time is so only if the mask has what makes one, an hour of the
day, a minute and no fraction without a second. Otherwise the clock is dropped, and the date-time is at
midnight.
-/

namespace DerivedFields.DateMask

variable {mask : DateMask} {text : String} {value : DateTime} {final : DateParts}

/-- An hour of the day and a minute, and a second too if there is a fraction of it. -/
def TellsTime (mask : DateMask) : Prop :=
  .field (.hour true) ∈ mask.items ∧ .field (.minute true) ∈ mask.items ∧
    (.field (.fraction 3) ∈ mask.items → .field (.second true) ∈ mask.items)

instance (mask : DateMask) : Decidable mask.TellsTime := by
  unfold TellsTime
  infer_instance

/-- Only fields of the date. -/
def HasNoClock (mask : DateMask) : Prop :=
  ∀ part, .field part ∈ mask.items → part.isDatePart = true

/-- The parts tell the time if the mask does. -/
theorem tellTime_iff (spelled : MaskItem.Spells mask.items text.toList DateParts.none final) :
    final.TellTime ↔ mask.TellsTime := by
  have hour := spelled.ne_none_iff (·.half) (.hour true) (·.half) (fun known => ⟨_, known.1⟩) rfl
  have hourOfHalf (member : .field (.hour true) ∈ mask.items) : final.hourOfHalf ≠ none := by
    obtain ⟨n, known⟩ := spelled.known member
    exact Option.ne_none_iff_exists'.mpr ⟨_, known.2⟩
  have minute := spelled.ne_none_iff (·.minute) (.minute true) (·.minute) (fun known => ⟨_, known⟩) rfl
  have second := spelled.ne_none_iff (·.second) (.second true) (·.second) (fun known => ⟨_, known⟩) rfl
  have nanosecond :=
    spelled.ne_none_iff (·.nanosecond) (.fraction 3) (·.nanosecond) (fun known => ⟨_, known⟩) rfl
  rw [DateParts.TellTime, TellsTime, hour, minute, second, nanosecond]
  exact ⟨fun ⟨hour, _, rest⟩ => ⟨hour, rest⟩, fun ⟨hour, rest⟩ => ⟨hour, hourOfHalf hour, rest⟩⟩

/-- What is read with a mask of a fixed width fills the parts digit by digit. -/
theorem exists_spells (fixed : ∀ item ∈ mask.items, item.IsFixed)
    (parsed : mask.parse text = .ok value) :
    ∃ final, MaskItem.Spells mask.items text.toList DateParts.none final ∧
      mask.ofParts? final = some value := by
  obtain ⟨-, fit, final, read, made⟩ := parse_ok_iff.mp parsed
  exact ⟨final, MaskItem.spells_of_readAll? fixed fit rfl read, made⟩

/-- The date has the parts that are read. The time has them too if the mask tells it. -/
theorem ofParts?_eq_some (spelled : MaskItem.Spells mask.items text.toList DateParts.none final)
    (made : mask.ofParts? final = some value) :
    (mask.isTimeOnly = false → value.date.Shows final) ∧
      ∃ time : TimeOfDay, time.Shows final ∧
        value.time = if mask.TellsTime then time else TimeOfDay.midnight := by
  have range : DateParts.none.InRange := ⟨nofun, nofun, nofun, nofun, nofun⟩
  obtain ⟨time, shown, told⟩ := DateParts.exists_time (spelled.inRange range)
  obtain ⟨date, clock⟩ := ofParts?_eq_some_iff.mp made
  refine ⟨fun dated => ?_, time, shown, ?_⟩
  · rw [dated, if_neg Bool.false_ne_true] at date
    exact DateParts.shows_of_date? spelled.extend.yearOfCentury date
  · rcases clock with read | ⟨-, unread, midnight⟩
    · have tell := DateParts.tellTime_of_time? read
      rw [if_pos ((tellTime_iff spelled).mp tell)]
      exact Option.some.inj (read.symm.trans (told tell))
    · have unknown : ¬ mask.TellsTime := fun tells => by
        have read := told ((tellTime_iff spelled).mpr tells)
        exact absurd (unread.symm.trans read) nofun
      rw [if_neg unknown, midnight]

/-- A date-time that has all the parts is written as the text that they were read from. -/
theorem format_eq (spelled : MaskItem.Spells mask.items text.toList DateParts.none final)
    (date : mask.isTimeOnly = false → value.date.Shows final) (time : value.time.Shows final) :
    mask.format value = text := by
  have written : mask.items.flatMap (MaskItem.write value) = text.toList :=
    spelled.write_eq fun part width n member fixed small known =>
      DateField.write_of_known fixed small known
        (fun calendar => date (isTimeOnly_eq_false member calendar)) fun _ => time
  rw [format, written, String.ofList_toList]

/-- Without a clock the time does not matter. -/
theorem format_congr (noClock : mask.HasNoClock) (date : Date) (first second : TimeOfDay) :
    mask.format ⟨date, first⟩ = mask.format ⟨date, second⟩ := by
  rw [format, format]
  congr 1
  refine List.flatMap_congr fun item member => ?_
  cases item with
  | literal c => rfl
  | field part =>
    have calendar := noClock part member
    cases part with
    | year | yearOfCentury | month | monthName | day | weekday => rfl
    | hour | clockHour | minute | second | fraction | halfDay => exact absurd calendar nofun

/-- A text that a mask of a fixed width takes is what the mask writes of the date that is read and some
time. That time is read too if the mask tells the time, and is midnight otherwise. So the text is
written again unless the mask has parts of a clock that do not make a time. -/
theorem format_of_parse (fixed : ∀ item ∈ mask.items, item.IsFixed)
    (parsed : mask.parse text = .ok value) :
    (∃ time, mask.format ⟨value.date, time⟩ = text ∧
      value.time = if mask.TellsTime then time else TimeOfDay.midnight) ∧
    (mask.TellsTime ∨ mask.HasNoClock → mask.format value = text) := by
  obtain ⟨final, spelled, made⟩ := exists_spells fixed parsed
  obtain ⟨date, time, shown, told⟩ := ofParts?_eq_some spelled made
  have written : mask.format ⟨value.date, time⟩ = text := format_eq spelled date shown
  refine ⟨⟨time, written, told⟩, ?_⟩
  rintro (tells | noClock)
  · rw [if_pos tells] at told
    rwa [← told] at written
  · rw [← written]
    exact format_congr noClock value.date value.time time

/-- A leap second on a leap day, with the hour on both dials. -/
theorem format_of_parse_leap :
    let mask : DateMask := ⟨"hh 'or' HH:mm:ss.SSS, ddMMyyyy", [
      .field (.clockHour true), .literal ' ', .literal 'o', .literal 'r', .literal ' ',
      .field (.hour true), .literal ':', .field (.minute true), .literal ':', .field (.second true),
      .literal '.', .field (.fraction 3), .literal ',', .literal ' ',
      .field (.day true), .field (.month true), .field (.year true)]⟩
    let value : DateTime := ⟨⟨2024, 2, 29, by decide, by decide, by decide⟩,
      ⟨23, 59, 59, 1250000000, by decide, by decide, by decide, by decide, by decide⟩⟩
    compile mask.source = .ok mask ∧ (∀ item ∈ mask.items, item.IsFixed) ∧
      mask.parse "11 or 23:59:60.250, 29022024" = .ok value ∧
      mask.format value = "11 or 23:59:60.250, 29022024" := by
  intro mask value
  have compiled : compile mask.source = .ok mask := by decide +kernel
  have fixed : ∀ item ∈ mask.items, item.IsFixed := by decide
  have parsed : mask.parse "11 or 23:59:60.250, 29022024" = .ok value := by decide
  have tells : mask.TellsTime := by decide
  exact ⟨compiled, fixed, parsed, (format_of_parse fixed parsed).2 (.inl tells)⟩

/-- An hour without a minute is dropped. -/
theorem not_forall_format_of_parse :
    ¬ ∀ source mask text value, compile source = .ok mask → (∀ item ∈ mask.items, item.IsFixed) →
      mask.parse text = .ok value → mask.format value = text := by
  intro lossless
  let mask : DateMask := ⟨"yyyy-MM-dd HH", [
    .field (.year true), .literal '-', .field (.month true), .literal '-', .field (.day true),
    .literal ' ', .field (.hour true)]⟩
  let midnight : DateTime := ⟨⟨2024, 3, 5, by decide, by decide, by decide⟩, TimeOfDay.midnight⟩
  have compiled : compile "yyyy-MM-dd HH" = .ok mask := by decide +kernel
  have parsed : mask.parse "2024-03-05 17" = .ok midnight := by decide
  have happens : mask.format midnight = "2024-03-05 00" := by decide
  have claimed := lossless _ mask _ midnight compiled (by decide) parsed
  rw [happens] at claimed
  exact absurd claimed (by decide)

end DerivedFields.DateMask

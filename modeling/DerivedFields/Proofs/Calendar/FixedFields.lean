import DerivedFields.Calendar.Mask
import DerivedFields.Proofs.Calendar.Iso

/-!
# Fields of a fixed width

A mask of literal characters and of numbers that always have as many digits divides a text in one
way. The reader does not look at that division: it skips blanks in front of a number and takes as
many digits as there are, up to the width. But then the text would have more characters than are
read, unless every number has all its digits. So the reader takes each field for what it is.
-/

namespace DerivedFields

/-! ## Digits of a width -/

namespace Decimal

variable {digits : List Char}

/-- Digits are written again as they stand, if the width is kept. -/
theorem padLeft_ofDigitChars (all : ∀ c ∈ digits, c.isDigit = true) (some : digits ≠ []) :
    padLeft digits.length (digitsOf (Nat.ofDigitChars 10 digits 0)) = digits := by
  have positive : digits.length ≠ 0 := by simpa using some
  refine ofDigitChars_inj (fun _ => isDigit_of_mem_padLeft fun _ => isDigit_of_mem_digitsOf) all ?_ ?_
  · exact length_padLeft ((length_digitsOf_le_iff positive).mpr (ofDigitChars_lt all))
  · exact ofDigitChars_padLeft _ _

private theorem readCount?_eq_some {n : ℕ} (read : readCount? digits = some n) :
    digits ≠ [] ∧ (∀ c ∈ digits, c.isDigit = true) ∧ n = Nat.ofDigitChars 10 digits 0 := by
  cases digits with
  | nil => exact absurd read nofun
  | cons c digits =>
    simp only [readCount?] at read
    split at read
    · next all =>
      refine ⟨List.cons_ne_nil _ _, List.all_eq_true.mp all, ?_⟩
      rw [← Option.some.inj read]
      simp only [Nat.ofDigitChars, Nat.mul_comm]
    · cases read

end Decimal

/-! ## Numbers of a width -/

namespace DateField

/-- The number of digits of a field that always has as many. -/
def fixedWidth? : DateField → Option ℕ
  | .year true => some 4
  | .month true | .day true | .hour true | .clockHour true | .minute true | .second true => some 2
  | .fraction 3 => some 3
  | _ => none

/-- What the last digit of a field counts. A fraction is read in nanoseconds. -/
def unit : DateField → ℕ
  | .fraction places => 10 ^ (9 - places)
  | _ => 1

variable {field : DateField} {width places n : ℕ} {text rest : List Char}

/-- The digits that are read stand behind blanks. -/
theorem readNumber?_eq_some (read : readNumber? width text = some (n, rest)) :
    ∃ digits, Text.trimStart text = digits ++ rest ∧ digits ≠ [] ∧
      (∀ c ∈ digits, c.isDigit = true) ∧ digits.length ≤ width ∧
      n = Nat.ofDigitChars 10 digits 0 := by
  rw [readNumber?] at read
  set solid := Text.trimStart text
  obtain ⟨value, counted, same⟩ := Option.map_eq_some_iff.mp read
  obtain ⟨rfl, rfl⟩ := Prod.mk.inj same
  obtain ⟨some, all, number⟩ := Decimal.readCount?_eq_some counted
  have start : (solid.take width).takeWhile Char.isDigit <+: solid :=
    (List.takeWhile_prefix _).trans (List.take_prefix _ _)
  refine ⟨_, ?_, some, all, ?_, number⟩
  · exact (List.prefix_iff_eq_append.mp start).symm
  · exact (List.takeWhile_prefix _).length_le.trans (List.length_take_le _ _)

/-- A fraction has no blanks in front. -/
theorem readFraction?_eq_some (read : readFraction? places text = some (n, rest)) :
    ∃ digits, Text.trimStart text = digits ++ rest ∧ digits ≠ [] ∧
      (∀ c ∈ digits, c.isDigit = true) ∧ digits.length ≤ places ∧
      n = Nat.ofDigitChars 10 digits 0 * 10 ^ (9 - places) := by
  simp only [readFraction?] at read
  split at read
  · next length =>
    obtain ⟨value, counted, same⟩ := Option.map_eq_some_iff.mp read
    obtain ⟨rfl, rfl⟩ := Prod.mk.inj same
    obtain ⟨some, all, number⟩ := Decimal.readCount?_eq_some counted
    obtain ⟨first, others, written⟩ := List.exists_cons_of_ne_nil some
    have solid : ¬ Text.isBlank first = true := by
      rw [Text.isBlank_of_isDigit (all first (written ▸ List.mem_cons_self))]
      exact Bool.false_ne_true
    have stays : Text.trimStart text = text := by
      conv_lhs => rw [← List.take_append_drop places text, written]
      conv_rhs => rw [← List.take_append_drop places text, written]
      exact List.dropWhile_cons_of_neg solid
    refine ⟨_, ?_, some, all, length.le, ?_⟩
    · rw [stays, List.take_append_drop]
    · rw [number]
      rfl
  · exact absurd read nofun

section

variable (fixed : field.fixedWidth? = some width)

include fixed

theorem width_pos : 0 < width := by
  fun_cases fixedWidth? field
  all_goals simp only [fixedWidth?, Option.some.injEq, reduceCtorEq] at fixed
  all_goals omega

/-- The form of the field is its number of digits. -/
theorem admits_fixed : field.admits = admitsDigits width width := by
  fun_cases fixedWidth? field
  all_goals simp only [fixedWidth?, Option.some.injEq, reduceCtorEq] at fixed
  all_goals rw [← fixed]; rfl

/-- A text of the form of the field is as long as the field is wide, and has no blanks. -/
theorem length_of_admits (admitted : field.admits text = true) :
    text.length = width ∧ ∀ c ∈ text, Text.isBlank c = false := by
  rw [admits_fixed fixed, admitsDigits] at admitted
  simp only [Bool.and_eq_true, decide_eq_true_eq] at admitted
  obtain ⟨⟨least, most⟩, all⟩ := admitted
  exact ⟨Nat.le_antisymm most least, fun c member =>
    Text.isBlank_of_isDecimalDigit (List.all_eq_true.mp all c member)⟩

private theorem readValue?_fixed : field.readValue? = readNumber? width ∧ field.unit = 1 ∨
    field.readValue? = readFraction? width ∧ field.unit = 10 ^ (9 - width) := by
  fun_cases fixedWidth? field
  all_goals simp only [fixedWidth?, Option.some.injEq, reduceCtorEq] at fixed
  case case8 => exact .inr ⟨by rw [← fixed]; rfl, by rw [← fixed]; rfl⟩
  all_goals exact .inl ⟨by rw [← fixed]; rfl, rfl⟩

/-- The reader takes digits behind blanks, at most as many as the field has. -/
theorem exists_digits (read : field.readValue? text = some (n, rest)) :
    ∃ digits, Text.trimStart text = digits ++ rest ∧ digits ≠ [] ∧
      (∀ c ∈ digits, c.isDigit = true) ∧ digits.length ≤ width ∧
      n = Nat.ofDigitChars 10 digits 0 * field.unit := by
  rcases readValue?_fixed fixed with ⟨number, unit⟩ | ⟨fraction, unit⟩
  · rw [number] at read
    simp only [unit, Nat.mul_one]
    exact readNumber?_eq_some read
  · rw [unit]
    exact readFraction?_eq_some (fraction ▸ read)

end

end DateField

/-! ## Masks of a fixed width -/

namespace MaskItem

/-- A literal character, or a number that always has as many digits. -/
def IsFixed : MaskItem → Prop
  | .literal _ => True
  | .field part => ∃ width, part.fixedWidth? = some width

instance : (item : MaskItem) → Decidable item.IsFixed
  | .literal _ => inferInstanceAs (Decidable True)
  | .field _ => decidable_of_iff _ Option.isSome_iff_exists

/-- How many characters of an item are not blank. -/
def solidWidth : MaskItem → ℕ
  | .literal c => if Text.isBlank c then 0 else 1
  | .field part => part.fixedWidth?.getD 0

/-- The fields of a mask have all their digits in a text, and fill the parts with what these stand
for. -/
inductive Spells : List MaskItem → List Char → DateParts → DateParts → Prop
  | nil (parts : DateParts) : Spells [] [] parts parts
  | literal (c : Char) {items : List MaskItem} {text : List Char} {parts final : DateParts}
    (rest : Spells items text parts final) : Spells (.literal c :: items) (c :: text) parts final
  | field {part : DateField} {digits : List Char} {items : List MaskItem} {text : List Char}
    {parts next final : DateParts} (width : part.fixedWidth? = some digits.length)
    (all : ∀ c ∈ digits, c.isDigit = true)
    (recorded : DateField.record? parts part (Nat.ofDigitChars 10 digits 0 * part.unit) = some next)
    (rest : Spells items text next final) : Spells (.field part :: items) (digits ++ text) parts final

variable {item : MaskItem} {items : List MaskItem} {text rest piece : List Char}
  {parts next final : DateParts}

theorem fits_cons (fit : fits (item :: items) text = true) :
    ∃ piece rest, text = piece ++ rest ∧ item.admits piece = true ∧ fits items rest = true := by
  rw [fits] at fit
  obtain ⟨n, -, inside⟩ := List.any_eq_true.mp fit
  rw [Bool.and_eq_true] at inside
  exact ⟨_, _, (List.take_append_drop n text).symm, inside.1, inside.2⟩

/-! ### Characters that are not blank -/

/-- How many characters of a text are not blank. -/
def solidCount (text : List Char) : ℕ := text.countP (!Text.isBlank ·)

private theorem solidCount_append (first second : List Char) :
    solidCount (first ++ second) = solidCount first + solidCount second := List.countP_append

private theorem solidCount_trimStart (text : List Char) :
    solidCount (Text.trimStart text) = solidCount text := by
  induction text with
  | nil => rfl
  | cons c text ih =>
    rw [Text.trimStart, List.dropWhile_cons]
    split
    · next blank =>
      rw [← Text.trimStart, ih, solidCount, solidCount, List.countP_cons_of_neg (by simpa using blank)]
    · rfl

private theorem solidCount_eq_length (solid : ∀ c ∈ text, Text.isBlank c = false) :
    solidCount text = text.length :=
  List.countP_eq_length.mpr fun c member => by rw [solid c member]; rfl

/-- A field admits digits of its width only. -/
theorem solidCount_of_admits (fixed : item.IsFixed) (admitted : item.admits piece = true) :
    solidCount piece = item.solidWidth := by
  cases item with
  | literal c =>
    obtain rfl : piece = [c] := beq_iff_eq.mp admitted
    rw [solidWidth]
    split
    · next blank => simp [solidCount, blank]
    · next solid => simp [solidCount, solid]
  | field part =>
    obtain ⟨width, fixed⟩ := fixed
    obtain ⟨length, solid⟩ := DateField.length_of_admits fixed admitted
    rw [solidCount_eq_length solid, length, solidWidth, fixed, Option.getD_some]

private theorem solidCount_of_fits (fixed : ∀ item ∈ items, item.IsFixed)
    (fit : fits items text = true) :
    solidCount text = (items.map solidWidth).sum := by
  induction items generalizing text with
  | nil =>
    obtain rfl : text = [] := List.isEmpty_iff.mp fit
    rfl
  | cons item items ih =>
    obtain ⟨piece, rest, rfl, admitted, fit⟩ := fits_cons fit
    rw [solidCount_append, solidCount_of_admits (fixed item List.mem_cons_self) admitted,
      ih (fun item member => fixed item (List.mem_cons_of_mem _ member)) fit, List.map_cons,
      List.sum_cons]

theorem read?_field {part : DateField} : (MaskItem.field part).read? parts text = some (next, rest) ↔
    ∃ n, part.readValue? text = some (n, rest) ∧ DateField.record? parts part n = some next := by
  constructor
  · intro read
    obtain ⟨⟨n, behind⟩, value, read⟩ := Option.bind_eq_some_iff.mp read
    obtain ⟨recorded, record, same⟩ := Option.bind_eq_some_iff.mp read
    obtain ⟨rfl, rfl⟩ := Prod.mk.inj (Option.some.inj same)
    exact ⟨n, value, record⟩
  · rintro ⟨n, value, record⟩
    simp only [MaskItem.read?, DateField.read?, value, record, Option.bind_eq_bind, Option.bind_some]

/-- What the reader of a field takes are digits of it. -/
theorem exists_digits_of_read? {part : DateField} {width : ℕ} (fixed : part.fixedWidth? = some width)
    (read : (MaskItem.field part).read? parts text = some (next, rest)) :
    ∃ digits, Text.trimStart text = digits ++ rest ∧ (∀ c ∈ digits, c.isDigit = true) ∧
      digits.length ≤ width ∧
      DateField.record? parts part (Nat.ofDigitChars 10 digits 0 * part.unit) = some next := by
  obtain ⟨n, value, record⟩ := read?_field.mp read
  obtain ⟨digits, split, -, all, few, rfl⟩ := DateField.exists_digits fixed value
  exact ⟨digits, split, all, few, record⟩

/-- The reader of a literal character takes that character, or all blanks instead of one. -/
theorem read?_literal {c : Char} (read : (MaskItem.literal c).read? parts text = some (next, rest)) :
    next = parts ∧ (Text.isBlank c = true ∧ rest = Text.trimStart text ∨
      Text.isBlank c = false ∧ text = c :: rest) := by
  rw [MaskItem.read?] at read
  split at read
  · next blank =>
    obtain ⟨rfl, rfl⟩ := Prod.mk.inj (Option.some.inj read)
    exact ⟨rfl, .inl ⟨blank, rfl⟩⟩
  · next solid =>
    obtain ⟨behind, found, same⟩ := Option.map_eq_some_iff.mp read
    obtain ⟨rfl, rfl⟩ := Prod.mk.inj same
    exact ⟨rfl, .inr ⟨Bool.eq_false_iff.mpr solid, Text.dropPrefix?_eq_some found⟩⟩

private theorem solidCount_of_isDigit {digits : List Char} (all : ∀ c ∈ digits, c.isDigit = true) :
    solidCount digits = digits.length :=
  solidCount_eq_length fun c member => Text.isBlank_of_isDigit (all c member)

/-- The reader takes no more of a text than the width of the item. -/
theorem solidCount_of_read? (fixed : item.IsFixed) (read : item.read? parts text = some (next, rest)) :
    solidCount text ≤ item.solidWidth + solidCount rest := by
  cases item with
  | literal c =>
    obtain ⟨-, ⟨blank, rfl⟩ | ⟨solid, rfl⟩⟩ := read?_literal read
    · rw [solidCount_trimStart]
      exact Nat.le_add_left _ _
    · rw [solidWidth, solid, solidCount, List.countP_cons_of_pos (by simpa using solid), solidCount]
      simp only [Bool.false_eq_true, if_false]
      omega
  | field part =>
    obtain ⟨width, fixed⟩ := fixed
    obtain ⟨digits, split, all, few, -⟩ := exists_digits_of_read? fixed read
    rw [← solidCount_trimStart, split, solidCount_append, solidCount_of_isDigit all, solidWidth, fixed,
      Option.getD_some]
    omega

private theorem solidCount_of_readAll? (fixed : ∀ item ∈ items, item.IsFixed)
    (read : readAll? parts items text = some final) :
    solidCount text ≤ (items.map solidWidth).sum := by
  induction items generalizing parts text with
  | nil =>
    rw [readAll?] at read
    split at read
    · next empty =>
      rw [List.isEmpty_iff.mp empty]
      exact Nat.le_refl 0
    · exact absurd read nofun
  | cons item items ih =>
    obtain ⟨⟨next, rest⟩, first, behind⟩ := Option.bind_eq_some_iff.mp read
    have taken := solidCount_of_read? (fixed item List.mem_cons_self) first
    have left := ih (fun item member => fixed item (List.mem_cons_of_mem _ member)) behind
    rw [List.map_cons, List.sum_cons]
    omega

/-! ### Reading -/

theorem trimStart_of_solid {c : Char} (solid : Text.isBlank c = false) :
    Text.trimStart (c :: text) = c :: text :=
  List.dropWhile_cons_of_neg (by rw [solid]; exact Bool.false_ne_true)

/-- A text that is divided by the widths of the items is read by the same division, whatever blanks
have been taken already. -/
theorem spells_of_readAll? {shown : List Char} (fixed : ∀ item ∈ items, item.IsFixed)
    (fit : fits items shown = true) (same : Text.trimStart text = Text.trimStart shown)
    (read : readAll? parts items text = some final) : Spells items shown parts final := by
  induction items generalizing parts text shown with
  | nil =>
    obtain rfl : shown = [] := List.isEmpty_iff.mp fit
    rw [readAll?] at read
    split at read
    · obtain rfl := Option.some.inj read
      exact .nil parts
    · exact absurd read nofun
  | cons item items ih =>
    obtain ⟨piece, behind, rfl, admitted, fitBehind⟩ := fits_cons fit
    obtain ⟨⟨next, rest⟩, first, later⟩ := Option.bind_eq_some_iff.mp read
    have others : ∀ item ∈ items, item.IsFixed := fun item member =>
      fixed item (List.mem_cons_of_mem _ member)
    cases item with
    | literal c =>
      obtain rfl : piece = [c] := beq_iff_eq.mp admitted
      rw [List.singleton_append] at same
      obtain ⟨rfl, ⟨blank, rfl⟩ | ⟨solid, rfl⟩⟩ := read?_literal first
      · have dropped : Text.trimStart (c :: behind) = Text.trimStart behind :=
          List.dropWhile_cons_of_pos blank
        refine .literal c (ih others fitBehind ?_ later)
        rw [same, dropped]
        exact List.dropWhile_idempotent _ _
      · rw [trimStart_of_solid solid, trimStart_of_solid solid] at same
        obtain rfl := (List.cons.inj same).2
        exact .literal c (ih others fitBehind rfl later)
    | field part =>
      obtain ⟨width, fixedPart⟩ := fixed (.field part) List.mem_cons_self
      obtain ⟨digits, split, all, few, recorded⟩ := exists_digits_of_read? fixedPart first
      obtain ⟨length, solid⟩ := DateField.length_of_admits fixedPart admitted
      have stays : Text.trimStart (piece ++ behind) = piece ++ behind := by
        obtain ⟨c, others, rfl⟩ :=
          List.exists_cons_of_length_pos (length ▸ DateField.width_pos fixedPart)
        exact trimStart_of_solid (solid c List.mem_cons_self)
      have divided : digits ++ rest = piece ++ behind := by rw [← split, same, stays]
      -- what is left of the text cannot be more than the other items take
      have enough : width ≤ digits.length := by
        have total := congrArg solidCount divided
        have left := solidCount_of_readAll? others later
        rw [solidCount_append, solidCount_append, solidCount_of_isDigit all, solidCount_eq_length solid,
          solidCount_of_fits others fitBehind] at total
        omega
      obtain ⟨rfl, rfl⟩ := List.append_inj divided (by omega)
      refine .field ?_ all recorded (ih others fitBehind rfl later)
      rw [fixedPart, length]

end MaskItem

/-! ## Whole masks -/

namespace DateMask

variable {mask : DateMask} {text : String} {value : DateTime} {parts : DateParts}

/-- A mask takes a text that has its form and whose fields make a date-time. -/
theorem parse_ok_iff : mask.parse text = .ok value ↔
    outputOnly.contains mask.source = false ∧ MaskItem.fits mask.items text.toList = true ∧
      ∃ final, MaskItem.readAll? DateParts.none mask.items text.toList = some final ∧
        mask.ofParts? final = some value := by
  have read : mask.read? text = some value ↔ MaskItem.fits mask.items text.toList = true ∧
      ∃ final, MaskItem.readAll? DateParts.none mask.items text.toList = some final ∧
        mask.ofParts? final = some value := by
    rw [read?, Option.ite_none_right_eq_some, Option.bind_eq_some_iff]
  rw [parse, ← read]
  split
  · next refused => simp only [refused, reduceCtorEq, Bool.true_eq_false, false_and]
  · next accepted =>
    cases mask.read? text with
    | none => simp only [reduceCtorEq, and_false]
    | some result => simp only [accepted, Except.ok.injEq, Option.some.injEq, true_and]

theorem isTimeOnly_eq_false {part : DateField} (member : .field part ∈ mask.items)
    (calendar : part.isDatePart = true) : mask.isTimeOnly = false := by
  rw [isTimeOnly, Bool.not_eq_false', List.any_eq_true]
  exact ⟨_, member, calendar⟩

/-- The time is that of the parts. Only a date needs none, and is at midnight then. -/
theorem ofParts?_eq_some_iff : mask.ofParts? parts = some value ↔
    (if mask.isTimeOnly then value.date = Date.epoch else parts.date? = some value.date) ∧
      (parts.time? = some value.time ∨
        mask.isTimeOnly = false ∧ parts.time? = none ∧ value.time = TimeOfDay.midnight) := by
  obtain ⟨date, time⟩ := value
  rw [ofParts?]
  cases mask.isTimeOnly
  · rw [DateParts.dateTime?]
    cases parts.date? <;> cases parts.time? <;> simp [eq_comm]
  · cases parts.time? <;> simp [eq_comm]

end DateMask

end DerivedFields

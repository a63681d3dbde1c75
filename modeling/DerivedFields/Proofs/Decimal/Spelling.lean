import Mathlib
import DerivedFields.Proofs.Decimal.Normal
import DerivedFields.Proofs.Text.Cuts
import DerivedFields.Text.Search
import DerivedFields.Value

/-!
# Decimals written and read

A decimal is written with digits only, a sign in front and a point within. Such a text is a number
literal without an exponent and without blanks, and the reader takes every digit of it, since a
decimal has no more digits than fit.
-/

namespace DerivedFields

namespace Decimal

variable {digits : List Char}

/-! ## Digits -/

theorem isDigit_of_mem_digitsOf {n : Nat} {c : Char} (member : c ∈ digitsOf n) :
    c.isDigit = true :=
  Nat.isDigit_of_mem_toDigits (by decide) (by decide) member

theorem isDigit_of_mem_padLeft {width : Nat} {c : Char} (all : ∀ c ∈ digits, c.isDigit = true)
    (member : c ∈ padLeft width digits) : c.isDigit = true := by
  rcases List.mem_append.mp member with zero | digit
  · rw [List.eq_of_mem_replicate zero]
    rfl
  · exact all c digit

/-- A number has no more digits than places up to a power of ten that is above it. -/
theorem length_digitsOf_le_iff {places n : Nat} (positive : places ≠ 0) :
    (digitsOf n).length ≤ places ↔ n < 10 ^ places :=
  Nat.length_toDigits_le_iff (by decide) (Nat.pos_of_ne_zero positive)

/-- The first digit of a number stands for a power of ten that is not above it. -/
theorem pow_length_digitsOf_le {n : Nat} (positive : 0 < n) :
    10 ^ ((digitsOf n).length - 1) ≤ n := by
  by_cases one : (digitsOf n).length - 1 = 0
  · rw [one]
    exact positive
  · have more : ¬(digitsOf n).length ≤ (digitsOf n).length - 1 := by omega
    rw [length_digitsOf_le_iff one] at more
    exact Nat.not_lt.mp more

theorem length_padLeft {width : Nat} (fits : digits.length ≤ width) :
    (padLeft width digits).length = width := by
  rw [padLeft, List.length_append, List.length_replicate, Nat.sub_add_cancel fits]

/-- Digits behind others count with the places that they take. -/
theorem ofDigitChars_places {places n : Nat} (positive : places ≠ 0) (small : n < 10 ^ places)
    (start : Nat) :
    Nat.ofDigitChars 10 (padLeft places (digitsOf n)) start = start * 10 ^ places + n := by
  have fits : (digitsOf n).length ≤ places := (length_digitsOf_le_iff positive).mpr small
  calc Nat.ofDigitChars 10 (padLeft places (digitsOf n)) start
      = Nat.ofDigitChars 10 (digitsOf n) (10 ^ (places - (digitsOf n).length) * start) := by
        rw [padLeft, Nat.ofDigitChars_append, Nat.ofDigitChars_replicate_zero]
    _ = 10 ^ (digitsOf n).length * (10 ^ (places - (digitsOf n).length) * start) + n := by
        rw [Nat.ofDigitChars_eq_ofDigitChars_zero, digitsOf, Nat.ofDigitChars_ten_toDigits]
    _ = start * 10 ^ places + n := by
        rw [← Nat.mul_assoc, ← Nat.pow_add, Nat.add_sub_cancel' fits, Nat.mul_comm]

theorem le_ofDigitChars (digits : List Char) (start : Nat) :
    start ≤ Nat.ofDigitChars 10 digits start := by
  rw [Nat.ofDigitChars_eq_ofDigitChars_zero]
  have := Nat.le_mul_of_pos_left start (Nat.pow_pos (n := digits.length) (show 0 < 10 by decide))
  omega

theorem ofDigitChars_lt (all : ∀ c ∈ digits, c.isDigit = true) :
    Nat.ofDigitChars 10 digits 0 < 10 ^ digits.length := by
  induction digits with
  | nil => exact Nat.one_pos
  | cons c digits ih =>
    have digit := (Text.toNat_of_isDigit (all c List.mem_cons_self)).2
    have zero : '0'.toNat = 48 := rfl
    have below := ih fun c member => all c (List.mem_cons_of_mem _ member)
    have least : 10 ^ digits.length * (c.toNat - '0'.toNat) ≤ 10 ^ digits.length * 9 :=
      Nat.mul_le_mul_left _ (by omega)
    rw [Nat.ofDigitChars_cons, Nat.mul_zero, Nat.zero_add, Nat.ofDigitChars_eq_ofDigitChars_zero,
      List.length_cons, pow_succ]
    omega

/-- As many digits that stand for the same number are the same digits. -/
theorem ofDigitChars_inj {others : List Char} (all : ∀ c ∈ digits, c.isDigit = true)
    (allOthers : ∀ c ∈ others, c.isDigit = true) (length : digits.length = others.length)
    (same : Nat.ofDigitChars 10 digits 0 = Nat.ofDigitChars 10 others 0) : digits = others := by
  induction digits generalizing others with
  | nil => exact (List.length_eq_zero_iff.mp length.symm).symm
  | cons c digits ih =>
    obtain ⟨d, others, rfl⟩ := List.exists_cons_of_length_eq_add_one length.symm
    have length := Nat.succ.inj length
    have all' := fun c member => all c (List.mem_cons_of_mem _ member)
    have allOthers' := fun c member => allOthers c (List.mem_cons_of_mem _ member)
    have small := ofDigitChars_lt all'
    have smallOther := ofDigitChars_lt allOthers'
    simp only [Nat.ofDigitChars_cons, Nat.mul_zero, Nat.zero_add] at same
    rw [Nat.ofDigitChars_eq_ofDigitChars_zero, Nat.ofDigitChars_eq_ofDigitChars_zero (l := others),
      ← length] at same
    rw [← length] at smallOther
    have high := congrArg (· / 10 ^ digits.length) same
    have low := congrArg (· % 10 ^ digits.length) same
    simp only [Nat.mul_add_div (Nat.pow_pos (show 0 < 10 by decide)), Nat.div_eq_of_lt small,
      Nat.div_eq_of_lt smallOther, Nat.mul_add_mod, Nat.mod_eq_of_lt small,
      Nat.mod_eq_of_lt smallOther] at high low
    obtain ⟨least, -⟩ := Text.toNat_of_isDigit (all c List.mem_cons_self)
    obtain ⟨leastOther, -⟩ := Text.toNat_of_isDigit (allOthers d List.mem_cons_self)
    have zero : '0'.toNat = 48 := rfl
    have first : c = d := Char.toNat_inj.mp (by omega)
    rw [first, ih all' allOthers' length low]

/-- Digits that fit are taken one after the other, before the point and behind it. -/
theorem readDigits?_append (negative point any : Bool) (coefficient scale : Nat)
    (rest : List Char) (all : ∀ c ∈ digits, c.isDigit = true)
    (fits : Nat.ofDigitChars 10 digits coefficient < limit)
    (whole : point = false → scale = 0)
    (places : point = true → scale + digits.length ≤ maxScale) :
    readDigits? negative point any coefficient scale (digits ++ rest) =
      readDigits? negative point (any || !digits.isEmpty)
        (Nat.ofDigitChars 10 digits coefficient)
        (if point then scale + digits.length else 0) rest := by
  induction digits generalizing any coefficient scale with
  | nil =>
    cases point with
    | false => simp [whole]
    | true => simp
  | cons c digits ih =>
    have digit := all c List.mem_cons_self
    have noPoint : c ≠ '.' := by
      rintro rfl
      exact absurd digit (by decide)
    rw [Nat.ofDigitChars_cons, Nat.mul_comm] at fits ⊢
    have next := Nat.lt_of_le_of_lt (le_ofDigitChars digits _) fits
    have room : (point && decide (maxScale ≤ scale)) = false := by
      cases point with
      | false => rfl
      | true =>
        have := places rfl
        rw [List.length_cons] at this
        simp only [Bool.true_and, decide_eq_false_iff_not]
        omega
    rw [List.cons_append, readDigits?]
    simp only [noPoint, decide_false, Bool.false_and, Bool.false_eq_true, if_false, digit, if_true,
      next, decide_true, room, Bool.not_false, Bool.and_self]
    rw [ih _ _ _ (fun c member => all c (List.mem_cons_of_mem _ member)) fits]
    · cases point with
      | false => simp
      | true => simp [Nat.add_comm, Nat.add_left_comm]
    · intro before
      simp [before]
    · intro behind
      have := places behind
      rw [List.length_cons] at this
      simp only [behind, if_true]
      omega

/-! ## Magnitudes -/

theorem digitsOf_ne_nil (n : Nat) : digitsOf n ≠ [] := Nat.toDigits_ne_nil

theorem ofDigitChars_digitsOf (n : Nat) : Nat.ofDigitChars 10 (digitsOf n) 0 = n :=
  Nat.ofDigitChars_ten_toDigits

theorem ofDigitChars_padLeft (width n : Nat) :
    Nat.ofDigitChars 10 (padLeft width (digitsOf n)) 0 = n := by
  rw [padLeft, Nat.ofDigitChars_append, Nat.ofDigitChars_replicate_zero, Nat.mul_zero,
    ofDigitChars_digitsOf]

/-- A number is read from its digits, however many zeros are in front of them. -/
theorem readCount?_padLeft (width n : Nat) :
    readCount? (padLeft width (digitsOf n)) = some n := by
  have digits : ∀ c ∈ padLeft width (digitsOf n), c.isDigit = true :=
    fun _ => isDigit_of_mem_padLeft fun _ => isDigit_of_mem_digitsOf
  have value := ofDigitChars_padLeft width n
  have some : padLeft width (digitsOf n) ≠ [] :=
    List.append_ne_nil_of_right_ne_nil _ (digitsOf_ne_nil n)
  obtain ⟨first, rest, written⟩ := List.exists_cons_of_ne_nil some
  rw [written] at digits value ⊢
  simp only [readCount?, List.all_eq_true.mpr digits, if_true, ← value, Nat.ofDigitChars,
    Nat.mul_comm]

private theorem readDigits?_magnitudeText (negative : Bool) {coefficient scale : Nat}
    (fits : coefficient < limit) (bound : scale ≤ maxScale) :
    readDigits? negative false false 0 0 (magnitudeText coefficient scale) =
      make? negative coefficient scale := by
  have digits (n : Nat) : ∀ c ∈ digitsOf n, c.isDigit = true := fun _ => isDigit_of_mem_digitsOf
  have nonempty (n : Nat) : (digitsOf n).isEmpty = false :=
    List.isEmpty_eq_false_iff.mpr (digitsOf_ne_nil n)
  -- a number without a point in front of what follows it
  have whole {n : Nat} (small : n < limit) (rest : List Char) :
      readDigits? negative false false 0 0 (digitsOf n ++ rest) =
        readDigits? negative false true n 0 rest := by
    rw [readDigits?_append negative false false 0 0 rest (digits n)
      (by rwa [ofDigitChars_digitsOf]) (fun _ => rfl) Bool.noConfusion, ofDigitChars_digitsOf,
      nonempty]
    rfl
  by_cases noPlaces : scale = 0
  · rw [magnitudeText, if_pos noPlaces, noPlaces, ← List.append_nil (digitsOf coefficient),
      whole fits]
    rfl
  · have small : coefficient % 10 ^ scale < 10 ^ scale := Nat.mod_lt _ (Nat.pow_pos (by decide))
    have value := ofDigitChars_places noPlaces small (coefficient / 10 ^ scale)
    rw [Nat.div_add_mod'] at value
    have length : (padLeft scale (digitsOf (coefficient % 10 ^ scale))).length = scale :=
      length_padLeft ((length_digitsOf_le_iff noPlaces).mpr small)
    have behind := readDigits?_append negative true true (coefficient / 10 ^ scale) 0 []
      (fun _ => isDigit_of_mem_padLeft (digits (coefficient % 10 ^ scale)))
      (by rwa [value]) Bool.noConfusion (fun _ => by rwa [length, Nat.zero_add])
    rw [magnitudeText, if_neg noPlaces, Nat.pow_eq,
      whole (Nat.lt_of_le_of_lt (Nat.div_le_self _ _) fits)]
    rw [List.append_nil, value, length, Nat.zero_add] at behind
    exact behind

/-- A magnitude begins with a digit. -/
theorem magnitudeText_eq_cons (coefficient scale : Nat) :
    ∃ first rest, magnitudeText coefficient scale = first :: rest ∧ first.isDigit = true := by
  have begins (n : Nat) (rest : List Char) :
      ∃ first others, digitsOf n ++ rest = first :: others ∧ first.isDigit = true := by
    obtain ⟨first, others, written⟩ := List.exists_cons_of_ne_nil (digitsOf_ne_nil n)
    have digit : first.isDigit = true :=
      isDigit_of_mem_digitsOf (written ▸ List.mem_cons_self)
    exact ⟨first, others ++ rest, by rw [written, List.cons_append], digit⟩
  rw [magnitudeText]
  split
  · rw [← List.append_nil (digitsOf coefficient)]
    exact begins coefficient []
  · exact begins _ _

/-! ## The written form -/

/-- A number in digits, with a sign in front or not, and with a point and places or not. -/
inductive Plain : List Char → Prop
  | mk (negative : Bool) {whole places : List Char} (nonempty : whole ≠ [])
    (digits : ∀ c ∈ whole, c.isDigit = true)
    (point : places = [] ∨
      ∃ fraction, places = '.' :: fraction ∧ ∀ c ∈ fraction, c.isDigit = true) :
    Plain ((if negative then ['-'] else []) ++ (whole ++ places))

theorem plain_toText (d : Decimal) : Plain d.toText.toList := by
  have digits (n : Nat) : ∀ c ∈ digitsOf n, c.isDigit = true := fun _ => isDigit_of_mem_digitsOf
  rw [toText, String.toList_ofList, magnitudeText]
  by_cases noPlaces : d.scale = 0
  · rw [if_pos noPlaces, ← List.append_nil (digitsOf d.coefficient)]
    exact .mk d.negative (digitsOf_ne_nil _) (digits _) (.inl rfl)
  · rw [if_neg noPlaces]
    exact .mk d.negative (digitsOf_ne_nil _) (digits _)
      (.inr ⟨_, rfl, fun _ => isDigit_of_mem_padLeft (digits _)⟩)

private theorem Plain.cases_of_mem {text : List Char} {c : Char} (plain : Plain text)
    (member : c ∈ text) :
    c.isDigit = true ∨ c = '-' ∨ c = '.' := by
  obtain ⟨negative, -, digits, point⟩ := plain
  rcases List.mem_append.mp member with sign | member
  · split at sign
    · exact .inr (.inl (List.mem_singleton.mp sign))
    · exact absurd sign List.not_mem_nil
  · rcases List.mem_append.mp member with digit | member
    · exact .inl (digits c digit)
    · rcases point with rfl | ⟨fraction, rfl, all⟩
      · exact absurd member List.not_mem_nil
      · rcases List.mem_cons.mp member with rfl | digit
        · exact .inr (.inr rfl)
        · exact .inl (all c digit)

/-- Nothing in a plain number is a blank, a capital letter, the mark of an exponent or a plus. -/
theorem Plain.char_of_mem {text : List Char} {c : Char} (plain : Plain text)
    (member : c ∈ text) : Text.isBlank c = false ∧ c.toLower = c ∧ c ≠ 'e' ∧ c ≠ 'E' ∧ c ≠ '+' := by
  rcases plain.cases_of_mem member with digit | rfl | rfl
  · obtain ⟨least, most⟩ := Text.toNat_of_isDigit digit
    have other (letter : Char) (apart : letter.toNat < 48 ∨ 57 < letter.toNat) : c ≠ letter := by
      rintro rfl
      omega
    refine ⟨Text.isBlank_of_isDigit digit, ?_, other _ (by decide), other _ (by decide),
      other _ (by decide)⟩
    apply Char.toLower_eq_of_not_isUpper
    simp only [Char.isUpper, decide_eq_true_eq, not_and, ge_iff_le, UInt32.le_iff_toNat_le]
    intro upper
    have : c.val.toNat = c.toNat := rfl
    have : 'A'.val.toNat = 65 := rfl
    omega
  · decide
  · decide

private theorem Plain.ne_nil {text : List Char} (plain : Plain text) : text ≠ [] := by
  obtain ⟨negative, nonempty, -, -⟩ := plain
  exact List.append_ne_nil_of_right_ne_nil _ (List.append_ne_nil_of_left_ne_nil nonempty _)

/-- A number literal stays one with a sign in front. -/
theorem isNumberLiteral_minus {first : Char} (rest : List Char) (digit : first.isDigit = true) :
    isNumberLiteral ('-' :: first :: rest) = isNumberLiteral (first :: rest) := by
  have minus : first ≠ '-' := by
    rintro rfl
    exact absurd digit (by decide)
  have plus : first ≠ '+' := by
    rintro rfl
    exact absurd digit (by decide)
  simp only [isNumberLiteral, List.cons.injEq, plus, minus, false_and, imp_self, implies_true]

/-- What may stand behind a plain number: nothing, or an exponent that moves the point to the
right. -/
inductive Shift : List Char → Prop
  | none : Shift []
  | right {digits : List Char} (nonempty : digits ≠ []) (all : ∀ c ∈ digits, c.isDigit = true) :
    Shift ('e' :: '+' :: digits)

/-- A plain number is a number literal, alone and with an exponent. -/
theorem Plain.isNumberLiteral {text tail : List Char} (plain : Plain text) (shift : Shift tail) :
    isNumberLiteral (text ++ tail) = true := by
  obtain ⟨negative, nonempty, digits, point⟩ := plain
  rename_i whole places
  have decimal {run : List Char} (all : ∀ c ∈ run, c.isDigit = true) :
      ∀ c ∈ run, Text.isDecimalDigit c = true := fun c member =>
    Text.isDecimalDigit_of_isDigit (all c member)
  have stops : ∀ c ∈ tail.head?, Text.isDecimalDigit c = false := by
    cases shift with
    | none =>
      intro c member
      cases member
    | right =>
      rintro c ⟨rfl⟩
      decide
  have ends : ∀ c ∈ (places ++ tail).head?, Text.isDecimalDigit c = false := by
    rcases point with rfl | ⟨fraction, rfl, -⟩
    · exact stops
    · rintro c ⟨rfl⟩
      decide
  have taken := Text.takeWhile_append (decimal digits) ends
  have left := Text.dropWhile_append (decimal digits) ends
  have some : whole.isEmpty = false := List.isEmpty_eq_false_iff.mpr nonempty
  have signed : DerivedFields.isNumberLiteral ('-' :: (whole ++ (places ++ tail))) = true := by
    simp only [DerivedFields.isNumberLiteral, taken, left, some]
    rcases point with rfl | ⟨fraction, rfl, all⟩
    · cases shift with
      | none => rfl
      | right someDigits all =>
        simp [List.isEmpty_eq_false_iff.mpr someDigits, List.all_eq_true.mpr (decimal all)]
    · simp only [List.cons_append, Text.dropWhile_append (decimal all) stops]
      cases shift with
      | none => rfl
      | right someDigits all =>
        simp [List.isEmpty_eq_false_iff.mpr someDigits, List.all_eq_true.mpr (decimal all)]
  cases negative with
  | true => simpa using signed
  | false =>
    obtain ⟨first, others, rfl⟩ := List.exists_cons_of_ne_nil nonempty
    have same :=
      isNumberLiteral_minus (others ++ (places ++ tail)) (digits first List.mem_cons_self)
    simpa using same.symm.trans signed

/-- A plain number is read digit by digit, and an exponent behind it moves the point. -/
theorem Plain.readNumber?_append {text tail : List Char} (plain : Plain text) (shift : Shift tail) :
    readNumber? (text ++ tail) =
      match tail with
      | [] => ofText? text
      | _ :: exponent => ofScientific? text exponent := by
  have solid : ∀ c ∈ text ++ tail, Text.isBlank c = false := by
    intro c member
    rcases List.mem_append.mp member with inText | inTail
    · exact (plain.char_of_mem inText).1
    · cases shift with
      | none => cases inTail
      | right nonempty all =>
        rcases List.mem_cons.mp inTail with rfl | inTail
        · decide
        rcases List.mem_cons.mp inTail with rfl | digit
        · decide
        · exact Text.isBlank_of_isDigit (all c digit)
  have trimmed : Text.trim (text ++ tail) = text ++ tail := Text.trim_of_noBlank solid
  have some : (text ++ tail).isEmpty = false :=
    List.isEmpty_eq_false_iff.mpr (List.append_ne_nil_of_left_ne_nil plain.ne_nil _)
  have base : (text ++ tail).takeWhile (fun c => c != 'e' && c != 'E') = text := by
    apply Text.takeWhile_append
    · intro c member
      obtain ⟨-, -, small, capital, -⟩ := plain.char_of_mem member
      rw [bne_iff_ne.mpr small, bne_iff_ne.mpr capital]
      rfl
    · cases shift with
      | none =>
        intro c member
        cases member
      | right =>
        rintro c ⟨rfl⟩
        decide
  have literal := plain.isNumberLiteral shift
  obtain ⟨first, rest, rfl⟩ := List.exists_cons_of_ne_nil plain.ne_nil
  have unsigned : first ≠ '+' := (plain.char_of_mem List.mem_cons_self).2.2.2.2
  rw [List.cons_append] at *
  simp only [readNumber?, trimmed, some, literal, List.cons.injEq, unsigned,
    false_and, imp_self, implies_true, base, Bool.not_true, Bool.false_eq_true, if_false]
  rw [← List.cons_append, List.drop_left]
  cases tail <;> rfl

theorem Plain.readNumber?_eq {text : List Char} (plain : Plain text) :
    readNumber? text = ofText? text := by
  have read := plain.readNumber?_append .none
  rwa [List.append_nil] at read

/-- A sign in front of digits is taken first. -/
theorem ofText?_sign (negative : Bool) {first : Char} (digit : first.isDigit = true)
    (rest : List Char) : ofText? ((if negative then ['-'] else []) ++ first :: rest) =
      readDigits? negative false false 0 0 (first :: rest) := by
  cases negative with
  | true => rfl
  | false =>
    have minus : first ≠ '-' := by
      rintro rfl
      exact absurd digit (by decide)
    have plus : first ≠ '+' := by
      rintro rfl
      exact absurd digit (by decide)
    simp [ofText?, minus, plus]

/-- All digits of a decimal are read back. -/
theorem ofText?_toText (d : Decimal) :
    ofText? d.toText.toList = make? d.negative d.coefficient d.scale := by
  have magnitude := readDigits?_magnitudeText d.negative d.coefficient_lt d.scale_le
  obtain ⟨first, rest, written, digit⟩ := magnitudeText_eq_cons d.coefficient d.scale
  rw [toText, String.toList_ofList, ← magnitude, written]
  exact ofText?_sign d.negative digit rest

/-- A decimal in normal form is read back as it was. -/
theorem IsNormal.readNumber?_toText {d : Decimal} (normal : d.IsNormal) :
    readNumber? d.toText.toList = some d := by
  rw [d.plain_toText.readNumber?_eq, ofText?_toText, make?, dif_pos ⟨d.coefficient_lt, d.scale_le⟩]
  by_cases empty : d.coefficient = 0
  · rw [normal.eq_zero empty]
    rfl
  · have sign : (d.negative && d.coefficient != 0) = d.negative := by
      rw [bne_iff_ne.mpr empty, Bool.and_true]
    simp only [sign]

/-- What is read from the canonical text of a decimal is its normal form. -/
theorem readNumber?_canonicalText (d : Decimal) :
    readNumber? d.canonicalText.toList = some d.normalize :=
  d.isNormal_normalize.readNumber?_toText

/-- Two decimals have one canonical text if and only if they are one number. -/
theorem canonicalText_eq_iff {a b : Decimal} :
    a.canonicalText = b.canonicalText ↔ a.toRat = b.toRat := by
  rw [← normalize_eq_iff]
  constructor
  · intro same
    apply Option.some.inj
    rw [← readNumber?_canonicalText, same, readNumber?_canonicalText]
  · intro same
    rw [canonicalText, same, canonicalText]

/-- No canonical text is a word with an e in it. -/
theorem not_equalsIgnoringCase_canonicalText (d : Decimal) {word : String}
    (letter : 'e' ∈ word.toList.map Char.toLower) :
    Text.equalsIgnoringCase d.canonicalText word = false := by
  have plain : Plain d.canonicalText.toList := plain_toText _
  have same : d.canonicalText.toList.map Char.toLower = d.canonicalText.toList := by
    conv_rhs => rw [← List.map_id d.canonicalText.toList]
    exact List.map_congr_left fun c member => (plain.char_of_mem member).2.1
  rw [Text.equalsIgnoringCase, same, beq_eq_false_iff_ne]
  intro equal
  rw [← equal] at letter
  exact (plain.char_of_mem letter).2.2.1 rfl

end Decimal

end DerivedFields

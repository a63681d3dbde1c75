import DerivedFields.Proofs.Decimal.Scientific
import DerivedFields.Proofs.Json.Lexemes
import DerivedFields.Proofs.Json.Literals

/-!
# Numbers of a document as decimals

What is written of a JSON number is read as a decimal. An integer loses nothing on the way. A great
binary number is written with its shortest digits and an exponent, and read as the integer that
these make.
-/

namespace DerivedFields.JsonNumber

open Decimal (digitsOf mantissa limit)

/-- An integer of 96 bits is read from its text. -/
theorem readNumber?_integerText {n : ℤ} (fits : n.natAbs < limit) :
    (readNumber? (integerText n)).map Decimal.toRat = some (n : ℚ) := by
  have bounds : 0 ≤ Decimal.maxScale := Nat.zero_le _
  have text : integerText n =
      (⟨decide (n < 0), n.natAbs, 0, fits, bounds⟩ : Decimal).toText.toList := by
    simp only [integerText, Decimal.toText, Decimal.magnitudeText, Decimal.digitsOf,
      String.toList_ofList, decide_eq_true_eq, if_true]
  obtain ⟨d, made, -, -, value⟩ := Decimal.make?_eq_some (decide (n < 0)) fits bounds
  rw [text, (Decimal.plain_toText _).readNumber?_eq, Decimal.ofText?_toText, made, Option.map_some,
    value, pow_zero, div_one, withSign_natAbs]

variable {b : Binary64}

/-- A number of more than sixteen places is written with an exponent. -/
theorem realText_of_lt {power : ℕ} (place : b.shortest.2 = power) (positive : 0 < b.shortest.1)
    (great : 16 < power + (digitsOf b.shortest.1).length) :
    realText b = (if b.negative then ['-'] else []) ++ mantissa b.shortest.1 ++
      'e' :: '+' :: digitsOf (power + (digitsOf b.shortest.1).length - 1) := by
  have leading : (power : ℤ) + (Nat.toDigits 10 b.shortest.1).length - 1 =
      (power + (digitsOf b.shortest.1).length - 1 : ℕ) := by
    rw [digitsOf]
    rw [digitsOf] at great
    omega
  have behind : ¬((power + (digitsOf b.shortest.1).length - 1 : ℕ) : ℤ) ≤ 15 := by omega
  have above : (0 : ℤ) ≤ (power + (digitsOf b.shortest.1).length - 1 : ℕ) := by omega
  simp only [realText, place, leading, positive.ne', if_false, positionalRange, behind,
    decide_false, Bool.and_false, Bool.false_eq_true, above, if_true, Int.natAbs_natCast]
  rfl

/-- The digits of a great binary number end before its last places, so its shortest decimal is an
integer that ends in a zero. -/
theorem exists_power (full : b.Full) (great : 10 ^ 17 ≤ b.magnitude) :
    ∃ power : ℕ, 0 < power ∧ b.shortest.2 = power ∧
      b.decimal = (b.shortest.1 * 10 ^ power : ℕ) := by
  obtain ⟨-, -, low, -⟩ := Binary64.shortest_spec full (le_trans (by norm_num) great)
  have first : 17 ≤ Int.log 10 b.magnitude :=
    (Int.zpow_le_iff_le_log (b := 10) (by decide) full.magnitude_pos).mp (by exact_mod_cast great)
  obtain ⟨power, place⟩ := Int.eq_ofNat_of_zero_le (show 0 ≤ b.shortest.2 by omega)
  refine ⟨power, by omega, place, ?_⟩
  rw [Binary64.decimal, place]
  push_cast
  rw [zpow_natCast]

/-- A great binary number is read as its shortest decimal, unless it is too large. -/
theorem readNumber?_realText (full : b.Full) (great : 10 ^ 17 ≤ b.magnitude) :
    (readNumber? (realText b)).map Decimal.toRat =
      if b.decimal < limit then some (withSign b.negative b.decimal) else none := by
  obtain ⟨positive, few, -, close⟩ :=
    Binary64.shortest_spec full (le_trans (by norm_num) great)
  obtain ⟨power, beyond, place, decimal⟩ := exists_power full great
  have length : (digitsOf b.shortest.1).length ≤ 18 :=
    (Decimal.length_digitsOf_le_iff (by decide)).mpr (by omega)
  have nonempty := List.length_pos_iff.mpr (Decimal.digitsOf_ne_nil b.shortest.1)
  have places : 16 < power + (digitsOf b.shortest.1).length := by
    by_contra short
    have below : b.shortest.1 < 10 ^ (digitsOf b.shortest.1).length :=
      (Decimal.length_digitsOf_le_iff nonempty.ne').mp le_rfl
    have small : b.shortest.1 * 10 ^ power < 10 ^ 16 :=
      calc b.shortest.1 * 10 ^ power < 10 ^ (digitsOf b.shortest.1).length * 10 ^ power := by gcongr
        _ = 10 ^ (power + (digitsOf b.shortest.1).length) := by rw [pow_add, mul_comm]
        _ ≤ 10 ^ 16 := Nat.pow_le_pow_right (by decide) (not_lt.mp short)
    have near := (close_iff.mp close).1
    have small' : b.decimal < 10 ^ 16 := by
      rw [decimal]
      exact_mod_cast small
    linarith
  have fits : b.shortest.1 < limit := by
    rw [Decimal.limit_eq]
    omega
  have read := Decimal.readNumber?_scientific b.negative positive fits
    (length.trans (by decide)) beyond
  rw [realText_of_lt place positive places, read, decimal]
  simp only [Nat.cast_lt]

/-! ## Integer literals -/

open Json (Fits)

variable {literal : Literal} {n : ℤ}

theorem Literal.IsInteger.withSign_natAbs (integer : literal.IsInteger n) :
    withSign literal.negative n.natAbs = n := by
  rw [integer.natAbs_eq, integer.value, withSign]
  cases literal.negative with
  | false => rfl
  | true => simp

/-- A binary zero is read as zero, whatever its sign. -/
theorem readNumber?_realText_zero (zero : b.significand = 0) :
    (readNumber? (realText b)).map Decimal.toRat = some 0 := by
  have shortest : b.shortest = (0, 0) := by rw [Binary64.shortest, if_pos zero]
  have text : realText b = (if b.negative then ['-'] else []) ++ ['0', '.', '0'] := by
    simp only [realText, shortest, if_true]
  have value (d : Decimal) (none : d.coefficient = 0) : d.toRat = 0 := by
    rw [Decimal.toRat_eq_withSign, Decimal.magnitude, none, Nat.cast_zero, zero_div, withSign_zero]
  rw [text]
  cases b.negative with
  | true =>
    have read : readNumber? ['-', '0', '.', '0'] =
        some ⟨false, 0, 1, by decide, by decide⟩ := by cbv
    rw [if_pos rfl, List.singleton_append, read, Option.map_some, value _ rfl]
  | false =>
    have read : readNumber? ['0', '.', '0'] = some ⟨false, 0, 1, by decide, by decide⟩ := by cbv
    rw [if_neg Bool.false_ne_true, List.nil_append, read, Option.map_some, value _ rfl]

/-- An integer literal of 64 bits is read as the integer that it spells. -/
theorem exists_toNumber?_fits (integer : literal.IsInteger n) (fits : Fits n) :
    ∃ number, literal.toNumber? = some number ∧
      (readNumber? number.toText).map Decimal.toRat = some (n : ℚ) := by
  by_cases minusZero : literal.negative = true ∧ n = 0
  · obtain ⟨negative, rfl⟩ := minusZero
    obtain ⟨b, real, -, zero⟩ := exists_toReal?_zero integer
    refine ⟨.real b, ?_, ?_⟩
    · rw [Literal.toNumber?_of_not_fits integer (.inr ⟨negative, rfl⟩), real, Option.map_some]
    · rw [toText, readNumber?_realText_zero zero, Int.cast_zero]
  · have number := Literal.toNumber?_of_fits integer fits fun negative zero =>
      minusZero ⟨negative, zero⟩
    have small : n.natAbs < limit := by
      rw [Decimal.limit_eq]
      rw [Fits] at fits
      omega
    exact ⟨.integer n, number, readNumber?_integerText small⟩

/-- An integer literal beyond 64 bits is read as the shortest decimal of a binary number. -/
theorem exists_toNumber?_great (integer : literal.IsInteger n) (bound : n.natAbs < limit)
    (great : ¬Fits n) :
    ∃ b, literal.toReal? = some b ∧ literal.toNumber? = some (.real b) ∧
      Close (1 / 2 ^ 50) b.decimal n.natAbs ∧ (∃ tens : ℕ, b.decimal = 10 * tens) ∧
      (readNumber? (realText b)).map Decimal.toRat =
        if b.decimal < limit then some (withSign literal.negative b.decimal) else none := by
  have least : 2 ^ 63 ≤ n.natAbs := by
    simp only [Fits, not_and_or, not_le, not_lt] at great
    omega
  rw [Decimal.limit_eq] at bound
  obtain ⟨b, real, negative, full, close⟩ := exists_toReal? integer (by omega) (by omega)
  have least' : (2 : ℚ) ^ 63 ≤ n.natAbs := by exact_mod_cast least
  have large : (10 : ℚ) ^ 17 ≤ b.magnitude := by
    have low := (close_iff.mp close).1
    linarith
  obtain ⟨-, -, -, shortest⟩ := Binary64.shortest_spec full (le_trans (by norm_num) large)
  obtain ⟨power, beyond, -, decimal⟩ := exists_power full large
  have number : literal.toNumber? = some (.real b) := by
    rw [Literal.toNumber?_of_not_fits integer (.inl great), real, Option.map_some]
  have near : Close (1 / 2 ^ 50) b.decimal n.natAbs :=
    (shortest.trans close (by positivity)).mono (by norm_num) (by positivity)
  have tens : b.decimal = 10 * (b.shortest.1 * 10 ^ (power - 1) : ℕ) := by
    rw [decimal, ← Nat.sub_add_cancel beyond, Nat.add_sub_cancel, pow_succ]
    push_cast
    ring
  have read := readNumber?_realText full large
  rw [negative] at read
  exact ⟨b, real, number, near, ⟨_, tens⟩, read⟩

end DerivedFields.JsonNumber

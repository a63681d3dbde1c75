import DerivedFields.Proofs.Binary64.Shortest
import DerivedFields.Proofs.Json.Integers

/-!
# Integer literals as binary numbers

A literal that does not fit 64 bits is cut behind the leading digits that do. These digits and the
power of ten for the others are rounded to binary numbers, and so is their product.
-/

namespace DerivedFields.JsonNumber

/-! ## Leading digits -/

section

variable {digits : List ℕ}

/-- Digits behind a number make it greater, but not so great as those behind the next number. -/
private theorem foldl_digits_bounds (small : ∀ digit ∈ digits, digit < 10) (start : ℕ) :
    start * 10 ^ digits.length ≤ digits.foldl (fun n digit => n * 10 + digit) start ∧
      digits.foldl (fun n digit => n * 10 + digit) start < (start + 1) * 10 ^ digits.length := by
  induction digits generalizing start with
  | nil => simp
  | cons digit digits ih =>
    have first := small digit List.mem_cons_self
    obtain ⟨low, high⟩ := ih (fun other member => small other (List.mem_cons_of_mem _ member))
      (start * 10 + digit)
    rw [List.foldl_cons, List.length_cons, pow_succ']
    constructor
    · calc start * (10 * 10 ^ digits.length) = start * 10 * 10 ^ digits.length := by ring
        _ ≤ (start * 10 + digit) * 10 ^ digits.length := Nat.mul_le_mul_right _ (by omega)
        _ ≤ _ := low
    · calc _ < (start * 10 + digit + 1) * 10 ^ digits.length := high
        _ ≤ (start + 1) * 10 * 10 ^ digits.length := Nat.mul_le_mul_right _ (by omega)
        _ = (start + 1) * (10 * 10 ^ digits.length) := by ring

/-- The digits taken are leading ones, and one more would not fit 64 bits. -/
theorem takeDigits_spec (small : ∀ digit ∈ digits, digit < 10) (start : ℕ) :
    ∃ left, digits.length = (takeDigits start digits).2 + left ∧
      (takeDigits start digits).1 * 10 ^ left ≤
        digits.foldl (fun n digit => n * 10 + digit) start ∧
      digits.foldl (fun n digit => n * 10 + digit) start <
        ((takeDigits start digits).1 + 1) * 10 ^ left ∧
      (left ≠ 0 → significandLimit ≤ (takeDigits start digits).1 * 10 + 9) := by
  induction digits generalizing start with
  | nil => exact ⟨0, rfl, by simp [takeDigits], by simp [takeDigits], fun more => absurd rfl more⟩
  | cons digit digits ih =>
    have first := small digit List.mem_cons_self
    by_cases fits : start * 10 + digit < significandLimit
    · obtain ⟨left, length, low, high, full⟩ :=
        ih (fun other member => small other (List.mem_cons_of_mem _ member)) (start * 10 + digit)
      simp only [takeDigits, fits, if_true, List.foldl_cons, List.length_cons]
      exact ⟨left, by omega, low, high, full⟩
    · obtain ⟨low, high⟩ := foldl_digits_bounds small start
      rw [takeDigits, if_neg fits]
      exact ⟨(digit :: digits).length, by simp, low, high, fun _ => by omega⟩

end

/-! ## Powers of ten -/

/-- Numbers between a half and `2 ^ 200` are far from the least and the greatest ones. -/
theorem binary_range {x : ℚ} (least : 1 / 2 ≤ x) (most : x ≤ 2 ^ 200) :
    (2 : ℚ) ^ (Binary64.minExponent + 52) ≤ x ∧ x < 2 ^ (Binary64.maxExponent + 52) := by
  constructor
  · calc (2 : ℚ) ^ (Binary64.minExponent + 52) ≤ 2 ^ (-1 : ℤ) :=
        zpow_le_zpow_right₀ one_le_two (by decide)
      _ = 1 / 2 := by rw [zpow_neg_one, one_div]
      _ ≤ x := least
  · calc x ≤ 2 ^ (200 : ℤ) := by exact_mod_cast most
      _ < 2 ^ (Binary64.maxExponent + 52) := zpow_lt_zpow_right₀ one_lt_two (by decide)

/-- A natural number has a nearest binary number. -/
theorem exists_nearest?_nat {n : ℕ} (least : 1 ≤ n) (most : n ≤ 2 ^ 200) :
    ∃ b, Binary64.nearest? false n 1 = some b ∧ b.Full ∧ Close (1 / 2 ^ 53) b.magnitude n := by
  have fraction : (n : ℚ) / (1 : ℕ) = n := by rw [Nat.cast_one, div_one]
  have one : (1 : ℚ) ≤ n := by exact_mod_cast least
  obtain ⟨low, high⟩ := binary_range (by linarith) (show (n : ℚ) ≤ 2 ^ 200 by exact_mod_cast most)
  rw [← fraction] at low high ⊢
  obtain ⟨b, found, -, full, close⟩ := Binary64.exists_nearest? false Nat.one_pos low high
  exact ⟨b, found, full, close⟩

/-- A significand times a power of ten, with an error for each of them and for their product. -/
theorem exists_timesTenTo {significand places : ℕ} (least : 1 ≤ significand)
    (most : significand ≤ 2 ^ 100) (small : places ≤ 11) :
    ∃ value result, Binary64.nearest? false significand 1 = some value ∧
      timesTenTo value places = some result ∧ result.Full ∧
      Close (7 / 2 ^ 54) result.magnitude (significand * 10 ^ places : ℕ) := by
  have powers : 10 ^ places ≤ 10 ^ 11 := Nat.pow_le_pow_right (by decide) small
  obtain ⟨value, first, -, close⟩ := exists_nearest?_nat least (by omega)
  obtain ⟨power, second, -, close'⟩ :=
    exists_nearest?_nat (n := 10 ^ places) (Nat.one_le_pow _ _ (by decide)) (by omega)
  have factors := close.mul close' (by positivity) (by positivity)
  rw [← Nat.cast_mul] at factors
  have one : 1 ≤ significand * 10 ^ places :=
    Nat.mul_le_mul least (Nat.one_le_pow _ _ (by decide))
  have many : significand * 10 ^ places ≤ 2 ^ 100 * 10 ^ 11 := Nat.mul_le_mul most powers
  have one' : (1 : ℚ) ≤ (significand * 10 ^ places : ℕ) := by exact_mod_cast one
  have many' : ((significand * 10 ^ places : ℕ) : ℚ) ≤ 2 ^ 100 * 10 ^ 11 := by exact_mod_cast many
  obtain ⟨low, high⟩ := close_iff.mp factors
  obtain ⟨above, below⟩ := binary_range (x := value.magnitude * power.magnitude)
    (by linarith) (by linarith)
  obtain ⟨result, product, -, full, close⟩ := Binary64.exists_mul? above below
  refine ⟨value, result, first, ?_, full, ?_⟩
  · have near : (places : ℤ).natAbs ≤ 308 := by omega
    have positive : (0 : ℤ) ≤ places := by omega
    rw [timesTenTo, if_pos near]
    simp only [positive, if_true, Int.natAbs_natCast, Binary64.tenTo?, Nat.pow_eq, second,
      Option.bind_eq_bind, Option.bind_some, product]
  · exact (close.trans factors (by positivity)).mono (by norm_num) (by positivity)

/-! ## Literals -/

/-- Where no digit is left out the significand is the number, and else it has at least 61 bits. -/
theorem significand_bounds {significand left n : ℕ} (low : significand * 10 ^ left ≤ n)
    (high : n < (significand + 1) * 10 ^ left)
    (full : left ≠ 0 → significandLimit ≤ significand * 10 + 9) (least : 2 ^ 60 ≤ n)
    (most : n ≤ 2 ^ 100) : 2 ^ 60 ≤ significand ∧ significand ≤ 2 ^ 100 ∧ left ≤ 11 := by
  rw [significandLimit] at full
  rcases Nat.eq_zero_or_pos left with rfl | positive
  · omega
  · have enough := full positive.ne'
    have power : 1 ≤ 10 ^ left := Nat.one_le_pow _ _ (by decide)
    have less : significand * 1 ≤ significand * 10 ^ left := Nat.mul_le_mul_left _ power
    refine ⟨by omega, by omega, Nat.not_lt.mp fun many => ?_⟩
    have great : 10 ^ 12 ≤ 10 ^ left := Nat.pow_le_pow_right (by decide) many
    have product : significand * 10 ^ 12 ≤ significand * 10 ^ left := Nat.mul_le_mul_left _ great
    omega

/-- A great integer literal is read as a binary number that is near to it. -/
theorem exists_toReal? {literal : Literal} {n : ℤ} (integer : literal.IsInteger n)
    (least : 2 ^ 60 ≤ n.natAbs) (most : n.natAbs ≤ 2 ^ 100) :
    ∃ b, literal.toReal? = some b ∧ b.negative = literal.negative ∧ b.Full ∧
      Close (1 / 2 ^ 51) b.magnitude n.natAbs := by
  rw [integer.natAbs_eq] at least most ⊢
  obtain ⟨left, length, low, high, full⟩ := takeDigits_spec integer.digits 0
  rw [← ofDigits] at low high
  obtain ⟨enough, few, short⟩ := significand_bounds low high full least most
  obtain ⟨value, result, first, product, normal, close⟩ :=
    exists_timesTenTo (by omega) few short
  have start : ((literal.whole.length - (takeDigits 0 literal.whole).2 : ℕ) : ℤ) - (0 : ℕ) =
      left := by omega
  refine ⟨{ result with negative := literal.negative }, ?_, rfl, normal, ?_⟩
  · simp only [Literal.toReal?, integer.fraction, integer.exponent, Option.getD_none, takeDigits,
      start, first, product, Option.bind_eq_bind, Option.bind_some, Option.map_eq_map,
      Option.map_some]
  · -- what is cut off is less than one unit of the last digit taken
    have cut : Close (1 / 2 ^ 60) ((takeDigits 0 literal.whole).1 * 10 ^ left : ℕ)
        (ofDigits literal.whole) := by
      have many : 2 ^ 60 * 10 ^ left ≤ (takeDigits 0 literal.whole).1 * 10 ^ left :=
        Nat.mul_le_mul_right _ enough
      rw [add_mul, one_mul] at high
      have low' : (((takeDigits 0 literal.whole).1 * 10 ^ left : ℕ) : ℚ) ≤
          ofDigits literal.whole := by exact_mod_cast low
      have high' : (ofDigits literal.whole : ℚ) <
          ((takeDigits 0 literal.whole).1 * 10 ^ left : ℕ) + 10 ^ left := by exact_mod_cast high
      have many' : (2 : ℚ) ^ 60 * 10 ^ left ≤ ((takeDigits 0 literal.whole).1 * 10 ^ left : ℕ) := by
        exact_mod_cast many
      have unit : (10 : ℚ) ^ left = 1 / 2 ^ 60 * (2 ^ 60 * 10 ^ left) := by ring
      rw [Close, abs_sub_comm, abs_of_nonneg (by linarith)]
      linarith
    exact (close.trans cut (by positivity)).mono (by norm_num) (by positivity)

/-- A zero with a sign is read as a binary zero. -/
theorem exists_toReal?_zero {literal : Literal} (integer : literal.IsInteger 0) :
    ∃ b, literal.toReal? = some b ∧ b.negative = literal.negative ∧ b.significand = 0 := by
  obtain ⟨left, length, low, -, full⟩ := takeDigits_spec integer.digits 0
  rw [← ofDigits, ← integer.natAbs_eq, Int.natAbs_zero, Nat.le_zero, mul_eq_zero,
    or_iff_left (pow_ne_zero left (by decide))] at low
  obtain rfl : left = 0 := by
    by_contra more
    have enough := full more
    rw [low, significandLimit] at enough
    omega
  have start : ((literal.whole.length - (takeDigits 0 literal.whole).2 : ℕ) : ℤ) - (0 : ℕ) = 0 := by
    omega
  obtain ⟨power, one, -, -⟩ := exists_nearest?_nat (n := 10 ^ 0) (by decide) (by decide)
  have product : timesTenTo (Binary64.zero false) 0 =
      some (Binary64.zero (false != power.negative)) := by
    rw [timesTenTo, if_pos (by decide)]
    simp only [Int.natAbs_zero, Binary64.tenTo?, Nat.pow_eq, one, Option.bind_eq_bind,
      Option.bind_some, le_refl, if_true, Binary64.zero_mul?]
  refine ⟨⟨literal.negative, 0, Binary64.minExponent⟩, ?_, rfl, rfl⟩
  simp only [Literal.toReal?, integer.fraction, integer.exponent, Option.getD_none, takeDigits,
    start, low, Binary64.nearest?, if_true, product, Option.bind_eq_bind, Option.bind_some,
    Option.map_eq_map, Option.map_some]
  rfl

end DerivedFields.JsonNumber

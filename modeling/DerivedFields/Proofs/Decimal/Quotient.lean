import DerivedFields.Decimal.Arithmetic
import DerivedFields.Proofs.Decimal.Rounding

/-!
# Results of arithmetic

A sum, a product or a quotient that a decimal can hold is exact. Any other quotient is computed with
as many places as its digits leave room for: one place more would take it to 96 bits or beyond.
-/

namespace DerivedFields.Decimal

variable {a b d : Decimal} {n : ℤ} {bound scale : ℕ}

theorem magnitude_lt (d : Decimal) : d.magnitude < limit := by
  have least : (1 : ℚ) ≤ 10 ^ d.scale := one_le_pow₀ (by norm_num)
  have fits : (d.coefficient : ℚ) < limit := by exact_mod_cast d.coefficient_lt
  rw [magnitude]
  exact lt_of_le_of_lt (div_le_self (Nat.cast_nonneg _) least) fits

theorem magnitude_mul_pow (d : Decimal) : d.magnitude * 10 ^ d.scale = d.coefficient := by
  have ten : (10 : ℚ) ^ d.scale ≠ 0 := by positivity
  rw [magnitude, div_mul_cancel₀ _ ten]

/-- A magnitude is a whole number of units at any scale that is not below that of the decimal. -/
theorem magnitude_eq_div (fits : d.scale ≤ scale) :
    d.magnitude = (d.coefficient * 10 ^ (scale - d.scale) : ℕ) / 10 ^ scale := by
  obtain ⟨more, rfl⟩ := Nat.exists_eq_add_of_le fits
  rw [magnitude, Nat.add_sub_cancel_left, pow_add]
  push_cast
  field_simp

theorem magnitude_eq_zero_iff : d.magnitude = 0 ↔ d.isZero = true := by
  rw [isZero_iff, ← abs_toRat, abs_eq_zero]

theorem magnitude_pos (nonzero : d.isZero = false) : 0 < d.magnitude := by
  refine lt_of_le_of_ne d.magnitude_nonneg fun empty => ?_
  rw [magnitude_eq_zero_iff.mp empty.symm] at nonzero
  cases nonzero

/-! ## Integers -/

theorem toRat_ofInt (fits : n.natAbs < limit) : (ofInt n).toRat = n := by
  have kept : min n.natAbs 0xffffffffffffffffffffffff = n.natAbs := by
    rw [limit] at fits
    omega
  rw [toRat_eq_withSign, magnitude, ← withSign_natAbs n]
  simp only [ofInt, kept, pow_zero, div_one]

theorem natAbs_lt_limit (value : d.toRat = n) : n.natAbs < limit := by
  have fits := d.magnitude_lt
  rw [← abs_toRat, value, ← Int.cast_abs, ← Nat.cast_natAbs] at fits
  exact_mod_cast fits

theorem isInteger_iff : d.isInteger = true ↔ ∃ n : ℤ, d.toRat = n := by
  have ten : (10 : ℚ) ^ d.scale ≠ 0 := by positivity
  rw [isInteger, beq_iff_eq, Nat.pow_eq, ← Nat.dvd_iff_mod_eq_zero, ← natAbs_signed,
    ← Int.natCast_dvd]
  constructor
  · rintro ⟨n, multiple⟩
    refine ⟨n, ?_⟩
    rw [toRat, multiple, div_eq_iff ten]
    push_cast
    ring
  · rintro ⟨n, value⟩
    refine ⟨n, ?_⟩
    rw [toRat, div_eq_iff ten, mul_comm] at value
    exact_mod_cast value

/-! ## Sums and products -/

/-- A sum that a decimal can hold is exact. -/
theorem add?_exact (value : a.toRat + b.toRat = d.toRat) :
    ∃ sum, a.add? b = some sum ∧ sum.toRat = d.toRat := by
  rw [add?]
  split
  · next empty =>
    rw [isZero_iff.mp empty, zero_add] at value
    exact ⟨b, rfl, value⟩
  split
  · next empty =>
    rw [isZero_iff.mp empty, add_zero] at value
    exact ⟨a, rfl, value⟩
  set scale := max a.scale b.scale with greater
  have tens : (10 : ℚ) ^ scale ≠ 0 := by positivity
  set sum := a.signedAt scale + b.signedAt scale with added
  have total : (sum : ℚ) / 10 ^ scale = d.toRat := by
    rw [added, Int.cast_add, signedAt_eq_toRat (le_max_left _ _),
      signedAt_eq_toRat (le_max_right _ _), ← add_mul, mul_div_cancel_right₀ _ tens, value]
  have split : (sum : ℚ) / 10 ^ scale = withSign (decide (sum < 0)) (sum.natAbs / 10 ^ scale) := by
    rw [← withSign_natAbs sum, withSign_div_right]
  have size : (sum.natAbs : ℚ) / 10 ^ scale = d.magnitude := by
    rw [← abs_toRat, ← total, split, abs_withSign, abs_of_nonneg (by positivity)]
  obtain ⟨result, fitted, number⟩ := fit?_exact (decide (sum < 0)) size
  refine ⟨result, fitted, ?_⟩
  rw [number, ← size, ← split, total]

/-- A product that a decimal can hold is exact. -/
theorem mul?_exact (value : a.toRat * b.toRat = d.toRat) :
    ∃ product, a.mul? b = some product ∧ product.toRat = d.toRat := by
  rw [mul?]
  split
  · next empty =>
    refine ⟨zero, rfl, ?_⟩
    rw [Bool.or_eq_true, isZero_iff, isZero_iff] at empty
    rw [isZero_iff.mp rfl, ← value, eq_comm, mul_eq_zero]
    exact empty
  have split : a.toRat * b.toRat =
      withSign (a.negative != b.negative) (a.magnitude * b.magnitude) := by
    rw [toRat_eq_withSign, toRat_eq_withSign, withSign_mul]
  have size :
      ((a.coefficient * b.coefficient : ℕ) : ℚ) / 10 ^ (a.scale + b.scale) = d.magnitude := by
    rw [← abs_toRat, ← value, split, abs_withSign,
      abs_of_nonneg (mul_nonneg a.magnitude_nonneg b.magnitude_nonneg), magnitude, magnitude,
      pow_add]
    push_cast
    field_simp
  obtain ⟨product, fitted, number⟩ := fit?_exact (a.negative != b.negative) size
  refine ⟨product, fitted, ?_⟩
  rw [number, ← value, split, ← size, magnitude, magnitude, pow_add]
  push_cast
  congr 1
  field_simp

/-! ## Quotients -/

theorem quotientAt_pos (nonzero : b.isZero = false) (scale : ℕ) : 0 < (quotientAt a b scale).2 := by
  have positive : b.coefficient ≠ 0 := beq_eq_false_iff_ne.mp nonzero
  exact Nat.mul_pos (Nat.pos_of_ne_zero positive) (Nat.pow_pos (by decide))

theorem quotientAt_eq (nonzero : b.isZero = false) (scale : ℕ) :
    ((quotientAt a b scale).1 : ℚ) / (quotientAt a b scale).2 =
      a.magnitude / b.magnitude * 10 ^ scale := by
  have positive : (b.coefficient : ℚ) ≠ 0 := by
    exact_mod_cast beq_eq_false_iff_ne.mp nonzero
  simp only [quotientAt, magnitude, Nat.pow_eq, pow_add]
  push_cast
  field_simp

private theorem quotientAt_lt_iff (nonzero : b.isZero = false) (scale : ℕ) :
    (quotientAt a b scale).1 / (quotientAt a b scale).2 < limit ↔
      a.magnitude / b.magnitude * 10 ^ scale < limit := by
  have nonneg : 0 ≤ a.magnitude / b.magnitude * 10 ^ scale := by
    have := a.magnitude_nonneg
    have := b.magnitude_nonneg
    positivity
  rw [← Nat.floor_div_eq_div (K := ℚ), quotientAt_eq nonzero, Nat.floor_lt nonneg]

/-- The places of a quotient are as many as its digits leave room for. -/
theorem quotientScale?_spec (nonzero : b.isZero = false) (bound : ℕ) :
    match quotientScale? a b bound with
    | some scale => scale ≤ bound ∧ a.magnitude / b.magnitude * 10 ^ scale < limit ∧
        (scale < bound → limit ≤ a.magnitude / b.magnitude * 10 ^ (scale + 1))
    | none => limit ≤ a.magnitude / b.magnitude := by
  induction bound with
  | zero =>
    have fits := quotientAt_lt_iff (a := a) nonzero 0
    rw [pow_zero, mul_one] at fits
    simp only [quotientScale?]
    by_cases small : (quotientAt a b 0).1 / (quotientAt a b 0).2 < limit
    · simp only [small, if_true, pow_zero, mul_one, lt_irrefl, false_imp_iff, and_true]
      exact ⟨Nat.le_refl 0, fits.mp small⟩
    · simp only [small, if_false]
      exact not_lt.mp fun below => small (fits.mpr below)
  | succ bound ih =>
    have fits := quotientAt_lt_iff (a := a) nonzero (bound + 1)
    simp only [quotientScale?]
    by_cases small : (quotientAt a b (bound + 1)).1 / (quotientAt a b (bound + 1)).2 < limit
    · simp only [small, if_true]
      exact ⟨Nat.le_refl _, fits.mp small, fun less => absurd less (Nat.lt_irrefl _)⟩
    · have large := not_lt.mp fun below => small (fits.mpr below)
      simp only [small, if_false]
      cases found : quotientScale? a b bound with
      | none =>
        rw [found] at ih
        exact ih
      | some scale =>
        rw [found] at ih
        obtain ⟨within, room, next⟩ := ih
        refine ⟨Nat.le_succ_of_le within, room, fun _ => ?_⟩
        rcases Nat.lt_or_eq_of_le within with less | rfl
        · exact next less
        · exact large

/-- A quotient below the limit has places. -/
theorem exists_quotientScale? (nonzero : b.isZero = false)
    (small : a.magnitude / b.magnitude < limit) :
    ∃ scale, quotientScale? a b maxScale = some scale ∧ scale ≤ maxScale ∧
      a.magnitude / b.magnitude * 10 ^ scale < limit ∧
      (scale < maxScale → limit ≤ a.magnitude / b.magnitude * 10 ^ (scale + 1)) := by
  have spec := quotientScale?_spec (a := a) nonzero maxScale
  cases found : quotientScale? a b maxScale with
  | none =>
    rw [found] at spec
    exact absurd small (not_lt.mpr spec)
  | some scale =>
    rw [found] at spec
    exact ⟨scale, rfl, spec⟩

/-- A quotient is rounded to the places that it has. -/
theorem div?_eq (dividend : a.isZero = false) (found : quotientScale? a b maxScale = some scale) :
    a.div? b = fit? (a.negative != b.negative)
      (roundedQuotient .even (quotientAt a b scale).1 (quotientAt a b scale).2) scale := by
  simp only [div?, dividend, Bool.false_eq_true, if_false, found, Option.bind_eq_bind,
    Option.bind_some]

theorem toRat_div_toRat (a b : Decimal) :
    a.toRat / b.toRat = withSign (a.negative != b.negative) (a.magnitude / b.magnitude) := by
  rw [toRat_eq_withSign, toRat_eq_withSign, withSign_div]

theorem div_magnitude_nonneg (a b : Decimal) : 0 ≤ a.magnitude / b.magnitude :=
  div_nonneg a.magnitude_nonneg b.magnitude_nonneg

/-- A quotient that a decimal can hold is exact. -/
theorem div?_exact (nonzero : b.isZero = false) (value : a.toRat / b.toRat = d.toRat) :
    ∃ quotient, a.div? b = some quotient ∧ quotient.toRat = d.toRat := by
  cases dividend : a.isZero with
  | true =>
    rw [isZero_iff.mp dividend, zero_div] at value
    refine ⟨zero, ?_, ?_⟩
    · rw [div?, if_pos dividend]
    · rw [isZero_iff.mp rfl, value]
  | false =>
    have size : a.magnitude / b.magnitude = d.magnitude := by
      rw [← d.abs_toRat, ← value, toRat_div_toRat, abs_withSign,
        abs_of_nonneg (div_magnitude_nonneg a b)]
    obtain ⟨scale, found, -, -, next⟩ := exists_quotientScale? (a := a) nonzero
      (size.trans_lt d.magnitude_lt)
    -- all digits of the quotient have a place
    have enough : d.scale ≤ scale := by
      by_contra fewer
      have places := d.scale_le
      have large := next (by rw [maxScale]; omega)
      have more : (10 : ℚ) ^ (scale + 1) ≤ 10 ^ d.scale :=
        pow_le_pow_right₀ (by norm_num) (by omega)
      have fits : (d.coefficient : ℚ) < limit := by exact_mod_cast d.coefficient_lt
      have := mul_le_mul_of_nonneg_left more d.magnitude_nonneg
      rw [magnitude_mul_pow] at this
      rw [size] at large
      linarith
    have ten : (10 : ℚ) ^ scale ≠ 0 := by positivity
    have rounded : roundedQuotient .even (quotientAt a b scale).1 (quotientAt a b scale).2 =
        d.coefficient * 10 ^ (scale - d.scale) := by
      apply roundedQuotient_of_eq .even (quotientAt_pos nonzero scale)
      rw [quotientAt_eq nonzero, size, magnitude_eq_div enough, div_mul_cancel₀ _ ten]
    obtain ⟨quotient, fitted, number⟩ := fit?_exact (a.negative != b.negative)
      (magnitude_eq_div enough).symm
    refine ⟨quotient, ?_, ?_⟩
    · rw [div?_eq dividend found, rounded, fitted]
    · rw [number, ← value, toRat_div_toRat, size]

end DerivedFields.Decimal

import Mathlib
import DerivedFields.Decimal.Basic

/-!
# Decimals as numbers

A decimal stands for a rational number, and `equals` tells whether two of them stand for the same
one. In normal form a fraction does not end in zero, and zero has neither places nor a sign. So two
decimals stand for the same number if and only if they have the same normal form.
-/

namespace DerivedFields.Decimal

theorem natAbs_signed (d : Decimal) : d.signed.natAbs = d.coefficient := by
  rw [signed]
  split <;> omega

/-- Only zero may have a sign that does not show in its number. -/
theorem negative_eq {d : Decimal} (nonzero : d.coefficient ≠ 0) :
    d.negative = decide (d.signed < 0) := by
  rw [signed]
  cases d.negative with
  | false => simp
  | true => simp [Nat.pos_of_ne_zero nonzero]

/-- The number that a decimal stands for. -/
def toRat (d : Decimal) : ℚ := d.signed / 10 ^ d.scale

theorem signedAt_eq_toRat {d : Decimal} {scale : Nat} (fits : d.scale ≤ scale) :
    (d.signedAt scale : ℚ) = d.toRat * 10 ^ scale := by
  obtain ⟨more, rfl⟩ := Nat.exists_eq_add_of_le fits
  have ten : (10 : ℚ) ^ d.scale ≠ 0 := by positivity
  rw [signedAt, toRat, Nat.add_sub_cancel_left, Nat.pow_eq, pow_add]
  push_cast
  field_simp

theorem equals_iff {a b : Decimal} : a.equals b = true ↔ a.toRat = b.toRat := by
  have ten : (10 : ℚ) ^ max a.scale b.scale ≠ 0 := by positivity
  have left := signedAt_eq_toRat (Nat.le_max_left a.scale b.scale)
  have right := signedAt_eq_toRat (Nat.le_max_right a.scale b.scale)
  rw [equals, beq_iff_eq, compare, compare_eq_iff_eq, ← Int.cast_inj (α := ℚ), left, right,
    mul_left_inj' ten]

theorem isZero_iff {d : Decimal} : d.isZero = true ↔ d.toRat = 0 := by
  have ten : (10 : ℚ) ^ d.scale ≠ 0 := by positivity
  rw [isZero, beq_iff_eq, toRat, div_eq_zero_iff, or_iff_left ten, Int.cast_eq_zero,
    ← Int.natAbs_eq_zero, natAbs_signed]

/-- No zero ends the fraction, and zero itself has no places and no sign. -/
structure IsNormal (d : Decimal) : Prop where
  eq_zero : d.coefficient = 0 → d = zero
  last_digit : d.scale ≠ 0 → d.coefficient % 10 ≠ 0

/-! ## Trailing zeros -/

private theorem stripZeros_value (coefficient scale : Nat) :
    (stripZeros coefficient scale).1 * 10 ^ scale =
      coefficient * 10 ^ (stripZeros coefficient scale).2 := by
  induction scale generalizing coefficient with
  | zero => rfl
  | succ scale ih =>
    rw [stripZeros]
    split
    · next trailing =>
      have whole : coefficient / 10 * 10 = coefficient := Nat.div_mul_cancel
        (Nat.dvd_of_mod_eq_zero trailing)
      calc (stripZeros (coefficient / 10) scale).1 * 10 ^ (scale + 1)
          = (stripZeros (coefficient / 10) scale).1 * 10 ^ scale * 10 := by rw [pow_succ, mul_assoc]
        _ = coefficient / 10 * 10 * 10 ^ (stripZeros (coefficient / 10) scale).2 := by
          rw [ih, mul_right_comm]
        _ = coefficient * 10 ^ (stripZeros (coefficient / 10) scale).2 := by rw [whole]
    · rfl

private theorem stripZeros_last_digit (coefficient scale : Nat)
    (fraction : (stripZeros coefficient scale).2 ≠ 0) :
    (stripZeros coefficient scale).1 % 10 ≠ 0 := by
  induction scale generalizing coefficient with
  | zero => exact absurd rfl fraction
  | succ scale ih =>
    rw [stripZeros] at fraction ⊢
    split at fraction
    · next trailing =>
      rw [if_pos trailing]
      exact ih _ fraction
    · next other =>
      rw [if_neg other]
      exact other

private theorem stripZeros_ne_zero {coefficient : Nat} (scale : Nat) (nonzero : coefficient ≠ 0) :
    (stripZeros coefficient scale).1 ≠ 0 := by
  intro gone
  have value := stripZeros_value coefficient scale
  rw [gone, zero_mul] at value
  rcases Nat.mul_eq_zero.mp value.symm with empty | empty
  · exact nonzero empty
  · exact absurd empty (Nat.ne_of_gt (Nat.pow_pos (by decide)))

/-! ## The normal form -/

private theorem normalize_of_zero {d : Decimal} (empty : d.coefficient = 0) : d.normalize = zero :=
  if_pos empty

private theorem normalize_parts {d : Decimal} (nonzero : d.coefficient ≠ 0) :
    d.normalize.negative = d.negative ∧
      d.normalize.coefficient = (stripZeros d.coefficient d.scale).1 ∧
      d.normalize.scale = (stripZeros d.coefficient d.scale).2 := by
  rw [normalize, if_neg nonzero]
  exact ⟨rfl, rfl, rfl⟩

theorem isNormal_normalize (d : Decimal) : d.normalize.IsNormal := by
  by_cases empty : d.coefficient = 0
  · rw [normalize_of_zero empty]
    exact ⟨fun _ => rfl, fun fraction => absurd rfl fraction⟩
  · obtain ⟨-, coefficient, scale⟩ := normalize_parts empty
    constructor
    · intro gone
      rw [coefficient] at gone
      exact absurd gone (stripZeros_ne_zero d.scale empty)
    · rw [coefficient, scale]
      exact stripZeros_last_digit d.coefficient d.scale

theorem toRat_normalize (d : Decimal) : d.normalize.toRat = d.toRat := by
  by_cases empty : d.coefficient = 0
  · rw [normalize_of_zero empty]
    have left : zero.toRat = 0 := isZero_iff.mp rfl
    rw [left, eq_comm, ← isZero_iff, isZero, beq_iff_eq, empty]
  · obtain ⟨negative, coefficient, scale⟩ := normalize_parts empty
    have value := stripZeros_value d.coefficient d.scale
    rw [← coefficient, ← scale] at value
    have value : (d.normalize.coefficient : ℚ) * 10 ^ d.scale =
        d.coefficient * 10 ^ d.normalize.scale := by exact_mod_cast value
    have tens : (10 : ℚ) ^ d.normalize.scale ≠ 0 ∧ (10 : ℚ) ^ d.scale ≠ 0 := by
      constructor <;> positivity
    rw [toRat, toRat, div_eq_div_iff tens.1 tens.2, signed, signed, negative]
    split
    · push_cast
      rw [neg_mul, neg_mul, value]
    · push_cast
      exact value

/-- The places of a decimal in normal form are as few as its number allows. -/
theorem IsNormal.scale_le {a b : Decimal} (normal : a.IsNormal) (same : a.toRat = b.toRat) :
    a.scale ≤ b.scale := by
  by_contra more
  obtain ⟨places, split⟩ := Nat.exists_eq_add_of_lt (Nat.lt_of_not_le more)
  have ten : (10 : ℚ) ^ a.scale ≠ 0 := by positivity
  have value : (a.signed : ℚ) = b.toRat * 10 ^ a.scale := by
    rw [← same, toRat, div_mul_cancel₀ _ ten]
  rw [← signedAt_eq_toRat (Nat.le_of_lt (Nat.lt_of_not_le more)), Int.cast_inj, signedAt] at value
  have tenfold : (10 : Int) ∣ a.signed := by
    rw [value, split, add_assoc, Nat.add_sub_cancel_left, Nat.pow_eq, pow_succ]
    push_cast
    exact Dvd.intro_left _ (mul_assoc _ _ _)
  have trailing : 10 ∣ a.coefficient := by
    rw [← natAbs_signed]
    exact Int.natCast_dvd.mp tenfold
  exact normal.last_digit (by omega) (Nat.mod_eq_zero_of_dvd trailing)

/-- The normal form is determined by the number. -/
theorem IsNormal.eq {a b : Decimal} (left : a.IsNormal) (right : b.IsNormal)
    (same : a.toRat = b.toRat) : a = b := by
  have scale : a.scale = b.scale := Nat.le_antisymm (left.scale_le same) (right.scale_le same.symm)
  have ten : (10 : ℚ) ^ b.scale ≠ 0 := by positivity
  have value : a.signed = b.signed := by
    rw [toRat, toRat, scale, div_left_inj' ten] at same
    exact_mod_cast same
  have coefficient : a.coefficient = b.coefficient := by
    rw [← natAbs_signed a, value, natAbs_signed]
  by_cases empty : a.coefficient = 0
  · rw [left.eq_zero empty, right.eq_zero (coefficient.symm.trans empty)]
  · have negative : a.negative = b.negative := by
      rw [negative_eq empty, negative_eq (coefficient ▸ empty), value]
    cases a
    cases b
    cases negative
    cases coefficient
    cases scale
    rfl

theorem normalize_eq_iff {a b : Decimal} : a.normalize = b.normalize ↔ a.toRat = b.toRat := by
  constructor
  · intro same
    rw [← toRat_normalize a, same, toRat_normalize b]
  · intro same
    apply (isNormal_normalize a).eq (isNormal_normalize b)
    rw [toRat_normalize, toRat_normalize, same]

end DerivedFields.Decimal

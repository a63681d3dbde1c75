import Mathlib
import DerivedFields.Binary64.Basic
import DerivedFields.Proofs.Decimal.Rounding

/-!
# Rounding to binary numbers

A fraction is rounded to a significand of 53 bits, so the binary number differs from it by one part
in `2 ^ 53` at most, unless it is among the least numbers. Errors of this kind add up over products.
-/

namespace DerivedFields

/-! ## Relative errors -/

/-- A number differs from a positive one by no more than a part of it. -/
def Close (error x y : ℚ) : Prop := |x - y| ≤ error * y

section

variable {a b x y z w : ℚ}

theorem close_iff : Close a x y ↔ (1 - a) * y ≤ x ∧ x ≤ (1 + a) * y := by
  rw [Close, abs_le]
  constructor <;> rintro ⟨low, high⟩ <;> constructor <;> linarith

theorem Close.mono (close : Close a x y) (more : a ≤ b) (nonneg : 0 ≤ y) : Close b x y :=
  close.trans (mul_le_mul_of_nonneg_right more nonneg)

private theorem Close.mul_right (close : Close a x y) (nonneg : 0 ≤ z) : Close a (x * z) (y * z) := by
  rw [Close, ← sub_mul, abs_mul, abs_of_nonneg nonneg, ← mul_assoc]
  exact mul_le_mul_of_nonneg_right close nonneg

/-- Errors one after the other. -/
theorem Close.trans (first : Close a x y) (second : Close b y z) (positive : 0 ≤ a) :
    Close (a + b + a * b) x z := by
  have bound : y ≤ (1 + b) * z := (close_iff.mp second).2
  calc |x - z| ≤ |x - y| + |y - z| := abs_sub_le x y z
    _ ≤ a * y + b * z := add_le_add first second
    _ ≤ a * ((1 + b) * z) + b * z := by gcongr
    _ = (a + b + a * b) * z := by ring

/-- Errors of the factors of a product. -/
theorem Close.mul (left : Close a x y) (right : Close b z w) (first : 0 ≤ y) (second : 0 ≤ w) :
    Close (a + b + a * b) (x * z) (y * w) := by
  have bound : |z| ≤ (1 + b) * w := by
    have low := (close_iff.mp right).1
    have high := (close_iff.mp right).2
    have error : 0 ≤ b * w := (abs_nonneg _).trans right
    rw [abs_le]
    constructor <;> linarith
  calc |x * z - y * w| = |(x - y) * z + y * (z - w)| := by ring_nf
    _ ≤ |x - y| * |z| + |y| * |z - w| := by
      rw [← abs_mul, ← abs_mul]
      exact abs_add_le _ _
    _ ≤ a * y * ((1 + b) * w) + y * (b * w) := by
      rw [abs_of_nonneg first]
      exact add_le_add (mul_le_mul left bound (abs_nonneg z) ((abs_nonneg _).trans left))
        (mul_le_mul_of_nonneg_left right first)
    _ = (a + b + a * b) * (y * w) := by ring

end

namespace Binary64

/-! ## Fractions -/

/-- The number that a binary number stands for, without its sign. -/
def magnitude (b : Binary64) : ℚ := b.significand * 2 ^ b.exponent

/-- A power is an integer or the part of one. -/
theorem fraction_of_power (base : ℕ) (positive : 0 < base) (exponent : ℤ) :
    let fraction : ℕ × ℕ :=
      if 0 ≤ exponent then (Nat.pow base exponent.toNat, 1) else (1, Nat.pow base (-exponent).toNat)
    0 < fraction.1 ∧ 0 < fraction.2 ∧ (fraction.1 : ℚ) / fraction.2 = (base : ℚ) ^ exponent := by
  have power (n : ℕ) : 0 < Nat.pow base n := Nat.pow_pos positive
  by_cases whole : 0 ≤ exponent
  · simp only [whole, if_true]
    refine ⟨power _, Nat.one_pos, ?_⟩
    obtain ⟨n, rfl⟩ := Int.eq_ofNat_of_zero_le whole
    simp only [Int.toNat_natCast, Nat.pow_eq, Nat.cast_pow, Nat.cast_one, div_one, zpow_natCast]
  · simp only [whole, if_false]
    refine ⟨Nat.one_pos, power _, ?_⟩
    obtain ⟨n, negated⟩ := Int.eq_ofNat_of_zero_le (show 0 ≤ -exponent by omega)
    obtain rfl : exponent = -(n : ℤ) := by omega
    simp only [neg_neg, Int.toNat_natCast, Nat.pow_eq, Nat.cast_pow, Nat.cast_one, one_div,
      zpow_neg, zpow_natCast]

theorem powerOfTwo_spec (exponent : ℤ) :
    0 < (powerOfTwo exponent).1 ∧ 0 < (powerOfTwo exponent).2 ∧
      ((powerOfTwo exponent).1 : ℚ) / (powerOfTwo exponent).2 = 2 ^ exponent :=
  fraction_of_power 2 (by decide) exponent

theorem toFraction_spec (b : Binary64) :
    0 < b.toFraction.2 ∧ (b.toFraction.1 : ℚ) / b.toFraction.2 = b.magnitude := by
  obtain ⟨-, positive, value⟩ := powerOfTwo_spec b.exponent
  refine ⟨positive, ?_⟩
  rw [magnitude, ← value, mul_div_assoc', ← Nat.cast_mul]
  rfl

private theorem scaled_spec (n : ℕ) {d : ℕ} (positive : 0 < d) (exponent : ℤ) :
    0 < (scaled n d exponent).2 ∧
      ((scaled n d exponent).1 : ℚ) / (scaled n d exponent).2 = n / d / 2 ^ exponent := by
  obtain ⟨above, below, value⟩ := powerOfTwo_spec exponent
  refine ⟨Nat.mul_pos positive above, ?_⟩
  simp only [scaled, Nat.cast_mul, ← value]
  rw [div_div_div_eq]

/-! ## The nearest number -/

theorem two_zpow_pos (exponent : ℤ) : (0 : ℚ) < 2 ^ exponent := zpow_pos two_pos exponent

/-- The significand has exactly 53 bits. -/
def Full (b : Binary64) : Prop := 2 ^ 52 ≤ b.significand ∧ b.significand < 2 ^ 53

section

variable {n d : ℕ}

/-- The powers around a number tell its logarithm. -/
theorem log_eq (base : ℕ) (large : 1 < base) {x : ℚ} {exponent : ℤ}
    (least : (base : ℚ) ^ exponent ≤ x) (most : x < (base : ℚ) ^ (exponent + 1)) :
    Int.log base x = exponent := by
  have power : (0 : ℚ) < (base : ℚ) ^ exponent :=
    zpow_pos (Nat.cast_pos.mpr (Nat.zero_lt_of_lt large)) exponent
  have positive : 0 < x := power.trans_le least
  have lower := (Int.zpow_le_iff_le_log large positive).mp least
  have upper := (Int.lt_zpow_iff_log_lt large positive).mp most
  exact le_antisymm (Int.lt_add_one_iff.mp upper) lower

/-- The counts of binary digits tell a fraction's logarithm up to one. -/
private theorem log2_sub_log2 (numerator : 0 < n) (denominator : 0 < d) :
    (2 : ℚ) ^ ((n.log2 : ℤ) - d.log2 - 1) ≤ (n : ℚ) / d ∧
      (n : ℚ) / d < 2 ^ ((n.log2 : ℤ) - d.log2 + 1) := by
  have above : (2 : ℚ) ^ n.log2 ≤ n := by exact_mod_cast Nat.log2_self_le numerator.ne'
  have below : (n : ℚ) < 2 ^ (n.log2 + 1) := by exact_mod_cast Nat.lt_log2_self
  have least : (2 : ℚ) ^ d.log2 ≤ d := by exact_mod_cast Nat.log2_self_le denominator.ne'
  have most : (d : ℚ) < 2 ^ (d.log2 + 1) := by exact_mod_cast Nat.lt_log2_self
  have positive : (0 : ℚ) < d := by exact_mod_cast denominator
  have first : (2 : ℚ) ^ ((n.log2 : ℤ) - d.log2 - 1) = 2 ^ n.log2 / 2 ^ (d.log2 + 1) := by
    rw [← zpow_natCast, ← zpow_natCast, ← zpow_sub₀ two_ne_zero]
    push_cast
    ring_nf
  have second : (2 : ℚ) ^ ((n.log2 : ℤ) - d.log2 + 1) = 2 ^ (n.log2 + 1) / 2 ^ d.log2 := by
    rw [← zpow_natCast, ← zpow_natCast, ← zpow_sub₀ two_ne_zero]
    push_cast
    ring_nf
  rw [first, second]
  constructor
  · gcongr
  · gcongr

/-- The exponent leaves 53 bits to the significand, unless it is the least one. -/
theorem exponentOf_eq (numerator : 0 < n) (denominator : 0 < d) :
    exponentOf n d = max minExponent (Int.log 2 ((n : ℚ) / d) - 52) := by
  obtain ⟨above, below⟩ := log2_sub_log2 numerator denominator
  set low : ℤ := (n.log2 : ℤ) - d.log2 - 53 with lowest
  obtain ⟨positive, value⟩ := scaled_spec n denominator low
  -- the significand at the lower exponent has 53 bits if the logarithm is the lower one
  have fits : (scaled n d low).1 / (scaled n d low).2 < 0x20000000000000 ↔
      (n : ℚ) / d < 2 ^ (low + 53) := by
    rw [Nat.div_lt_iff_lt_mul positive, ← Nat.cast_lt (α := ℚ), Nat.cast_mul,
      ← div_lt_iff₀ (by exact_mod_cast positive), value, div_lt_iff₀ (two_zpow_pos low),
      zpow_add₀ two_ne_zero, mul_comm]
    norm_num
  have logarithm (exponent : ℤ) (least : (2 : ℚ) ^ exponent ≤ (n : ℚ) / d)
      (most : (n : ℚ) / d < 2 ^ (exponent + 1)) : Int.log 2 ((n : ℚ) / d) = exponent :=
    log_eq 2 (by decide) least most
  have choice : exponentOf n d = max minExponent
      (if (scaled n d low).1 / (scaled n d low).2 < 0x20000000000000 then low else low + 1) := rfl
  rw [choice]
  by_cases small : (n : ℚ) / d < 2 ^ (low + 53)
  · rw [if_pos (fits.mpr small), logarithm (low + 52) (by convert above using 2; omega)
      (by convert small using 2; omega)]
    congr 1
    omega
  · rw [if_neg (mt fits.mp small), logarithm (low + 53) (not_lt.mp small)
      (by convert below using 2; omega)]
    congr 1
    omega

/-- At the exponent of a fraction its significand has 53 bits. -/
theorem scaled_bounds (numerator : 0 < n) (denominator : 0 < d) {exponent : ℤ}
    (place : Int.log 2 ((n : ℚ) / d) = exponent + 52) :
    (2 : ℚ) ^ 52 ≤ ((scaled n d exponent).1 : ℚ) / (scaled n d exponent).2 ∧
      ((scaled n d exponent).1 : ℚ) / (scaled n d exponent).2 < 2 ^ 53 := by
  have fraction : (0 : ℚ) < (n : ℚ) / d := by positivity
  have floor : (2 : ℚ) ^ Int.log 2 ((n : ℚ) / d) ≤ (n : ℚ) / d := by
    exact_mod_cast Int.zpow_log_le_self (b := 2) (by decide) fraction
  have ceiling : (n : ℚ) / d < 2 ^ (Int.log 2 ((n : ℚ) / d) + 1) := by
    exact_mod_cast Int.lt_zpow_succ_log_self (b := 2) (by decide) ((n : ℚ) / d)
  have shifted (places : ℕ) : (2 : ℚ) ^ (exponent + places) = 2 ^ places * 2 ^ exponent := by
    rw [zpow_add₀ two_ne_zero, zpow_natCast, mul_comm]
  have next : exponent + 52 + 1 = exponent + (53 : ℕ) := by omega
  rw [place] at floor ceiling
  rw [(scaled_spec n denominator exponent).2, le_div_iff₀ (two_zpow_pos exponent),
    div_lt_iff₀ (two_zpow_pos exponent), ← shifted, ← shifted, ← next]
  exact ⟨floor, ceiling⟩

/-- An integer of 53 bits is rounded from a fraction with an error of half of its last bit. -/
theorem close_roundedQuotient (positive : 0 < d) (least : (2 : ℚ) ^ 52 ≤ (n : ℚ) / d) :
    Close (1 / 2 ^ 53) (roundedQuotient .even n d) ((n : ℚ) / d) := by
  rw [Close]
  calc _ ≤ (1 : ℚ) / 2 := abs_roundedQuotient_sub_le .even n positive
    _ = 1 / 2 ^ 53 * 2 ^ 52 := by norm_num
    _ ≤ 1 / 2 ^ 53 * ((n : ℚ) / d) := by gcongr

private theorem roundedQuotient_bounds (positive : 0 < d) (least : (2 : ℚ) ^ 52 ≤ (n : ℚ) / d)
    (most : (n : ℚ) / d < 2 ^ 53) :
    2 ^ 52 ≤ roundedQuotient .even n d ∧ roundedQuotient .even n d ≤ 2 ^ 53 := by
  have near := abs_le.mp (abs_roundedQuotient_sub_le .even n positive)
  have low : ((2 ^ 52 : ℕ) : ℚ) < (roundedQuotient .even n d + 1 : ℕ) := by
    push_cast
    linarith
  have high : (roundedQuotient .even n d : ℚ) < (2 ^ 53 + 1 : ℕ) := by
    push_cast
    linarith
  rw [Nat.cast_lt] at low high
  omega

/-- Between the least and the greatest numbers of 53 bits every fraction has a nearest number, and
it differs from it by one part in `2 ^ 53` at most. -/
theorem exists_nearest? (negative : Bool) (denominator : 0 < d)
    (least : (2 : ℚ) ^ (minExponent + 52) ≤ (n : ℚ) / d)
    (most : (n : ℚ) / d < 2 ^ (maxExponent + 52)) :
    ∃ b, nearest? negative n d = some b ∧ b.negative = negative ∧ b.Full ∧
      Close (1 / 2 ^ 53) b.magnitude ((n : ℚ) / d) := by
  have fraction : (0 : ℚ) < (n : ℚ) / d := (two_zpow_pos _).trans_le least
  have numerator : 0 < n := by
    rcases Nat.eq_zero_or_pos n with rfl | positive
    · rw [Nat.cast_zero, zero_div] at fraction
      exact absurd fraction (lt_irrefl 0)
    · exact positive
  have lower := (Int.zpow_le_iff_le_log (b := 2) (by decide) fraction).mp (by exact_mod_cast least)
  have upper := (Int.lt_zpow_iff_log_lt (b := 2) (by decide) fraction).mp (by exact_mod_cast most)
  obtain ⟨exponent, place⟩ : ∃ exponent, Int.log 2 ((n : ℚ) / d) = exponent + 52 :=
    ⟨Int.log 2 ((n : ℚ) / d) - 52, by omega⟩
  have chosen : exponentOf n d = exponent := by
    rw [exponentOf_eq numerator denominator]
    omega
  obtain ⟨positive, value⟩ := scaled_spec n denominator exponent
  obtain ⟨enough, few⟩ := scaled_bounds numerator denominator place
  obtain ⟨low, high⟩ := roundedQuotient_bounds positive enough few
  have close := (close_roundedQuotient positive enough).mul_right (two_zpow_pos exponent).le
  rw [value, div_mul_cancel₀ _ (two_zpow_pos exponent).ne'] at close
  set significand := roundedQuotient .even (scaled n d exponent).1 (scaled n d exponent).2
  by_cases carry : significand = 0x20000000000000
  · refine ⟨⟨negative, 0x10000000000000, exponent + 1⟩, ?_, rfl, by simp [Full], ?_⟩
    · have room : exponent + 1 ≤ maxExponent := by omega
      simp only [nearest?, numerator.ne', if_false, chosen, significand, carry, if_true, room]
    · rw [magnitude, zpow_add₀ two_ne_zero]
      rw [carry] at close
      convert close using 1
      norm_num
      ring
  · refine ⟨⟨negative, significand, exponent⟩, ?_, rfl, ⟨low, lt_of_le_of_ne high carry⟩, close⟩
    have room : exponent ≤ maxExponent := by omega
    simp only [nearest?, numerator.ne', if_false, chosen, significand, carry, room, if_true]

end

/-- A product is rounded once. -/
theorem exists_mul? {a b : Binary64}
    (least : (2 : ℚ) ^ (minExponent + 52) ≤ a.magnitude * b.magnitude)
    (most : a.magnitude * b.magnitude < 2 ^ (maxExponent + 52)) :
    ∃ c, a.mul? b = some c ∧ c.negative = (a.negative != b.negative) ∧ c.Full ∧
      Close (1 / 2 ^ 53) c.magnitude (a.magnitude * b.magnitude) := by
  obtain ⟨left, value⟩ := a.toFraction_spec
  obtain ⟨right, other⟩ := b.toFraction_spec
  have product : ((a.toFraction.1 * b.toFraction.1 : ℕ) : ℚ) /
      (a.toFraction.2 * b.toFraction.2 : ℕ) = a.magnitude * b.magnitude := by
    rw [← value, ← other, div_mul_div_comm, Nat.cast_mul, Nat.cast_mul]
  rw [← product] at least most ⊢
  exact exists_nearest? _ (Nat.mul_pos left right) least most

theorem zero_mul? (negative : Bool) (b : Binary64) :
    (zero negative).mul? b = some (zero (negative != b.negative)) := by
  simp only [mul?, toFraction, zero, zero_mul, nearest?, if_true]

end Binary64

end DerivedFields

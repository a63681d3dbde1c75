import Mathlib
import DerivedFields.Decimal.Rounding
import DerivedFields.Proofs.Decimal.Normal

/-!
# Rounding and fitting

What rounding does to the number that a decimal stands for. Numbers are told apart into a sign and a
magnitude, as decimals are: a magnitude is rounded as a fraction of natural numbers, and the sign
stays as it is. A result that a decimal can hold is never rounded when it is fitted into one.
-/

namespace DerivedFields

/-! ## Numbers -/

/-- The number of a sign and a magnitude. -/
def withSign (negative : Bool) (magnitude : ℚ) : ℚ := if negative then -magnitude else magnitude

/-- A number rounded to so many places, halves away from zero. -/
def roundedTo (places : ℕ) (x : ℚ) : ℚ :=
  if x < 0 then -(⌊-x * 10 ^ places + 1 / 2⌋₊ / 10 ^ places)
  else ⌊x * 10 ^ places + 1 / 2⌋₊ / 10 ^ places

section

variable {negative other : Bool} {x y : ℚ}

@[simp] theorem withSign_zero : withSign negative 0 = 0 := by
  rw [withSign, neg_zero, ite_self]

@[simp] theorem abs_withSign : |withSign negative x| = |x| := by
  cases negative with
  | false => rfl
  | true => exact abs_neg x

theorem withSign_mul : withSign negative x * withSign other y =
    withSign (negative != other) (x * y) := by
  cases negative <;> cases other <;> simp [withSign]

theorem withSign_div : withSign negative x / withSign other y =
    withSign (negative != other) (x / y) := by
  cases negative <;> cases other <;> simp [withSign, neg_div, div_neg]

theorem withSign_div_right : withSign negative x / y = withSign negative (x / y) := by
  cases negative with
  | false => rfl
  | true => exact neg_div y x

/-- A sign and a magnitude make the integer that they are of. -/
theorem withSign_natAbs (n : ℤ) : withSign (decide (n < 0)) n.natAbs = n := by
  rw [Nat.cast_natAbs, Int.cast_abs, withSign]
  by_cases negative : n < 0
  · have below : (n : ℚ) < 0 := by exact_mod_cast negative
    rw [decide_eq_true negative, if_pos rfl, abs_of_neg below, neg_neg]
  · have above : (0 : ℚ) ≤ n := by exact_mod_cast not_lt.mp negative
    rw [decide_eq_false negative, if_neg Bool.false_ne_true, abs_of_nonneg above]

/-- A sign does not matter to the rounding of a magnitude. -/
theorem roundedTo_withSign (places : ℕ) (nonneg : 0 ≤ x) :
    roundedTo places (withSign negative x) =
      withSign negative (⌊x * 10 ^ places + 1 / 2⌋₊ / 10 ^ places) := by
  cases negative with
  | false => exact if_neg (not_lt.mpr nonneg)
  | true =>
    rcases nonneg.eq_or_lt with rfl | positive
    · have none : ⌊(1 : ℚ) / 2⌋₊ = 0 := Nat.floor_eq_zero.mpr (by norm_num)
      simp only [withSign_zero, roundedTo, lt_irrefl, if_false, zero_mul, zero_add, none,
        Nat.cast_zero, zero_div]
    · have below : withSign true x < 0 := neg_lt_zero.mpr positive
      rw [roundedTo, if_pos below]
      simp only [withSign, if_true, neg_neg]

/-- Without places a magnitude is rounded to a natural number. -/
theorem roundedTo_zero (nonneg : 0 ≤ x) : roundedTo 0 x = ⌊x + 1 / 2⌋₊ := by
  rw [roundedTo, if_neg (not_lt.mpr nonneg), pow_zero, mul_one, div_one]

end

/-! ## Fractions of natural numbers -/

section

variable {n d m : ℕ}

/-- A fraction is rounded down or up, to where it is nearer. Where it is halfway, it goes up if
halves go away from zero or the integer below is odd. -/
theorem roundedQuotient_cases (tie : Tie) (n d : ℕ) :
    (roundedQuotient tie n d = n / d ∧ 2 * (n % d) ≤ d ∧
        (2 * (n % d) = d → tie = .even ∧ n / d % 2 = 0)) ∨
      (roundedQuotient tie n d = n / d + 1 ∧ d ≤ 2 * (n % d) ∧
        (2 * (n % d) = d → tie = .away ∨ n / d % 2 = 1)) := by
  simp only [roundedQuotient]
  split
  · next up =>
    simp only [Bool.or_eq_true, Bool.and_eq_true, decide_eq_true_eq, beq_iff_eq] at up
    refine .inr ⟨rfl, by omega, fun half => ?_⟩
    rcases up with more | ⟨-, goes⟩
    · omega
    · exact goes
  · next down =>
    simp only [Bool.or_eq_true, Bool.and_eq_true, decide_eq_true_eq, beq_iff_eq, not_or,
      not_and] at down
    refine .inl ⟨rfl, by omega, fun half => ?_⟩
    obtain ⟨near, even⟩ := down.2 half
    refine ⟨?_, by omega⟩
    cases tie with
    | even => rfl
    | away => exact absurd rfl near

private theorem fraction_eq (n : ℕ) (positive : 0 < d) :
    (n : ℚ) / d = (n / d : ℕ) + ((n % d : ℕ) : ℚ) / d := by
  have above : (d : ℚ) ≠ 0 := by exact_mod_cast positive.ne'
  rw [div_eq_iff above, add_mul, div_mul_cancel₀ _ above]
  exact_mod_cast (Nat.div_add_mod' n d).symm

/-- The nearest integer differs from a fraction by one half at most. -/
theorem abs_roundedQuotient_sub_le (tie : Tie) (n : ℕ) (positive : 0 < d) :
    |(roundedQuotient tie n d : ℚ) - n / d| ≤ 1 / 2 := by
  have above : (0 : ℚ) < d := by exact_mod_cast positive
  rw [fraction_eq n positive, abs_le]
  rcases roundedQuotient_cases tie n d with ⟨down, half, -⟩ | ⟨up, half, -⟩
  · have small : ((n % d : ℕ) : ℚ) / d ≤ 1 / 2 := by
      rw [div_le_iff₀ above]
      have : (2 : ℚ) * (n % d : ℕ) ≤ d := by exact_mod_cast half
      linarith
    have nonneg : 0 ≤ ((n % d : ℕ) : ℚ) / d := by positivity
    rw [down]
    constructor <;> linarith
  · have large : 1 / 2 ≤ ((n % d : ℕ) : ℚ) / d := by
      rw [le_div_iff₀ above]
      have : (d : ℚ) ≤ 2 * (n % d : ℕ) := by exact_mod_cast half
      linarith
    have below : ((n % d : ℕ) : ℚ) / d < 1 := by
      rw [div_lt_one above]
      exact_mod_cast Nat.mod_lt n positive
    rw [up, Nat.cast_succ]
    constructor <;> linarith

/-- Halves away from zero go up. -/
theorem lt_roundedQuotient_away (n : ℕ) (positive : 0 < d) :
    (n : ℚ) / d < roundedQuotient .away n d + 1 / 2 := by
  have above : (0 : ℚ) < d := by exact_mod_cast positive
  rw [fraction_eq n positive]
  rcases roundedQuotient_cases .away n d with ⟨down, half, tie⟩ | ⟨up, -, -⟩
  · have other : 2 * (n % d) ≠ d := fun same => Tie.noConfusion (tie same).1
    have small : ((n % d : ℕ) : ℚ) / d < 1 / 2 := by
      rw [div_lt_iff₀ above]
      have : (2 : ℚ) * (n % d : ℕ) < d := by exact_mod_cast lt_of_le_of_ne half other
      linarith
    rw [down]
    linarith
  · have below : ((n % d : ℕ) : ℚ) / d < 1 := by
      rw [div_lt_one above]
      exact_mod_cast Nat.mod_lt n positive
    rw [up, Nat.cast_succ]
    linarith

/-- Otherwise a half goes to the even neighbour. -/
theorem even_roundedQuotient (positive : 0 < d)
    (half : |(roundedQuotient .even n d : ℚ) - n / d| = 1 / 2) :
    roundedQuotient .even n d % 2 = 0 := by
  have above : (0 : ℚ) < d := by exact_mod_cast positive
  have rest (value : ((n % d : ℕ) : ℚ) / d = 1 / 2) : 2 * (n % d) = d := by
    rw [div_eq_div_iff above.ne' two_ne_zero, one_mul, mul_comm] at value
    exact_mod_cast value
  rw [fraction_eq n positive] at half
  rcases roundedQuotient_cases .even n d with ⟨down, -, tie⟩ | ⟨up, -, tie⟩
  · have nonneg : 0 ≤ ((n % d : ℕ) : ℚ) / d := by positivity
    rw [down, sub_add_cancel_left, abs_neg, abs_of_nonneg nonneg] at half
    rw [down]
    exact (tie (rest half)).2
  · have below : ((n % d : ℕ) : ℚ) / d < 1 := by
      rw [div_lt_one above]
      exact_mod_cast Nat.mod_lt n positive
    rw [up, Nat.cast_succ, add_sub_add_left_eq_sub, abs_of_pos (sub_pos.mpr below)] at half
    have odd := (tie (rest (by linarith))).resolve_left Tie.noConfusion
    rw [up]
    omega

/-- An integer that is nearer than one half is the nearest one. -/
theorem roundedQuotient_eq (tie : Tie) (positive : 0 < d) (near : |(m : ℚ) - n / d| < 1 / 2) :
    roundedQuotient tie n d = m := by
  have other := abs_roundedQuotient_sub_le tie n positive
  rw [abs_lt] at near
  rw [abs_le] at other
  have above : (roundedQuotient tie n d : ℚ) < (m + 1 : ℕ) := by push_cast; linarith
  have below : (m : ℚ) < (roundedQuotient tie n d + 1 : ℕ) := by push_cast; linarith
  rw [Nat.cast_lt] at above below
  omega

/-- A whole quotient is not rounded. -/
theorem roundedQuotient_of_eq (tie : Tie) (positive : 0 < d) (whole : (n : ℚ) / d = m) :
    roundedQuotient tie n d = m := by
  apply roundedQuotient_eq tie positive
  rw [whole, sub_self, abs_zero]
  norm_num

theorem roundedQuotient_away (n : ℕ) (positive : 0 < d) :
    roundedQuotient .away n d = ⌊(n : ℚ) / d + 1 / 2⌋₊ := by
  have near := abs_roundedQuotient_sub_le .away n positive
  have high := lt_roundedQuotient_away n positive
  rw [abs_le] at near
  symm
  rw [Nat.floor_eq_iff (by positivity)]
  constructor <;> linarith

end

theorem floor_natCast_add_half (n : ℕ) : ⌊(n : ℚ) + 1 / 2⌋₊ = n := by
  rw [Nat.floor_eq_iff (by positivity)]
  constructor <;> linarith

namespace Decimal

/-! ## Signs and magnitudes -/

/-- The number that a decimal stands for, without its sign. -/
def magnitude (d : Decimal) : ℚ := d.coefficient / 10 ^ d.scale

theorem magnitude_nonneg (d : Decimal) : 0 ≤ d.magnitude := by
  rw [magnitude]
  positivity

theorem toRat_eq_withSign (d : Decimal) : d.toRat = withSign d.negative d.magnitude := by
  rw [toRat, signed, magnitude, withSign]
  cases d.negative with
  | false => rfl
  | true => simp only [if_true, Int.cast_neg, Int.cast_natCast, neg_div]

theorem abs_toRat (d : Decimal) : |d.toRat| = d.magnitude := by
  rw [toRat_eq_withSign, abs_withSign, abs_of_nonneg d.magnitude_nonneg]

theorem make?_eq_some (negative : Bool) {coefficient scale : ℕ} (fits : coefficient < limit)
    (places : scale ≤ maxScale) :
    ∃ d, make? negative coefficient scale = some d ∧ d.coefficient = coefficient ∧
      d.scale = scale ∧ d.toRat = withSign negative (coefficient / 10 ^ scale) := by
  refine ⟨_, dif_pos ⟨fits, places⟩, rfl, rfl, ?_⟩
  rw [toRat_eq_withSign, magnitude]
  rcases Nat.eq_zero_or_pos coefficient with rfl | positive
  · simp only [Nat.cast_zero, zero_div, withSign_zero]
  · rw [bne_iff_ne.mpr positive.ne', Bool.and_true]

/-- Rounding a decimal rounds its number. -/
theorem toRat_round (d : Decimal) (places : ℕ) :
    (d.round places).toRat = roundedTo places d.toRat := by
  rw [d.toRat_eq_withSign, roundedTo_withSign places d.magnitude_nonneg, round]
  split
  · next empty =>
    have none : ⌊(1 : ℚ) / 2⌋₊ = 0 := Nat.floor_eq_zero.mpr (by norm_num)
    simp only [toRat_eq_withSign, magnitude, empty, Nat.cast_zero, zero_div, zero_mul, zero_add,
      none]
  · split
    · next few =>
      -- the places that are missing are zeros, so there is nothing to round
      obtain ⟨more, rfl⟩ := Nat.exists_eq_add_of_le few
      have whole : d.magnitude * 10 ^ (d.scale + more) = (d.coefficient * 10 ^ more : ℕ) := by
        rw [magnitude, pow_add]
        push_cast
        field_simp
      have floor : ⌊d.magnitude * 10 ^ (d.scale + more) + 1 / 2⌋₊ = d.coefficient * 10 ^ more := by
        rw [whole, floor_natCast_add_half]
      have ten : (10 : ℚ) ^ (d.scale + more) ≠ 0 := by positivity
      rw [floor, ← whole, mul_div_cancel_right₀ _ ten, toRat_eq_withSign]
    · next many =>
      obtain ⟨dropped, split⟩ := Nat.exists_eq_add_of_lt (not_le.mp many)
      have tens : (10 : ℚ) ^ d.scale = 10 ^ places * 10 ^ (dropped + 1) := by
        rw [split, ← pow_add, add_assoc]
      have shifted : d.magnitude * 10 ^ places = d.coefficient / (10 ^ (dropped + 1) : ℕ) := by
        rw [magnitude, tens]
        push_cast
        field_simp
      have fewer : d.scale - places = dropped + 1 := by omega
      rw [toRat_eq_withSign, magnitude, shifted, ← roundedQuotient_away _ (by positivity), ← fewer]
      rfl

/-! ## Fitting -/

theorem limit_eq : limit = 79228162514264337593543950336 := rfl

private theorem excessDigits_le {coefficient digits : ℕ} (fits : coefficient / 10 ^ digits < limit) :
    excessDigits coefficient ≤ digits := by
  induction digits generalizing coefficient with
  | zero =>
    rw [pow_zero, Nat.div_one] at fits
    rw [excessDigits, if_pos fits]
  | succ digits ih =>
    rw [excessDigits]
    split
    · exact Nat.zero_le _
    · rw [pow_succ', ← Nat.div_div_eq_div_mul] at fits
      exact Nat.succ_le_succ (ih fits)

/-- What is left without the digits in excess fits. -/
theorem div_excessDigits_lt (coefficient : ℕ) :
    coefficient / 10 ^ excessDigits coefficient < limit := by
  induction coefficient using excessDigits.induct with
  | case1 coefficient fits => rwa [excessDigits, if_pos fits, pow_zero, Nat.div_one]
  | case2 coefficient large ih =>
    rw [excessDigits, if_neg large, pow_succ', ← Nat.div_div_eq_div_mul]
    exact ih

/-- A coefficient of 96 bits is taken as it is. -/
theorem fit?_of_lt (negative : Bool) {coefficient scale : ℕ} (fits : coefficient < limit)
    (places : scale ≤ maxScale) :
    fit? negative coefficient scale = make? negative coefficient scale := by
  have excess : excessDigits coefficient = 0 := by rw [excessDigits, if_pos fits]
  have kept : roundedQuotient .even coefficient 1 = coefficient :=
    roundedQuotient_of_eq .even Nat.one_pos (by rw [Nat.cast_one, div_one])
  simp only [fit?, excess, Nat.sub_eq_zero_of_le places, Nat.max_self, Nat.not_lt_zero, if_false,
    Nat.pow_eq, pow_zero, kept, fits, if_true, Nat.sub_zero]

/-- Zeros behind the digits of a decimal are dropped as far as there is no room for them. -/
theorem fit?_mul_pow (negative : Bool) (d : Decimal) (extra : ℕ) :
    ∃ fitted, fit? negative (d.coefficient * 10 ^ extra) (d.scale + extra) = some fitted ∧
      fitted.toRat = withSign negative d.magnitude := by
  set coefficient := d.coefficient * 10 ^ extra with tenfold
  have bound := d.coefficient_lt
  have places := d.scale_le
  have digits : excessDigits coefficient ≤ extra := by
    apply excessDigits_le
    rw [tenfold, Nat.mul_div_cancel _ (by positivity)]
    exact bound
  set dropped := max (d.scale + extra - maxScale) (excessDigits coefficient) with drops
  have few : dropped ≤ extra := by
    rw [maxScale] at drops
    omega
  obtain ⟨kept, split⟩ := Nat.exists_eq_add_of_le few
  have whole : coefficient = d.coefficient * 10 ^ kept * 10 ^ dropped := by
    rw [tenfold, split, pow_add, mul_comm (10 ^ dropped), mul_assoc]
  have rounded :
      roundedQuotient .even coefficient (Nat.pow 10 dropped) = d.coefficient * 10 ^ kept := by
    have ten : (10 : ℚ) ^ dropped ≠ 0 := by positivity
    apply roundedQuotient_of_eq .even (Nat.pow_pos (by decide))
    rw [whole]
    push_cast
    rw [mul_div_cancel_right₀ _ ten]
  have fits : d.coefficient * 10 ^ kept < limit := by
    have within := div_excessDigits_lt coefficient
    have least : 10 ^ excessDigits coefficient ≤ 10 ^ dropped :=
      Nat.pow_le_pow_right (by decide) (le_max_right _ _)
    have less : coefficient / 10 ^ dropped ≤ coefficient / 10 ^ excessDigits coefficient :=
      Nat.div_le_div_left least (by positivity)
    rw [whole, Nat.mul_div_cancel _ (by positivity), ← whole] at less
    exact Nat.lt_of_le_of_lt less within
  have room : d.scale + extra - dropped ≤ maxScale := by
    rw [maxScale] at drops ⊢
    omega
  obtain ⟨fitted, made, -, -, number⟩ := make?_eq_some negative fits room
  refine ⟨fitted, ?_, ?_⟩
  · have short : ¬d.scale + extra < dropped := by omega
    simp only [fit?, ← drops, short, if_false, rounded, fits, if_true, made]
  · have left : d.scale + extra - dropped = d.scale + kept := by omega
    rw [number, left, magnitude, pow_add]
    push_cast
    congr 1
    field_simp

/-- A number that some decimal stands for is fitted as it is. -/
theorem fit?_exact (negative : Bool) {coefficient scale : ℕ} {d : Decimal}
    (value : (coefficient : ℚ) / 10 ^ scale = d.magnitude) :
    ∃ fitted, fit? negative coefficient scale = some fitted ∧
      fitted.toRat = withSign negative d.magnitude := by
  have tens : (10 : ℚ) ^ scale ≠ 0 ∧ (10 : ℚ) ^ d.scale ≠ 0 := by constructor <;> positivity
  have same : coefficient * 10 ^ d.scale = d.coefficient * 10 ^ scale := by
    rw [magnitude, div_eq_div_iff tens.1 tens.2] at value
    exact_mod_cast value
  rcases Nat.lt_or_ge scale d.scale with fewer | more
  · obtain ⟨extra, split⟩ := Nat.exists_eq_add_of_lt fewer
    have bound := d.coefficient_lt
    have places := d.scale_le
    rw [split, add_assoc, add_comm scale, pow_add, ← mul_assoc] at same
    have small := Nat.eq_of_mul_eq_mul_right (by positivity) same
    have least : coefficient ≤ coefficient * 10 ^ (extra + 1) :=
      Nat.le_mul_of_pos_right _ (by positivity)
    have fits : coefficient < limit := by rw [limit]; omega
    have room : scale ≤ maxScale := by rw [maxScale]; omega
    obtain ⟨fitted, made, -, -, number⟩ := make?_eq_some negative fits room
    rw [← value]
    exact ⟨fitted, by rw [fit?_of_lt negative fits room, made], number⟩
  · obtain ⟨extra, rfl⟩ := Nat.exists_eq_add_of_le more
    rw [pow_add, mul_comm (10 ^ d.scale), ← mul_assoc] at same
    rw [Nat.eq_of_mul_eq_mul_right (by positivity) same]
    exact fit?_mul_pow negative d extra

end Decimal

end DerivedFields

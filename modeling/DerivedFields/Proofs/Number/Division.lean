import DerivedFields.Proofs.Decimal.TwiceRounded
import DerivedFields.Proofs.Evaluation.Arithmetic

/-!
# Division to ten places

A quotient is rounded twice, and the number that is due is the quotient rounded once. If a decimal stands
for it, then the quotient leaves room for ten places, or for all of its own. So a result is computed, and
it is that number unless the first rounding took the quotient to a tie or away from one. Each of these
puts the result one unit of the tenth place beside it.
-/

namespace DerivedFields

namespace Decimal

variable {a b v : Decimal} {scale : ℕ}

/-! ## Quotients that are due -/

section

variable (due : v.magnitude = dueUnits a b / 10 ^ 10)

include due

/-- A decimal with ten places cannot be nearest to a quotient that leaves no room for them. -/
theorem lt_limit_of_due (places : ℕ) (few : places ≤ 10) (has : places ≤ v.scale) :
    a.magnitude / b.magnitude * 10 ^ places < limit := by
  have near := lt_dueUnits a b
  have fits : (v.coefficient : ℚ) ≤ limit - 1 := by
    have : v.coefficient + 1 ≤ limit := v.coefficient_lt
    have : (v.coefficient : ℚ) + 1 ≤ limit := by exact_mod_cast this
    linarith
  have units : v.magnitude * 10 ^ places ≤ v.coefficient := by
    have more : (10 : ℚ) ^ places ≤ 10 ^ v.scale := pow_le_pow_right₀ (by norm_num) has
    rw [← magnitude_mul_pow]
    exact mul_le_mul_of_nonneg_left more v.magnitude_nonneg
  have least : (10 : ℚ) ^ places ≤ 10 ^ 10 := pow_le_pow_right₀ (by norm_num) few
  have close : a.magnitude / b.magnitude - v.magnitude < 1 / 2 / 10 ^ 10 := by
    rw [due, lt_div_iff₀ (by positivity), sub_mul, div_mul_cancel₀ _ (by positivity)]
    linarith
  have positive : (0 : ℚ) < 10 ^ places := by positivity
  have scaled := mul_lt_mul_of_pos_right close positive
  have small : (1 : ℚ) / 2 / 10 ^ 10 * 10 ^ places ≤ 1 / 2 := by
    rw [div_mul_eq_mul_div, div_le_iff₀ (by positivity)]
    linarith
  rw [sub_mul] at scaled
  linarith

/-- A quotient with fewer than ten places has all that are due. -/
theorem firstUnits_few (nonzero : b.isZero = false) (few : scale < 10)
    (next : limit ≤ a.magnitude / b.magnitude * 10 ^ (scale + 1)) :
    (firstUnits a b scale : ℚ) / 10 ^ scale = v.magnitude := by
  have enough : v.scale ≤ scale := by
    by_contra fewer
    have room := lt_limit_of_due due (scale + 1) (by omega) (by omega)
    linarith
  have low := dueUnits_le a b
  have high := lt_dueUnits a b
  have units := magnitude_eq_div enough
  set count := v.coefficient * 10 ^ (scale - v.scale)
  have ten : (0 : ℚ) < 10 ^ scale := by positivity
  have first : firstUnits a b scale = count := by
    apply firstUnits_eq nonzero
    have value : (count : ℚ) = v.magnitude * 10 ^ scale := by rw [units, div_mul_cancel₀ _ ten.ne']
    have small : (10 : ℚ) ^ scale ≤ 10 ^ 9 := pow_le_pow_right₀ (by norm_num) (by omega)
    have close : |v.magnitude - a.magnitude / b.magnitude| ≤ 1 / 2 / 10 ^ 10 := by
      rw [le_div_iff₀ (by positivity), ← abs_of_pos (show (0 : ℚ) < 10 ^ 10 by positivity),
        ← abs_mul, sub_mul, due, div_mul_cancel₀ _ (by positivity), abs_le]
      constructor <;> linarith
    rw [value, ← sub_mul, abs_mul, abs_of_pos ten]
    calc |v.magnitude - a.magnitude / b.magnitude| * 10 ^ scale
        ≤ 1 / 2 / 10 ^ 10 * 10 ^ 9 := mul_le_mul close small ten.le (by positivity)
      _ < 1 / 2 := by norm_num
  rw [first, units]

end

/-! ## The one coefficient too many -/

/-- One more than the greatest coefficient does not end in zero, so no decimal stands for it at any
scale. -/
theorem magnitude_ne_limit (d : Decimal) (places : ℕ) : d.magnitude ≠ limit / 10 ^ places := by
  intro same
  have tens : (10 : ℚ) ^ d.scale ≠ 0 ∧ (10 : ℚ) ^ places ≠ 0 := by constructor <;> positivity
  rw [magnitude, div_eq_div_iff tens.1 tens.2] at same
  have same : d.coefficient * 10 ^ places = limit * 10 ^ d.scale := by exact_mod_cast same
  have fits : d.coefficient < limit := d.coefficient_lt
  rcases Nat.lt_or_ge d.scale places with less | more
  · obtain ⟨extra, rfl⟩ := Nat.exists_eq_add_of_lt less
    have factor : d.coefficient * 10 ^ (d.scale + extra + 1) =
        10 * (d.coefficient * 10 ^ extra) * 10 ^ d.scale := by ring
    rw [factor] at same
    have value := Nat.eq_of_mul_eq_mul_right (by positivity) same
    rw [limit_eq] at value
    omega
  · obtain ⟨extra, split⟩ := Nat.exists_eq_add_of_le more
    rw [split, pow_add, mul_comm (10 ^ places), ← mul_assoc] at same
    have value := Nat.eq_of_mul_eq_mul_right (by positivity) same
    have least : limit ≤ limit * 10 ^ extra := Nat.le_mul_of_pos_right _ (by positivity)
    omega

/-- It loses one place when it is fitted. -/
theorem fit?_limit (negative : Bool) (positive : 0 < scale) (places : scale ≤ maxScale) :
    fit? negative limit scale = make? negative 7922816251426433759354395034 (scale - 1) := by
  have excess : excessDigits limit = 1 := by
    rw [excessDigits, if_neg (lt_irrefl _), excessDigits, if_pos (by decide)]
  have dropped : max (scale - maxScale) 1 = 1 := by omega
  have rounded : roundedQuotient .even limit (Nat.pow 10 1) = 7922816251426433759354395034 := by
    decide
  have room : ¬scale < 1 := by omega
  have fits : 7922816251426433759354395034 < limit := by decide
  simp only [fit?, excess, dropped, room, if_false, rounded, fits, if_true]

/-- Ten places of units of a later place. -/
theorem floor_units (units : ℕ) (many : 10 ≤ scale) :
    ⌊(units : ℚ) / 10 ^ scale * 10 ^ 10 + 1 / 2⌋₊ =
      roundedQuotient .away units (10 ^ (scale - 10)) := by
  obtain ⟨extra, rfl⟩ := Nat.exists_eq_add_of_le many
  have shift : (units : ℚ) / 10 ^ (10 + extra) * 10 ^ 10 = units / (10 ^ extra : ℕ) := by
    rw [pow_add]
    push_cast
    field_simp
  rw [shift, Nat.add_sub_cancel_left, roundedQuotient_away _ (by positivity)]

/-- The place that is lost does not matter to the ten places that are kept. -/
theorem roundedQuotient_limit : ∀ extra < 18,
    roundedQuotient .away 7922816251426433759354395034 (10 ^ extra) =
      roundedQuotient .away limit (10 ^ (extra + 1)) := by
  decide

/-- A quotient with room for ten places has room for them when it is rounded, if a decimal stands for
what is due. -/
theorem firstUnits_lt_limit (due : v.magnitude = dueUnits a b / 10 ^ 10) (nonzero : b.isZero = false)
    (room : a.magnitude / b.magnitude * 10 ^ 10 < limit) : firstUnits a b 10 < limit := by
  refine lt_of_le_of_ne (firstUnits_le nonzero room) fun full => ?_
  have within : dueUnits a b ≤ limit := by
    have low := dueUnits_le a b
    have less : (dueUnits a b : ℚ) < (limit + 1 : ℕ) := by push_cast; linarith
    rw [Nat.cast_lt] at less
    omega
  have same : dueUnits a b = limit := by
    rcases dueUnits_cases (a := a) nonzero with same | next <;> omega
  rw [same] at due
  exact v.magnitude_ne_limit 10 due

/-! ## Division -/

/-- The quotient of two decimals, as it is before it is rounded to ten places. -/
theorem div?_twiceRounded (nonzero : b.isZero = false) (dividend : a.isZero = false)
    (due : v.magnitude = dueUnits a b / 10 ^ 10) :
    ∃ scale first magnitude, quotientScale? a b maxScale = some scale ∧ a.div? b = some first ∧
      first.toRat = withSign (a.negative != b.negative) magnitude ∧ 0 ≤ magnitude ∧
      TwiceRounded scale (a.magnitude / b.magnitude) (dueUnits a b)
        ⌊magnitude * 10 ^ 10 + 1 / 2⌋₊ := by
  have small := lt_limit_of_due due 0 (Nat.zero_le 10) (Nat.zero_le _)
  rw [pow_zero, mul_one] at small
  obtain ⟨scale, found, places, room, next⟩ := exists_quotientScale? nonzero small
  have most := firstUnits_le nonzero room
  have computed := div?_eq dividend found
  change _ = fit? _ (firstUnits a b scale) scale at computed
  refine ⟨scale, ?_⟩
  rcases lt_trichotomy scale 10 with few | rfl | many
  · have units := firstUnits_few due nonzero few (next (by rw [maxScale]; omega))
    obtain ⟨first, fitted, number⟩ := fit?_exact (a.negative != b.negative) units
    refine ⟨first, v.magnitude, found, computed.trans fitted, number, v.magnitude_nonneg, ?_⟩
    have kept : ⌊v.magnitude * 10 ^ 10 + 1 / 2⌋₊ = dueUnits a b := by
      rw [due, div_mul_cancel₀ _ (by positivity), floor_natCast_add_half]
    rw [kept]
    exact ⟨fun raised => absurd raised.1 (by omega), fun lowered => absurd lowered.1 (by omega),
      fun _ _ => rfl⟩
  · have twice := twiceRounded_ten (a := a) nonzero
    have fits := firstUnits_lt_limit due nonzero room
    obtain ⟨first, made, -, -, number⟩ := make?_eq_some (a.negative != b.negative) fits places
    refine ⟨first, _, found, computed.trans ((fit?_of_lt _ fits places).trans made), number,
      by positivity, ?_⟩
    rwa [div_mul_cancel₀ _ (by positivity), floor_natCast_add_half]
  · have twice := twiceRounded_many (a := a) nonzero many
    rcases most.lt_or_eq with fits | full
    · obtain ⟨first, made, -, -, number⟩ := make?_eq_some (a.negative != b.negative) fits places
      exact ⟨first, _, found, computed.trans ((fit?_of_lt _ fits places).trans made), number,
        by positivity, twice⟩
    · have fits : 7922816251426433759354395034 < limit := by decide
      obtain ⟨first, made, -, -, number⟩ := make?_eq_some (a.negative != b.negative) fits
        (Nat.le_trans (Nat.sub_le scale 1) places)
      rw [full] at computed twice
      refine ⟨first, _, found, computed.trans ((fit?_limit _ (by omega) places).trans made), number,
        by positivity, ?_⟩
      have same := roundedQuotient_limit (scale - 1 - 10) (by rw [maxScale] at places; omega)
      have split : scale - 1 - 10 + 1 = scale - 10 := by omega
      rw [split, ← floor_units _ (by omega), ← floor_units _ many.le] at same
      rw [same]
      exact twice

/-- Nothing is raised or lowered to zero. -/
theorem not_raisedToTie_zero (scale : ℕ) : ¬RaisedToTie scale 0 := by
  rintro ⟨many, k, -, close⟩
  obtain ⟨extra, rfl⟩ := Nat.exists_eq_add_of_le' many
  change _ * 10 ^ (extra + 11) < _ ∨ _ * 10 ^ (extra + 11) = _ ∧ _ at close
  rw [sub_zero, tie_units] at close
  have least : (1 : ℚ) ≤ ((2 * k + 1) * (5 * 10 ^ extra) : ℕ) := by
    exact_mod_cast Nat.succ_le_of_lt (by positivity)
  rcases close with close | ⟨close, -⟩ <;> linarith

private theorem not_loweredToEven_zero (scale : ℕ) : ¬LoweredToEven scale 0 := by
  rintro ⟨-, k, tie⟩
  have positive : (0 : ℚ) < (2 * k + 1 / 2) / 10 ^ 10 := by positivity
  linarith

private theorem dueUnits_eq (nonzero : b.isZero = false) :
    dueUnits a b = roundedQuotient .away (quotientAt a b 10).1 (quotientAt a b 10).2 := by
  rw [roundedQuotient_away _ (quotientAt_pos nonzero 10), quotientAt_eq nonzero]
  rfl

private theorem abs_toRat_div (a b : Decimal) : |a.toRat / b.toRat| = a.magnitude / b.magnitude := by
  rw [toRat_div_toRat, abs_withSign, abs_of_nonneg (div_magnitude_nonneg a b)]

/-- A quotient that is not zero is negative if its signs differ. -/
theorem sign_toRat_div (dividend : a.isZero = false) (nonzero : b.isZero = false) :
    (a.negative != b.negative) = decide (a.toRat / b.toRat < 0) := by
  have positive : 0 < a.magnitude / b.magnitude :=
    div_pos (magnitude_pos dividend) (magnitude_pos nonzero)
  rw [toRat_div_toRat]
  cases a.negative != b.negative with
  | true => exact (decide_eq_true (neg_lt_zero.mpr positive)).symm
  | false => exact (decide_eq_false (not_lt.mpr positive.le)).symm

/-- The quotient of decimals is rounded once more, by the operator as by the function. -/
theorem divide_of_div? {first : Decimal} (nonzero : b.isZero = false)
    (computed : a.div? b = some first) :
    a.divide b = .ok (first.round quotientPlaces) ∧
      Script.BinaryOp.divide.Computes a b (first.round quotientPlaces) := by
  have divided : a.divide b = .ok (first.round quotientPlaces) := by
    rw [divide, nonzero, computed]
    rfl
  refine ⟨divided, Script.BinaryOp.computes_of_operator rfl ?_⟩
  change (a.divide b).map Value.numeric = _
  rw [divided]
  rfl

/-- If a decimal stands for the quotient rounded to ten places, then a result is computed. It is
that number, unless the first rounding raised the quotient to a tie or lowered it from one: then it
is one unit of the tenth place away. -/
theorem divide_rounded (nonzero : b.isZero = false)
    (due : v.toRat = roundedTo 10 (a.toRat / b.toRat)) :
    ∃ scale quotient, quotientScale? a b maxScale = some scale ∧ a.divide b = .ok quotient ∧
      Script.BinaryOp.divide.Computes a b quotient ∧
      (RaisedToTie scale |a.toRat / b.toRat| →
        quotient.toRat = withSign (decide (a.toRat / b.toRat < 0)) (|v.toRat| + 1 / 10 ^ 10)) ∧
      (LoweredToEven scale |a.toRat / b.toRat| →
        quotient.toRat = withSign (decide (a.toRat / b.toRat < 0)) (|v.toRat| - 1 / 10 ^ 10)) ∧
      (¬RaisedToTie scale |a.toRat / b.toRat| → ¬LoweredToEven scale |a.toRat / b.toRat| →
        quotient.toRat = v.toRat) := by
  rw [roundedTo_quotient] at due
  have units : v.magnitude = dueUnits a b / 10 ^ 10 := by
    rw [← abs_toRat, due, abs_withSign, abs_of_nonneg (by positivity)]
  rw [abs_toRat_div, abs_toRat]
  cases dividend : a.isZero with
  | true =>
    have none : a.magnitude / b.magnitude = 0 := by
      rw [magnitude_eq_zero_iff.mpr dividend, zero_div]
    have computed : a.div? b = some zero := by rw [div?, if_pos dividend]
    obtain ⟨scale, found, -⟩ := exists_quotientScale? (a := a) nonzero
      (by rw [none]; exact_mod_cast (by decide : 0 < limit))
    obtain ⟨divided, computes⟩ := divide_of_div? nonzero computed
    refine ⟨scale, _, found, divided, computes, ?_⟩
    rw [none]
    refine ⟨fun raised => absurd raised (not_raisedToTie_zero scale),
      fun lowered => absurd lowered (not_loweredToEven_zero scale), fun _ _ => ?_⟩
    have number : (0 : ℚ) = a.toRat / b.toRat := by rw [isZero_iff.mp dividend, zero_div]
    rw [toRat_round, isZero_iff.mp rfl, number, quotientPlaces, roundedTo_quotient, due]
  | false =>
    obtain ⟨scale, first, magnitude, found, computed, number, nonneg, twice⟩ :=
      div?_twiceRounded nonzero dividend units
    obtain ⟨divided, computes⟩ := divide_of_div? nonzero computed
    refine ⟨scale, _, found, divided, computes, ?_⟩
    rw [toRat_round, number, roundedTo_withSign _ nonneg, ← sign_toRat_div dividend nonzero, units]
    change TwiceRounded _ _ _ ⌊magnitude * 10 ^ quotientPlaces + 1 / 2⌋₊ at twice
    generalize ⌊magnitude * 10 ^ quotientPlaces + 1 / 2⌋₊ = result at twice
    refine ⟨fun raised => ?_, fun lowered => ?_, fun kept straight => ?_⟩
    · rw [twice.raised raised, quotientPlaces]
      push_cast
      rw [add_div]
    · rw [← twice.lowered lowered, quotientPlaces]
      push_cast
      rw [add_div, add_sub_cancel_right]
    · rw [twice.straight kept straight, due]
      rfl

/-- A tie above an even number goes down, the quotient having ten places and no more. -/
theorem divide_rounded_lowered :
    let a : Decimal := ⟨true, 20000000000000000000000000001, 0, by decide, by decide⟩
    let b : Decimal := ⟨false, 20000000000, 0, by decide, by decide⟩
    let v : Decimal := ⟨true, 10000000000000000000000000001, 10, by decide, by decide⟩
    let lower : Decimal := ⟨true, 10000000000000000000000000000, 10, by decide, by decide⟩
    (b.isZero = false ∧ v.toRat = roundedTo 10 (a.toRat / b.toRat)) ∧
      LoweredToEven 10 |a.toRat / b.toRat| ∧ ∃ quotient, a.divide b = .ok quotient ∧
        quotient.toRat = lower.toRat := by
  intro a b v lower
  have nonzero : b.isZero = false := rfl
  have due : v.toRat = roundedTo 10 (a.toRat / b.toRat) := by
    have units : dueUnits a b = 10000000000000000000000000001 := by
      rw [dueUnits_eq nonzero]
      decide
    rw [roundedTo_quotient, units, toRat_eq_withSign]
    rfl
  have ten : quotientScale? a b maxScale = some 10 := by decide
  have tie : LoweredToEven 10 |a.toRat / b.toRat| := by
    refine ⟨rfl, 5000000000000000000000000000, ?_⟩
    norm_num [a, b, toRat, signed]
  obtain ⟨scale, quotient, found, divided, -, -, lowered, -⟩ := divide_rounded nonzero due
  obtain rfl : 10 = scale := Option.some.inj (ten.symm.trans found)
  refine ⟨⟨nonzero, due⟩, tie, quotient, divided, ?_⟩
  rw [lowered tie]
  norm_num [a, b, v, lower, toRat, signed, withSign]

/-- Rounding to eleven places makes a tie of two thirteenths, and rounding to ten takes it up,
though the quotient is below the middle. -/
theorem divide_rounded_raised :
    let a : Decimal := ⟨false, 1300000000000000002, 0, by decide, by decide⟩
    let b : Decimal := ⟨false, 13, 0, by decide, by decide⟩
    let v : Decimal := ⟨false, 1000000000000000001538461538, 10, by decide, by decide⟩
    let upper : Decimal := ⟨false, 1000000000000000001538461539, 10, by decide, by decide⟩
    b.isZero = false ∧ v.toRat = roundedTo 10 (a.toRat / b.toRat) ∧
      a.divide b = .ok upper ∧ upper.toRat ≠ v.toRat := by
  intro a b v upper
  have nonzero : b.isZero = false := rfl
  have found : quotientScale? a b maxScale = some 11 := by decide
  have first : firstUnits a b 11 = 10000000000000000015384615385 := by decide
  have computed : a.div? b = make? false 10000000000000000015384615385 11 := by
    have rounded := div?_eq rfl found
    change _ = fit? false (firstUnits a b 11) 11 at rounded
    rw [rounded, first, fit?_of_lt _ (by decide) (by decide)]
  refine ⟨nonzero, ?_, by rw [divide, nonzero, computed]; rfl, ?_⟩
  · have units : dueUnits a b = 1000000000000000001538461538 := by
      rw [dueUnits_eq nonzero]
      decide
    rw [roundedTo_quotient, units, toRat_eq_withSign]
    rfl
  · norm_num [v, upper, toRat, signed]

end Decimal

end DerivedFields

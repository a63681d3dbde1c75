import DerivedFields.Function.Builtin
import DerivedFields.Proofs.Decimal.Quotient
import DerivedFields.Proofs.Decimal.Spelling
import DerivedFields.Proofs.Evaluation.Arithmetic

/-!
# Masks of zeros

A mask of zeros has as many digits as zeros, but for a carry: the digits that do not fit are counted
before the number is rounded, and rounding may take nines to a power of ten with one digit more. The
digits are dropped without loss, so a number is rounded once, where it is cut.
-/

namespace DerivedFields

/-- The fewest low digits without which a number has at most `width` digits before its point. -/
structure IsExcess (width : ℕ) (x : ℚ) (dropped : ℕ) : Prop where
  fits : |x| < 10 ^ (width + dropped)
  least : ∀ fewer < dropped, 10 ^ (width + fewer) ≤ |x|

private theorem IsExcess.eq {width : ℕ} {x : ℚ} {dropped other : ℕ} (first : IsExcess width x dropped)
    (second : IsExcess width x other) : dropped = other := by
  rcases lt_trichotomy dropped other with less | same | more
  · exact absurd first.fits (not_lt.mpr (second.least dropped less))
  · exact same
  · exact absurd second.fits (not_lt.mpr (first.least other more))

namespace Decimal

variable {d : Decimal} {width digits : ℕ}

/-! ## Digits before the point -/

/-- How many digits the integer part has; zero has one. -/
def integerDigits (d : Decimal) : ℕ := (digitsOf d.truncated.toNat).length

private theorem integerDigits_le_iff (unsigned : d.negative = false) (positive : digits ≠ 0) :
    d.integerDigits ≤ digits ↔ d.magnitude < 10 ^ digits := by
  have whole : d.truncated.toNat = d.coefficient / 10 ^ d.scale := by
    rw [truncated, signed, unsigned]
    rfl
  rw [integerDigits, length_digitsOf_le_iff positive, whole,
    Nat.div_lt_iff_lt_mul (by positivity), magnitude, div_lt_iff₀ (by positivity)]
  exact_mod_cast Iff.rfl

/-- Moving the point leftwards, but for one digit, takes no more places than there are. -/
theorem scale_add_integerDigits_le (unsigned : d.negative = false) :
    d.scale + (d.integerDigits - 1) ≤ maxScale := by
  rcases Nat.eq_zero_or_pos (d.integerDigits - 1) with none | some
  · rw [none]
    exact d.scale_le
  · have large : (10 : ℚ) ^ (d.integerDigits - 1) ≤ d.magnitude := by
      rw [← not_lt, ← integerDigits_le_iff unsigned some.ne']
      omega
    have ten : (0 : ℚ) < 10 ^ d.scale := by positivity
    rw [magnitude, le_div_iff₀ ten, ← pow_add, add_comm] at large
    have below : 10 ^ (d.scale + (d.integerDigits - 1)) < 10 ^ 29 := by
      have fits := d.coefficient_lt
      have least : 10 ^ (d.scale + (d.integerDigits - 1)) ≤ d.coefficient := by exact_mod_cast large
      omega
    rw [maxScale]
    have := (Nat.pow_lt_pow_iff_right (by decide)).mp below
    omega

/-! ## Rounding to a width -/

/-- The power of ten is computed by multiplication as long as it fits. -/
theorem exists_power (fits : digits ≤ maxScale) :
    ∃ power, (List.range digits).foldlM (fun product _ => product.mul? ten) one = some power ∧
      power.toRat = 10 ^ digits := by
  induction digits with
  | zero => exact ⟨one, rfl, by norm_num [one, toRat, signed]⟩
  | succ digits ih =>
    obtain ⟨power, computed, value⟩ := ih (Nat.le_of_succ_le fits)
    have small : (10 ^ (digits + 1) : ℤ).natAbs < limit := by
      rw [Int.natAbs_pow]
      exact lt_of_le_of_lt (Nat.pow_le_pow_right (by decide) fits) (by decide)
    have next : power.toRat * ten.toRat = (ofInt (10 ^ (digits + 1))).toRat := by
      rw [toRat_ofInt small, value, pow_succ]
      norm_num [ten, toRat, signed]
    obtain ⟨product, multiplied, number⟩ := mul?_exact next
    refine ⟨product, ?_, ?_⟩
    · rw [List.range_succ, List.foldlM_append, computed, Option.bind_eq_bind, Option.bind_some,
        List.foldlM_cons, multiplied]
      rfl
    · rw [number, toRat_ofInt small]
      push_cast
      rfl

/-- An integer is written with its digits. -/
theorem toText_ofInt {n : ℕ} (fits : n < limit) : (ofInt n).toText.toList = digitsOf n := by
  have kept : min n 0xffffffffffffffffffffffff = n := by
    rw [limit] at fits
    omega
  have unsigned : ¬ ((n : ℤ) < 0) := not_lt.mpr (Int.natCast_nonneg n)
  simp only [toText, ofInt, Int.natAbs_natCast, kept, unsigned, decide_false, Bool.false_eq_true,
    if_false, List.nil_append, magnitudeText, if_true, String.toList_ofList]

private theorem isNormal_ofInt (n : ℤ) : (ofInt n).IsNormal where
  eq_zero empty := by
    have none : n = 0 := by
      change min n.natAbs _ = 0 at empty
      omega
    rw [none]
    rfl
  last_digit places := absurd rfl places

/-- What is left of a magnitude without the digits that do not fit, rounded half up. -/
def unitsAt (d : Decimal) (width : ℕ) : ℕ :=
  ⌊d.magnitude / 10 ^ (d.integerDigits - width) + 1 / 2⌋₊

/-- Digits are dropped without loss, and what is left is rounded to an integer. -/
theorem roundToWidth_eq (unsigned : d.negative = false) (positive : width ≠ 0) :
    roundToWidth d width = .ok (ofInt (d.unitsAt width)) ∧ d.unitsAt width < limit := by
  rw [unitsAt]
  set dropped := d.integerDigits - width with excess
  have room : d.scale + dropped ≤ maxScale := by
    have := scale_add_integerDigits_le unsigned
    omega
  obtain ⟨power, computed, value⟩ := exists_power (Nat.le_trans (Nat.le_add_left _ _) room)
  let moved : Decimal := ⟨false, d.coefficient, d.scale + dropped, d.coefficient_lt, room⟩
  have number : moved.toRat = d.magnitude / 10 ^ dropped := by
    rw [toRat_eq_withSign, magnitude, magnitude, pow_add, div_div]
    rfl
  have quotient : ∃ scaled,
      (if d.integerDigits < width then some d else d.div? power) = some scaled ∧
        scaled.toRat = moved.toRat := by
    split
    · next narrow =>
      have none : dropped = 0 := by omega
      refine ⟨d, rfl, ?_⟩
      rw [number, none, pow_zero, div_one, toRat_eq_withSign, unsigned]
      rfl
    · have nonzero : power.isZero = false := by
        rw [Bool.eq_false_iff, ne_eq, isZero_iff, value]
        positivity
      refine div?_exact nonzero ?_
      rw [value, number, toRat_eq_withSign, unsigned]
      rfl
  obtain ⟨scaled, divided, same⟩ := quotient
  have rounded : (scaled.round 0).normalize.toRat =
      (⌊d.magnitude / 10 ^ dropped + 1 / 2⌋₊ : ℤ) := by
    rw [toRat_normalize, toRat_round, same, number,
      roundedTo_zero (div_nonneg d.magnitude_nonneg (by positivity))]
    rfl
  have written : (scaled.round 0).normalize = ofInt ⌊d.magnitude / 10 ^ dropped + 1 / 2⌋₊ :=
    (isNormal_normalize _).eq (isNormal_ofInt _)
      (rounded.trans (toRat_ofInt (natAbs_lt_limit rounded)).symm)
  refine ⟨?_, natAbs_lt_limit rounded⟩
  rw [integerDigits] at divided excess
  simp only [roundToWidth, ← excess, computed, divided, written]

/-! ## Padding -/

/-- A power of ten has a digit more than the numbers below it. -/
theorem length_padLeft_digitsOf {n : ℕ} (positive : width ≠ 0) (bound : n ≤ 10 ^ width) :
    (padLeft width (digitsOf n)).length = if n < 10 ^ width then width else width + 1 := by
  split
  · next small =>
    exact length_padLeft ((length_digitsOf_le_iff positive).mpr small)
  · next large =>
    have most : (digitsOf n).length ≤ width + 1 := by
      refine (length_digitsOf_le_iff (Nat.succ_ne_zero width)).mpr (bound.trans_lt ?_)
      exact Nat.pow_lt_pow_right (by decide) (Nat.lt_succ_self width)
    have least : ¬ (digitsOf n).length ≤ width := fun fits =>
      large ((length_digitsOf_le_iff positive).mp fits)
    rw [padLeft, List.length_append, List.length_replicate]
    omega

/-- The digits that are dropped are those that do not fit. -/
theorem isExcess_integerDigits (d : Decimal) (positive : width ≠ 0) :
    IsExcess width d.toRat (d.abs.integerDigits - width) where
  fits := by
    rw [abs_toRat]
    exact (integerDigits_le_iff (d := d.abs) rfl (by omega)).mp (by omega)
  least fewer less := by
    rw [abs_toRat, ← not_lt]
    refine fun small => ?_
    have := (integerDigits_le_iff (d := d.abs) rfl (by omega)).mpr small
    omega

end Decimal

open Decimal

/-! ## The mask -/

variable {width : ℕ}

/-- With zeros alone in the mask the magnitude is rounded and padded. -/
theorem maskNumber_eq (x : Decimal) (positive : width ≠ 0) :
    maskNumber x (String.ofList (List.replicate width '0')) =
      .ok (String.ofList (padLeft width (digitsOf (x.abs.unitsAt width)))) := by
  have filled : (List.replicate width '0').isEmpty = false := by
    rw [List.isEmpty_eq_false_iff, ne_eq, List.replicate_eq_nil_iff]
    exact positive
  have zeros : (List.replicate width '0').all (· == '0') = true := by
    rw [List.all_eq_true]
    intro c member
    rw [List.eq_of_mem_replicate member]
    rfl
  obtain ⟨rounded, fits⟩ := roundToWidth_eq (d := x.abs) rfl positive
  generalize x.abs.unitsAt width = units at rounded fits
  simp only [maskNumber, String.toList_ofList, filled, zeros, List.length_replicate, rounded,
    Bool.false_eq_true, if_false, if_true, ← toText_ofInt fits]
  rfl

/-- The function takes the number first and the mask third, and looks at no other argument. -/
theorem Formats.call_maskNumber :
    ∃ function, Registry.builtin.get? "MaskNumber" = some function ∧
      ∀ scope (value inputMask mask : Value) further tables x text, value.asNumber? = some x →
        maskNumber x mask.toText = .ok text → further.length ≤ 2 →
        function.call scope (value :: inputMask :: mask :: further) tables =
          (.ok (.string text), tables) := by
  refine ⟨_, rfl, fun scope value inputMask mask further tables x text reads masked few => ?_⟩
  have accepted :
      (Arity.range 3 5).accepts (value :: inputMask :: mask :: further).length = true := by
    simp only [Arity.accepts, List.length_cons, Bool.and_eq_true, decide_eq_true_eq]
    omega
  let arguments : Arguments := ⟨"MaskNumber", value :: inputMask :: mask :: further⟩
  have first : arguments.number 0 = .ok x := by
    rw [Arguments.number_of_value (show arguments.values[0]? = some value from rfl), reads]
  have third : arguments.string 2 = .ok mask.toText := rfl
  have computed : Formats.number arguments = .ok (.string text) := by
    rw [Formats.number, first, third]
    change (do .ok (.string (← maskNumber x mask.toText))) = (.ok (.string text) : Except _ Value)
    rw [masked]
    rfl
  rw [Function.call]
  change (if (Arity.range 3 5).accepts _ then (Formats.number arguments, tables) else _) = _
  rw [if_pos accepted, computed]

/-- A mask of zeros always writes digits alone: those of the magnitude without the digits that do
not fit, rounded half up. There are as many as zeros unless the number is rounded up to the power of
ten that has one digit more. The function writes the same, whatever its other arguments are. -/
theorem maskNumber_zeros (x : Decimal) (positive : width ≠ 0) :
    let zeros := String.ofList (List.replicate width '0')
    ∃ text dropped, maskNumber x zeros = .ok text ∧ (∀ c ∈ text.toList, c.isDigit = true) ∧
      IsExcess width x.toRat dropped ∧
      Nat.ofDigitChars 10 text.toList 0 = roundedTo 0 (|x.toRat| / 10 ^ dropped) ∧
      text.toList.length =
        (if |x.toRat| / 10 ^ dropped < 10 ^ width - 1 / 2 then width else width + 1) ∧
      ∃ function, Registry.builtin.get? "MaskNumber" = some function ∧
        ∀ scope (value inputMask mask : Value) further tables, value.asNumber? = some x →
          mask.toText = zeros → further.length ≤ 2 →
          function.call scope (value :: inputMask :: mask :: further) tables =
            (.ok (.string text), tables) := by
  intro zeros
  obtain ⟨function, found, calls⟩ := Formats.call_maskNumber
  have written := maskNumber_eq x positive
  have excess := isExcess_integerDigits x positive
  set dropped := x.abs.integerDigits - width
  have nonneg : 0 ≤ |x.toRat| / 10 ^ dropped := by positivity
  have units : x.abs.unitsAt width = ⌊|x.toRat| / 10 ^ dropped + 1 / 2⌋₊ := by
    rw [abs_toRat]
    rfl
  have below : |x.toRat| / 10 ^ dropped < 10 ^ width := by
    rw [div_lt_iff₀ (by positivity), ← pow_add]
    exact excess.fits
  have bound : x.abs.unitsAt width ≤ 10 ^ width := by
    rw [units, ← Nat.lt_succ_iff, Nat.floor_lt (by positivity)]
    push_cast
    linarith
  have short :
      x.abs.unitsAt width < 10 ^ width ↔ |x.toRat| / 10 ^ dropped < 10 ^ width - 1 / 2 := by
    rw [units, Nat.floor_lt (by positivity), lt_sub_iff_add_lt]
    push_cast
    rfl
  refine ⟨_, dropped, written, ?_, excess, ?_, ?_, function, found, ?_⟩
  · rw [String.toList_ofList]
    exact fun c => isDigit_of_mem_padLeft fun c => isDigit_of_mem_digitsOf
  · rw [String.toList_ofList, ofDigitChars_padLeft, units, roundedTo_zero nonneg]
  · rw [String.toList_ofList, length_padLeft_digitsOf positive bound]
    simp only [short]
  · intro scope value inputMask mask further tables reads masked few
    exact calls scope value inputMask mask further tables x _ reads (masked ▸ written) few

/-- A negative number with six digits before its point is cut to four. -/
theorem maskNumber_zeros_shortened :
    let x : Decimal := ⟨true, 123456789, 3, by decide, by decide⟩
    4 ≠ 0 ∧ IsExcess 4 x.toRat 2 ∧ ∃ text, maskNumber x "0000" = .ok text ∧
      text.toList.length = 4 ∧ Nat.ofDigitChars 10 text.toList 0 = 1235 := by
  intro x
  have value : x.toRat = -123456789 / 1000 := by norm_num [x, toRat, signed]
  have size : |x.toRat| = 123456789 / 1000 := by rw [value, abs_of_neg] <;> norm_num
  have two : IsExcess 4 x.toRat 2 := by
    refine ⟨by norm_num [size], fun fewer less => ?_⟩
    interval_cases fewer <;> norm_num [size]
  obtain ⟨text, dropped, masked, -, excess, number, length, -⟩ :=
    maskNumber_zeros x four_ne_zero
  obtain rfl := excess.eq two
  refine ⟨four_ne_zero, two, text, masked, ?_, ?_⟩
  · rw [length, size, if_pos (by norm_num)]
  · have rounded : ⌊(123456789 : ℚ) / 1000 / 10 ^ 2 + 1 / 2⌋₊ = 1235 := by
      rw [Nat.floor_eq_iff (by norm_num)]
      norm_num
    rw [size, roundedTo_zero (by norm_num), rounded] at number
    exact_mod_cast number

/-- The two digits of 99.6 are counted before it is rounded, and it is written with three. -/
theorem maskNumber_zeros_carried :
    let x : Decimal := ⟨false, 996, 1, by decide, by decide⟩
    maskNumber x "00" = .ok "100" ∧ "100".length ≠ 2 ∧
      ∃ function, Registry.builtin.get? "MaskNumber" = some function ∧ ∀ scope tables,
        function.call scope [.numeric x, .string "", .string "00"] tables =
          (.ok (.string "100"), tables) := by
  intro x
  have masked : maskNumber x "00" = .ok "100" := by decide +kernel
  obtain ⟨function, found, calls⟩ := Formats.call_maskNumber
  exact ⟨masked, by decide, function, found, fun scope tables =>
    calls scope (.numeric x) (.string "") (.string "00") [] tables x "100" rfl masked (by decide)⟩

end DerivedFields

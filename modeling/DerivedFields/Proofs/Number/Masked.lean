import DerivedFields.Proofs.Number.FixedWidth
import DerivedFields.Proofs.Number.MaskBody
import DerivedFields.Proofs.Number.Numeral

/-!
# Numbers read back from a mask

A mask with a body of placeholders writes the text before it, a numeral and the text behind it. The
numeral stands for the magnitude of the number, or for a hundred times that if there is a percent
sign, rounded once to as many places as the body has behind its point. A percentage that a decimal
cannot hold is refused; nothing else is.
-/

namespace DerivedFields

namespace Decimal

variable {d product : Decimal}

/-! ## Percentages -/

/-- Below the limit a hundred times a magnitude has a decimal. -/
theorem exists_hundredfold (unsigned : d.negative = false) (small : 100 * d.magnitude < limit) :
    ∃ hundredfold : Decimal, d.toRat * oneHundred.toRat = hundredfold.toRat := by
  have hundred : oneHundred.toRat = 100 := by norm_num [oneHundred, toRat, signed]
  have value : d.toRat * oneHundred.toRat = 100 * (d.coefficient / 10 ^ d.scale) := by
    rw [hundred, toRat_eq_withSign, unsigned, mul_comm]
    rfl
  have made {coefficient scale : ℕ} (fits : coefficient < limit) (places : scale ≤ maxScale)
      (same : (coefficient : ℚ) / 10 ^ scale = 100 * (d.coefficient / 10 ^ d.scale)) :
      ∃ hundredfold : Decimal, d.toRat * oneHundred.toRat = hundredfold.toRat := by
    obtain ⟨hundredfold, -, -, -, number⟩ := make?_eq_some false fits places
    exact ⟨hundredfold, by rw [value, ← same, number]; rfl⟩
  rw [magnitude] at small
  rcases scale : d.scale with _ | _ | places
  · rw [scale, pow_zero, div_one] at small
    have fits : 100 * d.coefficient < limit := by exact_mod_cast small
    have none : 0 ≤ maxScale := Nat.zero_le _
    refine made fits none ?_
    rw [scale]
    push_cast
    ring
  · rw [scale, zero_add, pow_one] at small
    have fits : 10 * d.coefficient < limit := by
      have : (10 : ℚ) * d.coefficient < limit := by linarith
      exact_mod_cast this
    refine made fits (Nat.zero_le _) ?_
    rw [scale]
    push_cast
    ring
  · have room : places ≤ maxScale := by
      have := d.scale_le
      rw [maxScale]
      omega
    refine made d.coefficient_lt room ?_
    rw [scale, pow_succ, pow_succ]
    field_simp
    norm_num

/-- From the limit on there is no room for it. -/
theorem mul?_oneHundred_eq_none (large : limit ≤ 100 * d.magnitude) :
    d.mul? oneHundred = none := by
  have nonzero : d.isZero = false := by
    refine Bool.eq_false_iff.mpr fun zero => ?_
    rw [magnitude_eq_zero_iff.mpr zero, mul_zero] at large
    exact absurd large (by norm_num [limit])
  have ten : (0 : ℚ) < 10 ^ d.scale := by positivity
  have many : limit * 10 ^ d.scale ≤ d.coefficient * 100 := by
    rw [magnitude, ← mul_div_assoc, le_div_iff₀ ten, mul_comm (100 : ℚ)] at large
    exact_mod_cast large
  -- even all digits behind the point are not enough to drop
  have excess : d.scale < excessDigits (d.coefficient * 100) := by
    by_contra few
    have fits := div_excessDigits_lt (d.coefficient * 100)
    rw [Nat.div_lt_iff_lt_mul (by positivity)] at fits
    have least : 10 ^ excessDigits (d.coefficient * 100) ≤ 10 ^ d.scale :=
      Nat.pow_le_pow_right (by decide) (not_lt.mp few)
    have := Nat.mul_le_mul_left limit least
    omega
  have dropped : d.scale + oneHundred.scale <
      max (d.scale + oneHundred.scale - maxScale) (excessDigits (d.coefficient * 100)) :=
    lt_max_of_lt_right excess
  rw [mul?, nonzero]
  simp only [Bool.false_or, fit?]
  rw [if_neg (by decide)]
  exact if_pos dropped

private theorem mul?_oneHundred (unsigned : d.negative = false) (small : 100 * d.magnitude < limit) :
    ∃ product, d.mul? oneHundred = some product ∧ product.magnitude = 100 * d.magnitude := by
  obtain ⟨hundredfold, value⟩ := exists_hundredfold unsigned small
  obtain ⟨product, computed, number⟩ := mul?_exact value
  refine ⟨product, computed, ?_⟩
  have hundred : oneHundred.toRat = 100 := by norm_num [oneHundred, toRat, signed]
  rw [← abs_toRat, number, ← value, hundred, abs_mul, abs_toRat, mul_comm]
  norm_num

/-! ## Rounding -/

theorem scale_round_le (d : Decimal) (places : ℕ) : (d.round places).scale ≤ places := by
  rw [round]
  split
  · exact Nat.min_le_left places 28
  · split
    · assumption
    · exact le_rfl

private theorem magnitude_round (d : Decimal) (places : ℕ) :
    (d.round places).magnitude = roundedTo places d.magnitude := by
  have value : (d.round places).toRat = roundedTo places (withSign d.negative d.magnitude) := by
    rw [toRat_round, toRat_eq_withSign]
  rw [roundedTo_withSign places d.magnitude_nonneg] at value
  have unsigned : roundedTo places d.magnitude =
      ⌊d.magnitude * 10 ^ places + 1 / 2⌋₊ / 10 ^ places :=
    if_neg (not_lt.mpr d.magnitude_nonneg)
  rw [← abs_toRat, value, abs_withSign, unsigned, abs_of_nonneg (by positivity)]

end Decimal

open Decimal

namespace NumberMask

variable {mask : NumberMask} {d : Decimal}

/-- The number that a magnitude is multiplied by before it is rounded. -/
def factor (mask : NumberMask) : ℚ := if mask.percent then 100 else 1

/-- A magnitude is rounded and written, if there is room for it. -/
theorem format_eq (unsigned : d.negative = false) (small : mask.factor * d.magnitude < limit) :
    ∃ rounded, mask.format d = .ok (mask.write rounded) ∧
      rounded.scale ≤ mask.fractionDigits.2 ∧
      rounded.magnitude = roundedTo mask.fractionDigits.2 (mask.factor * d.magnitude) := by
  have scaled : ∃ value, (if mask.percent then d.mul? oneHundred else some d) = some value ∧
      value.magnitude = mask.factor * d.magnitude := by
    rw [factor] at small ⊢
    by_cases percent : mask.percent = true
    · rw [if_pos percent] at small
      rw [if_pos percent, if_pos percent]
      exact mul?_oneHundred unsigned small
    · rw [if_neg percent, if_neg percent, one_mul]
      exact ⟨d, rfl, rfl⟩
  obtain ⟨value, computed, number⟩ := scaled
  refine ⟨value.round mask.fractionDigits.2, ?_, scale_round_le _ _, ?_⟩
  · rw [format, computed]
  · rw [magnitude_round, number]

private theorem format_overflow (large : limit ≤ mask.factor * d.magnitude) :
    mask.format d = .error (.range .percentageOverflow) := by
  rw [factor] at large
  split at large
  · next percent => rw [format, if_pos percent, mul?_oneHundred_eq_none large]
  · rw [one_mul] at large
    exact absurd d.magnitude_lt (not_lt.mpr large)

end NumberMask

/-! ## Masks -/

variable {chars : List Char}

/-- A mask that is not of zeros alone is read without its minus signs, and the sign of a negative
number is kept if there was one. -/
theorem maskNumber_of_ne_zeros (x : Decimal) (other : ∃ c ∈ chars, c ≠ '0') :
    maskNumber x (String.ofList chars) =
      ((NumberMask.parse (chars.filter (· != '-'))).mapError .domain).bind fun pattern =>
        (pattern.format x.abs).map fun body => String.ofList
          (if chars.contains '-' && x.negative && !x.isZero then '-' :: body else body) := by
  obtain ⟨c, member, different⟩ := other
  have some : chars.isEmpty = false :=
    List.isEmpty_eq_false_iff.mpr (List.ne_nil_of_mem member)
  have mixed : chars.all (· == '0') = false :=
    List.all_eq_false.mpr ⟨c, member, by simpa using different⟩
  simp only [maskNumber, String.toList_ofList, some, mixed, Bool.false_eq_true, if_false]
  cases (NumberMask.parse (chars.filter (· != '-'))).mapError EvalError.domain with
  | error fault => rfl
  | ok pattern =>
    change ((pattern.format x.abs).bind fun body => _) = (pattern.format x.abs).map _
    cases pattern.format x.abs with
    | error fault => rfl
    | ok body =>
      change (if _ then _ else _) = Except.ok _
      split <;> rfl

theorem filter_minus_eq_self (noMinus : '-' ∉ chars) : chars.filter (· != '-') = chars := by
  refine List.filter_eq_self.mpr fun c member => bne_iff_ne.mpr ?_
  rintro rfl
  exact noMinus member

/-- Without a minus sign the mask is read as it stands, and the sign of the number is not written. -/
theorem maskNumber_of_notMem_minus (x : Decimal) (other : ∃ c ∈ chars, c ≠ '0')
    (noMinus : '-' ∉ chars) :
    maskNumber x (String.ofList chars) =
      ((NumberMask.parse chars).mapError .domain).bind fun pattern =>
        (pattern.format x.abs).map String.ofList := by
  have unsigned : chars.contains '-' = false := by
    rw [Bool.eq_false_iff, ne_eq, List.contains_iff_mem]
    exact noMinus
  simp only [maskNumber_of_ne_zeros x other, filter_minus_eq_self noMinus, unsigned, Bool.false_and,
    Bool.false_eq_true, if_false]

variable {before behind : List Char}

/-- The text around a body, if it is written as it stands. -/
def IsPlain (text : List Char) : Prop :=
  ∀ c ∈ text, c ∉ ['#', '0', ',', '.', '-', ';', '\'', '\x00']

namespace IsPlain

variable {text : List Char}

private theorem quotable (plain : IsPlain text) : IsQuotable text := by
  intro c member
  have other := plain c member
  simp only [List.mem_cons, List.not_mem_nil, or_false, not_or] at other
  exact ⟨other.2.2.2.2.2.2.1, other.2.2.2.2.2.2.2⟩

private theorem apart (plain : IsPlain text) : ∀ c ∈ text, isPlaceholder c = false ∧ c ≠ ';' := by
  intro c member
  have other := plain c member
  simp only [List.mem_cons, List.not_mem_nil, or_false, not_or] at other
  obtain ⟨sign, zero, comma, point, -, semicolon, -⟩ := other
  exact ⟨isPlaceholder_eq_false_iff.mpr ⟨sign, zero, comma, point⟩, semicolon⟩

private theorem notMem_minus (plain : IsPlain text) : '-' ∉ text := fun member =>
  plain '-' member (by decide)

end IsPlain

theorem MaskBody.notMem_minus (body : MaskBody) : '-' ∉ body.chars := by
  intro member
  rcases body.mem_chars member with same | same | same | same
  all_goals exact absurd same (by decide)

/-- A mask without minus signs is written around the numeral as it stands. -/
theorem maskNumber_plain (x : Decimal) (body : MaskBody) (plain : IsPlain (before ++ behind))
    (other : ∃ c ∈ before ++ (body.chars ++ behind), c ≠ '0') (nonempty : body.chars ≠ []) :
    maskNumber x (String.ofList (before ++ (body.chars ++ behind))) =
      ((body.mask before behind).format x.abs).map String.ofList := by
  have noMinus : '-' ∉ before ++ (body.chars ++ behind) := by
    have outside := plain.notMem_minus
    have inside := body.notMem_minus
    simp only [List.mem_append, not_or] at outside ⊢
    exact ⟨outside.1, inside, outside.2⟩
  rw [maskNumber_of_notMem_minus x other noMinus, body.parse_eq nonempty plain.apart]
  rfl

/-- What is not all zeros is empty or has another character. -/
private theorem eq_nil_or_exists_ne_zero (notZeros : ∀ n ≠ 0, chars ≠ List.replicate n '0') :
    chars = [] ∨ ∃ c ∈ chars, c ≠ '0' := by
  by_contra same
  simp only [not_or, not_exists, not_and, not_not] at same
  exact notZeros chars.length (List.length_pos_of_ne_nil same.1).ne'
    (List.eq_replicate_iff.mpr ⟨rfl, same.2⟩)

/-- A mask without a body is refused. -/
theorem maskNumber_without_body (x : Decimal) (plain : IsPlain chars) (text : String) :
    maskNumber x (String.ofList chars) ≠ .ok text := by
  cases chars with
  | nil => exact nofun
  | cons first rest =>
    have other : first ≠ '0' := by
      rintro rfl
      exact plain '0' List.mem_cons_self (by decide)
    have apart : ∀ c ∈ (first :: rest).filter (· != '-'), isPlaceholder c = false :=
      fun c member => (plain.apart c (List.mem_of_mem_filter member)).1
    rw [maskNumber_of_ne_zeros x ⟨first, List.mem_cons_self, other⟩, MaskBody.parse_empty apart]
    exact nofun

/-- The number is multiplied by a hundred for a percent sign before or behind the body. -/
theorem MaskBody.factor_mask (body : MaskBody) :
    (body.mask before behind).factor = if '%' ∈ before ++ behind then 100 else 1 := by
  rw [NumberMask.factor]
  simp only [MaskBody.mask, Bool.or_eq_true, List.contains_iff_mem, List.mem_append]

section

variable {x : Decimal} {body : MaskBody} (plain : IsPlain (before ++ behind))
  (other : ∃ c ∈ before ++ (body.chars ++ behind), c ≠ '0') (nonempty : body.chars ≠ [])

include plain other nonempty

/-- With room for it, the numeral of the rounded magnitude is written between the two texts. -/
theorem exists_maskNumber (small : (body.mask before behind).factor * |x.toRat| < limit) :
    ∃ text size whole grouped fraction,
      maskNumber x (String.ofList (before ++ (body.chars ++ behind))) = .ok text ∧
      text.toList = before ++ grouped ++
        (if fraction.isEmpty then [] else '.' :: fraction) ++ behind ∧
      IsNumeral (body.whole.count '0') (body.places.count '0') body.places.length
        (roundedTo body.places.length ((body.mask before behind).factor * |x.toRat|)) whole fraction ∧
      MaskBody.Groups body.whole size ∧ InGroups size whole grouped := by
  set pattern := body.mask before behind
  have size : |x.toRat| = x.abs.magnitude := abs_toRat x
  rw [size] at small
  obtain ⟨rounded, formatted, fits, number⟩ := NumberMask.format_eq rfl small
  have ordered : pattern.fractionDigits.1 ≤ pattern.fractionDigits.2 := List.count_le_length
  have numeral := NumberMask.isNumeral_texts fits ordered
  rw [number, ← size] at numeral
  have groups := body.groups_groupSize?
  have nonzero : pattern.groupSize ≠ some 0 := by
    intro zero
    rw [show groupSize? body.whole = some 0 from zero] at groups
    exact groups.1 rfl
  refine ⟨String.ofList (pattern.write rounded), _, _, _, _, ?_, ?_, numeral, groups,
    NumberMask.inGroups_groupedText rounded nonzero⟩
  · rw [maskNumber_plain x body plain other nonempty, formatted]
    rfl
  · have plainBefore : IsPlain before := fun c member => plain c (List.mem_append_left _ member)
    have plainBehind : IsPlain behind := fun c member => plain c (List.mem_append_right _ member)
    have front : pattern.before = before := plainBefore.quotable.unquote_eq
    have back : pattern.behind = behind := plainBehind.quotable.unquote_eq
    rw [String.toList_ofList, NumberMask.write_eq, front, back]

private theorem maskNumber_overflow (large : limit ≤ (body.mask before behind).factor * |x.toRat|) :
    maskNumber x (String.ofList (before ++ (body.chars ++ behind))) =
      .error (.range .percentageOverflow) := by
  have size : |x.toRat| = x.abs.magnitude := abs_toRat x
  rw [size] at large
  rw [maskNumber_plain x body plain other nonempty, NumberMask.format_overflow large]
  rfl

end

/-- A number is written with a mask exactly if the mask has a body and a decimal holds the magnitude,
times a hundred with a percent sign. The text before and behind the body stays as it is. Between
them stands the numeral of the magnitude, rounded half away from zero to as many places as the
body has placeholders behind its point: with a digit for each zero of the body, and a comma before
each group of as many digits as there are placeholders behind the last comma. The function writes
the same, whatever its other arguments are. -/
theorem maskNumber_body (x : Decimal) (body : MaskBody) (plain : IsPlain (before ++ behind))
    (notZeros : ∀ n ≠ 0, before ++ (body.chars ++ behind) ≠ List.replicate n '0') :
    let mask := String.ofList (before ++ (body.chars ++ behind))
    let magnitude := (if '%' ∈ before ++ behind then 100 else 1) * |x.toRat|
    ((∃ text, maskNumber x mask = .ok text) ↔ body.chars ≠ [] ∧ magnitude < limit) ∧
    ∀ text, maskNumber x mask = .ok text →
      (∃ size whole grouped fraction,
        text.toList = before ++ grouped ++
          (if fraction.isEmpty then [] else '.' :: fraction) ++ behind ∧
        IsNumeral (body.whole.count '0') (body.places.count '0') body.places.length
          (roundedTo body.places.length magnitude) whole fraction ∧
        MaskBody.Groups body.whole size ∧ InGroups size whole grouped) ∧
      ∃ function, Registry.builtin.get? "MaskNumber" = some function ∧
        ∀ scope (value inputMask outputMask : Value) further tables, value.asNumber? = some x →
          outputMask.toText = mask → further.length ≤ 2 →
          function.call scope (value :: inputMask :: outputMask :: further) tables =
            (.ok (.string text), tables) := by
  intro mask magnitude
  by_cases empty : body.chars = []
  · have refused (text : String) : maskNumber x mask ≠ .ok text := by
      rw [show mask = String.ofList (before ++ behind) by rw [← List.nil_append behind, ← empty]]
      exact maskNumber_without_body x plain text
    refine ⟨⟨?_, fun some => absurd empty some.1⟩, fun text masked => absurd masked (refused text)⟩
    rintro ⟨text, masked⟩
    exact absurd masked (refused text)
  have other := (eq_nil_or_exists_ne_zero notZeros).resolve_left fun none =>
    empty (List.append_eq_nil_iff.mp (List.append_eq_nil_iff.mp none).2).1
  have scaled : magnitude = (body.mask before behind).factor * |x.toRat| := by rw [body.factor_mask]
  rcases lt_or_ge magnitude limit with small | large
  · obtain ⟨text, size, whole, grouped, fraction, written, read⟩ :=
      exists_maskNumber plain other empty (scaled ▸ small)
    refine ⟨⟨fun _ => ⟨empty, small⟩, fun _ => ⟨text, written⟩⟩, fun result masked => ?_⟩
    obtain rfl : text = result := Except.ok.inj (written.symm.trans masked)
    rw [scaled]
    refine ⟨⟨size, whole, grouped, fraction, read⟩, ?_⟩
    obtain ⟨function, found, calls⟩ := Formats.call_maskNumber
    refine ⟨function, found,
      fun scope value inputMask outputMask further tables reads same few => ?_⟩
    exact calls scope value inputMask outputMask further tables x _ reads (same ▸ written) few
  · have overflow := maskNumber_overflow plain other empty (scaled ▸ large)
    have refused (text : String) : maskNumber x mask ≠ .ok text := by
      rw [show maskNumber x mask = _ from overflow]
      rintro ⟨⟩
    refine ⟨⟨?_, fun some => absurd some.2 (not_lt.mpr large)⟩,
      fun text masked => absurd masked (refused text)⟩
    rintro ⟨text, masked⟩
    exact absurd masked (refused text)

/-- A negative percentage that is rounded up to the next power of ten. -/
theorem maskNumber_body_carried :
    let x : Decimal := ⟨true, 999999996, 7, by decide, by decide⟩
    let body : MaskBody := ⟨"#0,000".toList, some "0##".toList, by simp, by simp⟩
    IsPlain ("at ".toList ++ "%".toList) ∧
      (∀ n ≠ 0, "at ".toList ++ (body.chars ++ "%".toList) ≠ List.replicate n '0') ∧
      maskNumber x "at #0,000.0##%" = .ok "at 10,000.0%" ∧
      ∃ size whole grouped fraction,
        "at 10,000.0%".toList = "at ".toList ++ grouped ++
          (if fraction.isEmpty then [] else '.' :: fraction) ++ "%".toList ∧
        numeralValue whole fraction = 10000 ∧ MaskBody.Groups "#0,000".toList size ∧
        InGroups size whole grouped := by
  intro x body
  have plain : IsPlain ("at ".toList ++ "%".toList) := by
    simp [IsPlain]
  have notZeros : ∀ n ≠ 0, "at ".toList ++ (body.chars ++ "%".toList) ≠ List.replicate n '0' := by
    intro n _ same
    have letter : 'a' ∈ List.replicate n '0' := same ▸ List.mem_cons_self
    exact absurd (List.eq_of_mem_replicate letter) (by decide)
  have masked : maskNumber x "at #0,000.0##%" = .ok "at 10,000.0%" := by decide +kernel
  obtain ⟨-, read⟩ := maskNumber_body x body plain notZeros
  obtain ⟨⟨size, whole, grouped, fraction, text, numeral, groups, grouping⟩, -⟩ := read _ masked
  refine ⟨plain, notZeros, masked, size, whole, grouped, fraction, text, ?_, groups, grouping⟩
  have size : |x.toRat| = 999999996 / 10 ^ 7 := abs_toRat x
  have percent : '%' ∈ "at ".toList ++ "%".toList := by decide
  have places : body.places.length = 3 := rfl
  have rounded : ⌊(100 * (999999996 / 10 ^ 7) * 10 ^ 3 + 1 / 2 : ℚ)⌋₊ = 10000000 := by
    rw [Nat.floor_eq_iff (by norm_num)]
    norm_num
  rw [numeral.value, if_pos percent, size, places, roundedTo, if_neg (by norm_num), rounded]
  norm_num

end DerivedFields

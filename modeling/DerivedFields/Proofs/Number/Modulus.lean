import DerivedFields.Proofs.Decimal.Quotient
import DerivedFields.Proofs.Evaluation.Arithmetic

/-!
# The modulus of integers

The modulus is made of the remainder of the truncated division: a remainder with another sign than
the divisor is corrected by adding the divisor. So it depends on the remainder being exact. As long
as it is, the modulus of two integers is that of the floored division, however many zeros they have
behind the point, and the correction neither overflows nor rounds.
-/

namespace DerivedFields.Decimal

/-- A way to compute remainders gives those of the truncated division of integers. -/
def TruncatesIntegers (remainder? : Decimal → Decimal → Option Decimal) : Prop :=
  ∀ (a b : Decimal) (x y : ℤ), a.toRat = x → b.toRat = y → y ≠ 0 →
    ∃ r, remainder? a b = some r ∧ r.toRat = x.tmod y

/-- The modulus, made of a remainder. -/
def moduloBy (remainder? : Decimal → Decimal → Option Decimal) (a b : Decimal) :
    Except EvalError Decimal :=
  if b.isZero then .error .divideByZero
  else do
    let remainder ← Operation.modulus.check (remainder? a b)
    if !remainder.isZero && remainder.negative != b.negative then remainder.plus b
    else .ok remainder

theorem modulo_eq_moduloBy (a b : Decimal) : a.modulo b = moduloBy rem? a b := rfl

variable {a b d r : Decimal} {n x y : ℤ}

/-! ## Integers -/

private theorem negative_eq_decide (nonzero : d.isZero = false) :
    d.negative = decide (d.toRat < 0) := by
  have positive := magnitude_pos nonzero
  rw [toRat_eq_withSign]
  cases d.negative with
  | true => exact (decide_eq_true (neg_lt_zero.mpr positive)).symm
  | false => exact (decide_eq_false (not_lt.mpr positive.le)).symm

private theorem isZero_eq_decide (value : d.toRat = n) : d.isZero = decide (n = 0) := by
  rw [Bool.eq_iff_iff, isZero_iff, value, decide_eq_true_eq, Int.cast_eq_zero]

/-! ## The correction -/

/-- The remainder of the truncated division becomes that of the floored one by adding the divisor
where the signs differ. -/
private theorem fmod_eq_ite (x : ℤ) (nonzero : y ≠ 0) :
    x.fmod y = if x.tmod y ≠ 0 ∧ decide (x.tmod y < 0) ≠ decide (y < 0) then x.tmod y + y
      else x.tmod y := by
  have least := Int.emod_nonneg x nonzero
  have most := Int.emod_lt x nonzero
  rw [Int.tmod_eq_emod, Int.fmod_eq_emod]
  simp only [Int.dvd_iff_emod_eq_zero, ne_eq, decide_eq_decide]
  rcases lt_or_gt_of_ne nonzero with below | above
  · have size : (y.natAbs : ℤ) = -y := by omega
    split <;> split <;> omega
  · have size : (y.natAbs : ℤ) = y := by omega
    split <;> split <;> omega

/-- The modulus of the floored division has the sign of the divisor and is smaller than it. -/
private theorem fmod_bounds (x : ℤ) (nonzero : y ≠ 0) :
    (x.fmod y = 0 ∨ decide (x.fmod y < 0) = decide (y < 0)) ∧ |x.fmod y| < |y| := by
  have least := Int.emod_nonneg x nonzero
  have most := Int.emod_lt x nonzero
  rw [Int.fmod_eq_emod]
  simp only [Int.dvd_iff_emod_eq_zero, decide_eq_decide]
  rcases lt_or_gt_of_ne nonzero with below | above
  · have size : (y.natAbs : ℤ) = -y := by omega
    rw [abs_of_neg below, abs_lt]
    split <;> omega
  · rw [abs_of_pos above, abs_lt, if_pos (.inl above.le), add_zero]
    omega

private theorem plus_exact (value : a.toRat + b.toRat = d.toRat) :
    ∃ sum, a.plus b = .ok sum ∧ sum.toRat = d.toRat := by
  obtain ⟨sum, added, number⟩ := add?_exact value
  exact ⟨sum, by rw [plus, added]; rfl, number⟩

/-- The correction yields the modulus of the floored division. -/
theorem moduloBy_eq_fmod {remainder? : Decimal → Decimal → Option Decimal}
    (exact : TruncatesIntegers remainder?) (dividend : a.toRat = x) (divisor : b.toRat = y)
    (nonzero : y ≠ 0) : ∃ m, moduloBy remainder? a b = .ok m ∧ m.toRat = x.fmod y := by
  obtain ⟨r, remains, value⟩ := exact a b x y dividend divisor nonzero
  have apart : b.isZero = false := by rw [isZero_eq_decide divisor, decide_eq_false nonzero]
  have negative (d : Decimal) (n : ℤ) (number : d.toRat = n) (some : d.isZero = false) :
      d.negative = decide (n < 0) := by
    rw [negative_eq_decide some, number, decide_eq_decide, Int.cast_lt_zero]
  have computed : moduloBy remainder? a b =
      if !r.isZero && r.negative != b.negative then r.plus b else .ok r := by
    rw [moduloBy, apart, remains]
    rfl
  rw [computed, fmod_eq_ite x nonzero, negative b y divisor apart]
  cases empty : r.isZero with
  | true =>
    rw [isZero_eq_decide value, decide_eq_true_eq] at empty
    refine ⟨r, rfl, ?_⟩
    rw [value, empty, if_neg fun both => both.1 rfl]
  | false =>
    have some : x.tmod y ≠ 0 := by
      rw [isZero_eq_decide value, decide_eq_false_iff_not] at empty
      exact empty
    rw [negative r (x.tmod y) value empty, Bool.not_false, Bool.true_and]
    by_cases signs : decide (x.tmod y < 0) = decide (y < 0)
    · rw [if_neg (by rw [signs, bne_self_eq_false]; exact Bool.false_ne_true),
        if_neg fun both => both.2 signs]
      exact ⟨r, rfl, value⟩
    · -- the sum lies between the remainder and the divisor, so it has digits enough
      have within : (x.tmod y + y).natAbs < limit := by
        have below := natAbs_lt_limit divisor
        have above := natAbs_lt_limit value
        rw [decide_eq_decide] at signs
        omega
      rw [if_pos (bne_iff_ne.mpr signs), if_pos ⟨some, signs⟩]
      obtain ⟨sum, added, number⟩ := plus_exact (a := r) (b := b) (d := ofInt (x.tmod y + y)) (by
        rw [toRat_ofInt within, value, divisor]
        push_cast
        rfl)
      exact ⟨sum, added, number.trans (toRat_ofInt within)⟩

/-! ## Exact remainders -/

/-- The remainder of the coefficients at the greater scale, whatever the size of the divisor. -/
def exactRemainder? (a b : Decimal) : Option Decimal :=
  if a.isZero then some zero
  else
    let scale := max a.scale b.scale
    fit? a.negative ((a.signedAt scale).natAbs % (b.signedAt scale).natAbs) scale

/-- An integer is a multiple of ten to the scale at every scale that is not below that of the
decimal. -/
theorem natAbs_signedAt_of_integer {scale : ℕ} (fits : d.scale ≤ scale) (value : d.toRat = n) :
    (d.signedAt scale).natAbs = n.natAbs * 10 ^ scale := by
  have whole : d.signedAt scale = n * 10 ^ scale := by
    have number := signedAt_eq_toRat fits
    rw [value] at number
    exact_mod_cast number
  rw [whole, Int.natAbs_mul, Int.natAbs_pow]
  rfl

/-- The remainder of the truncated division has the sign of the dividend. -/
theorem tmod_eq_withSign (x y : ℤ) :
    (x.tmod y : ℚ) = withSign (decide (x < 0)) |(x.tmod y : ℚ)| := by
  by_cases below : x < 0
  · have nonpos : (x.tmod y : ℚ) ≤ 0 := by
      have nonneg := Int.tmod_nonneg y (neg_nonneg.mpr below.le)
      rw [Int.neg_tmod, neg_nonneg] at nonneg
      exact_mod_cast nonneg
    rw [decide_eq_true below, withSign, if_pos rfl, abs_of_nonpos nonpos, neg_neg]
  · have nonneg : (0 : ℚ) ≤ x.tmod y := by exact_mod_cast Int.tmod_nonneg y (not_lt.mp below)
    rw [decide_eq_false below, withSign, if_neg Bool.false_ne_true, abs_of_nonneg nonneg]

private theorem truncatesIntegers_exactRemainder? : TruncatesIntegers exactRemainder? := by
  intro a b x y dividend divisor nonzero
  rw [exactRemainder?]
  cases empty : a.isZero with
  | true =>
    rw [isZero_eq_decide dividend, decide_eq_true_eq] at empty
    refine ⟨zero, rfl, ?_⟩
    rw [empty, Int.zero_tmod, isZero_iff.mp rfl, Int.cast_zero]
  | false =>
    set scale := max a.scale b.scale with greater
    have rest : (a.signedAt scale).natAbs % (b.signedAt scale).natAbs =
        x.natAbs % y.natAbs * 10 ^ scale := by
      rw [natAbs_signedAt_of_integer (le_max_left _ _) dividend,
        natAbs_signedAt_of_integer (le_max_right _ _) divisor, Nat.mul_mod_mul_right]
    have size : (x.tmod y).natAbs = x.natAbs % y.natAbs := Int.natAbs_tmod x y
    have fits : (x.tmod y).natAbs < limit := by
      have bound := natAbs_lt_limit dividend
      have least := Nat.mod_le x.natAbs y.natAbs
      omega
    have tens : (10 : ℚ) ^ scale ≠ 0 := by positivity
    have magnitude : ((x.natAbs % y.natAbs * 10 ^ scale : ℕ) : ℚ) / 10 ^ scale =
        (ofInt (x.tmod y)).magnitude := by
      rw [← abs_toRat, toRat_ofInt fits, ← Int.cast_abs, ← Nat.cast_natAbs, size, Nat.cast_mul,
        Nat.cast_pow, Nat.cast_ofNat, mul_div_cancel_right₀ _ tens]
    obtain ⟨r, fitted, value⟩ := fit?_exact a.negative magnitude
    refine ⟨r, by simp only [Bool.false_eq_true, if_false, rest, fitted], ?_⟩
    rw [value, negative_eq_decide empty, dividend, ← abs_toRat, toRat_ofInt fits,
      tmod_eq_withSign x y]
    simp only [Int.cast_lt_zero, abs_withSign, abs_abs]

/-- A divisor that has at most 64 bits at the greater scale, or more than 96, leaves the exact
remainder. -/
theorem rem?_eq_exactRemainder?
    (outside : (b.signedAt (max a.scale b.scale)).natAbs < 2 ^ 64 ∨
      limit ≤ (b.signedAt (max a.scale b.scale)).natAbs) :
    a.rem? b = exactRemainder? a b := by
  have exact : remainder (a.signedAt (max a.scale b.scale)).natAbs _ = _ := if_pos outside
  simp only [rem?, exactRemainder?, exact]

/-- Between the two the remainder may be another one. -/
theorem not_truncatesIntegers_rem? : ¬ TruncatesIntegers rem? := by
  intro exact
  let a : Decimal := ⟨false, 79228162514264337593543950327, 0, by decide, by decide⟩
  let b : Decimal := ⟨false, 10000000000000000000000000000, 28, by decide, by decide⟩
  obtain ⟨r, remains, value⟩ := exact a b 79228162514264337593543950327 1
    (by norm_num [a, toRat, signed]) (by norm_num [b, toRat, signed]) one_ne_zero
  have wrong : a.rem? b = some ⟨false, 2774645161159622109968728064, 28, by decide, by decide⟩ := by
    decide +kernel
  cases remains.symm.trans wrong
  norm_num [toRat, signed] at value

/-! ## The modulus of the language -/

/-- As long as remainders are exact, two integers have a modulus for every divisor but zero. It is
an integer with the sign of the divisor and smaller than it, and the dividend without it is a
multiple of the divisor. The operator and the function come to it wherever the remainder of decimals is the
exact one. -/
theorem modulo_floored {remainder? : Decimal → Decimal → Option Decimal}
    (exact : TruncatesIntegers remainder?) (dividend : a.isInteger = true)
    (divisor : b.isInteger = true) (nonzero : b.isZero = false) :
    ∃ m, moduloBy remainder? a b = .ok m ∧ m.isInteger = true ∧
      (m.isZero = true ∨ m.negative = b.negative) ∧ |m.toRat| < |b.toRat| ∧
      (∃ k : ℤ, a.toRat - m.toRat = k * b.toRat) ∧
      (a.rem? b = remainder? a b →
        a.modulo b = .ok m ∧ Script.BinaryOp.modulo.Computes a b m) := by
  obtain ⟨x, whole⟩ := isInteger_iff.mp dividend
  obtain ⟨y, divides⟩ := isInteger_iff.mp divisor
  have other : y ≠ 0 := by
    rw [isZero_eq_decide divides, decide_eq_false_iff_not] at nonzero
    exact nonzero
  obtain ⟨m, computed, value⟩ := moduloBy_eq_fmod exact whole divides other
  obtain ⟨sign, size⟩ := fmod_bounds x other
  refine ⟨m, computed, isInteger_iff.mpr ⟨_, value⟩, ?_, ?_, ⟨x.fdiv y, ?_⟩, fun agrees => ?_⟩
  · cases empty : m.isZero with
    | true => exact .inl rfl
    | false =>
      rw [negative_eq_decide empty, negative_eq_decide nonzero, value, divides]
      rw [isZero_eq_decide value, decide_eq_false_iff_not] at empty
      simp only [Int.cast_lt_zero]
      exact .inr (sign.resolve_left empty)
  · rw [value, divides]
    exact_mod_cast size
  · rw [whole, value, divides, sub_eq_iff_eq_add]
    exact_mod_cast ((Int.fmod_add_mul_fdiv x y).symm.trans (by ring))
  · have operated : a.modulo b = .ok m := by
      rw [modulo_eq_moduloBy, ← computed, moduloBy, moduloBy, agrees]
    have both : Script.BinaryOp.modulo.Computes a b m := by
      refine Script.BinaryOp.computes_of_operator rfl ?_
      change (integerModulo a b).map Value.numeric = _
      rw [integerModulo, dividend, divisor, operated]
      rfl
    exact ⟨operated, both⟩

/-- A dividend of minus one, written with 28 places, is corrected by the greatest coefficient there
is, and the sum is exact. -/
theorem modulo_floored_greatest :
    let a : Decimal := ⟨true, 10000000000000000000000000000, 28, by decide, by decide⟩
    let b : Decimal := ⟨false, 79228162514264337593543950335, 0, by decide, by decide⟩
    let m : Decimal := ⟨false, 79228162514264337593543950334, 0, by decide, by decide⟩
    (TruncatesIntegers exactRemainder? ∧ a.isInteger = true ∧ b.isInteger = true ∧
        b.isZero = false ∧ a.rem? b = exactRemainder? a b) ∧
      ∃ modulus, a.modulo b = .ok modulus ∧ modulus.toRat = m.toRat := by
  intro a b m
  have whole : a.isInteger = true := by decide
  have divides : b.isInteger = true := by decide
  have agrees : a.rem? b = exactRemainder? a b := rem?_eq_exactRemainder? (.inr (by decide))
  refine ⟨⟨truncatesIntegers_exactRemainder?, whole, divides, rfl, agrees⟩, ?_⟩
  obtain ⟨modulus, -, integer, sign, size, ⟨k, multiple⟩, computed⟩ :=
    modulo_floored truncatesIntegers_exactRemainder? whole divides rfl
  refine ⟨modulus, (computed agrees).1, ?_⟩
  obtain ⟨z, value⟩ := isInteger_iff.mp integer
  have above : 0 ≤ z := by
    cases empty : modulus.isZero with
    | true =>
      rw [isZero_eq_decide value, decide_eq_true_eq] at empty
      exact empty.ge
    | false =>
      have positive := sign.resolve_left (by rw [empty]; exact Bool.false_ne_true)
      rw [negative_eq_decide empty, value, decide_eq_false_iff_not, Int.cast_lt_zero] at positive
      exact not_lt.mp positive
  have dividend : a.toRat = (-1 : ℤ) := by norm_num [a, toRat, signed]
  have divisor : b.toRat = (79228162514264337593543950335 : ℤ) := by norm_num [b, toRat, signed]
  have result : m.toRat = (79228162514264337593543950334 : ℤ) := by norm_num [m, toRat, signed]
  rw [value, divisor] at size
  rw [dividend, divisor, value] at multiple
  rw [value, result]
  norm_cast at size multiple ⊢
  rw [abs_of_nonneg above] at size
  omega

end DerivedFields.Decimal

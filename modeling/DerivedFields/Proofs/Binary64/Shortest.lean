import DerivedFields.Binary64.Shortest
import DerivedFields.Proofs.Binary64.Rounding
import DerivedFields.Proofs.Decimal.Spelling

/-!
# The shortest decimal

A decimal grid of 17 digits is finer than the distance between two binary numbers, so the search
for digits comes to an end there at the latest. What it finds lies no further from the number than
halfway to a neighbour.
-/

namespace DerivedFields.Binary64

/-- The number that the shortest digits spell, without a sign. -/
def decimal (b : Binary64) : ℚ := b.shortest.1 * 10 ^ b.shortest.2

variable {b : Binary64} {digits count : ℕ} {power : ℤ}

private theorem ten_zpow_pos (exponent : ℤ) : (0 : ℚ) < 10 ^ exponent := zpow_pos (by norm_num) exponent

private theorem powerOfTen_spec (exponent : ℤ) :
    0 < (powerOfTen exponent).1 ∧ 0 < (powerOfTen exponent).2 ∧
      ((powerOfTen exponent).1 : ℚ) / (powerOfTen exponent).2 = 10 ^ exponent :=
  fraction_of_power 10 (by decide) exponent

/-! ## The first digit -/

section

variable {x : ℚ}

private theorem zpow_log_le (positive : 0 < x) : (10 : ℚ) ^ Int.log 10 x ≤ x := by
  exact_mod_cast Int.zpow_log_le_self (b := 10) (by decide) positive

private theorem lt_zpow_log (x : ℚ) : x < (10 : ℚ) ^ (Int.log 10 x + 1) := by
  exact_mod_cast Int.lt_zpow_succ_log_self (b := 10) (by decide) x

end

/-- The digits of a fraction, moved by some places so that there are any, are counted. -/
private theorem length_toDigits_div (n places : ℕ) {d : ℕ} (denominator : 0 < d)
    (some : 1 ≤ (n : ℚ) / d * 10 ^ places) :
    ((Nat.toDigits 10 (n * Nat.pow 10 places / d)).length : ℤ) =
      Int.log 10 ((n : ℚ) / d) + places + 1 := by
  rw [Nat.pow_eq]
  have above : (0 : ℚ) < d := by exact_mod_cast denominator
  have ten : (0 : ℚ) < 10 ^ places := by positivity
  set whole := n * 10 ^ places / d
  set length := (Nat.toDigits 10 whole).length - 1
  have counted : (Nat.toDigits 10 whole).length = length + 1 :=
    (Nat.sub_add_cancel Nat.length_toDigits_pos).symm
  have low : (whole : ℚ) ≤ (n : ℚ) / d * 10 ^ places := by
    rw [div_mul_eq_mul_div, le_div_iff₀ above]
    exact_mod_cast Nat.div_mul_le_self (n * 10 ^ places) d
  have high : (n : ℚ) / d * 10 ^ places < (whole + 1 : ℕ) := by
    rw [div_mul_eq_mul_div, div_lt_iff₀ above, mul_comm _ (d : ℚ)]
    exact_mod_cast Nat.lt_mul_div_succ (n * 10 ^ places) denominator
  have most : whole + 1 ≤ 10 ^ (length + 1) :=
    (Decimal.length_digitsOf_le_iff (Nat.succ_ne_zero length)).mp counted.le
  have positive : 0 < whole := by
    have below : ((1 : ℕ) : ℚ) < (whole + 1 : ℕ) := by
      rw [Nat.cast_one]
      exact some.trans_lt high
    exact Nat.lt_of_succ_lt_succ (Nat.cast_lt.mp below)
  have least : 10 ^ length ≤ whole := Decimal.pow_length_digitsOf_le positive
  have split (exponent : ℕ) :
      (10 : ℚ) ^ ((exponent : ℤ) - places) = 10 ^ exponent / 10 ^ places := by
    rw [zpow_sub₀ (by norm_num), zpow_natCast, zpow_natCast]
  have lower : (10 : ℚ) ^ ((length : ℤ) - places) ≤ (n : ℚ) / d := by
    rw [split, div_le_iff₀ ten]
    calc (10 : ℚ) ^ length ≤ whole := by exact_mod_cast least
      _ ≤ (n : ℚ) / d * 10 ^ places := low
  have upper : (n : ℚ) / d < 10 ^ ((length : ℤ) - places + 1) := by
    have next : (length : ℤ) - places + 1 = (length + 1 : ℕ) - places := by
      push_cast
      ring
    rw [next, split, lt_div_iff₀ ten]
    calc (n : ℚ) / d * 10 ^ places < (whole + 1 : ℕ) := high
      _ ≤ 10 ^ (length + 1) := by exact_mod_cast most
  rw [log_eq 10 (by decide) lower upper, counted, Nat.cast_succ]
  ring

/-- The place of the first digit is the logarithm. -/
theorem leadingExponent_eq (least : 1 ≤ b.magnitude) :
    b.leadingExponent = Int.log 10 b.magnitude := by
  obtain ⟨denominator, value⟩ := b.toFraction_spec
  have counted (places : ℕ) := length_toDigits_div b.toFraction.1 places denominator (by
    rw [value]
    exact one_le_mul_of_one_le_of_one_le least (one_le_pow₀ (by norm_num)))
  unfold leadingExponent
  -- the count of places becomes a variable, since their power is too large to be computed
  generalize chosen : 400 = places
  simp only [counted places, value]
  omega

/-! ## Neighbours -/

/-- A quarter of the last binary digit, in which distances to the neighbours are counted. -/
def quarter (b : Binary64) : ℚ := 2 ^ (b.exponent - 2)

/-- How far the numbers that round to a number reach below it, in quarters. -/
def reach (b : Binary64) : ℕ := b.neighbourhood.2.1

private theorem quarter_pos (b : Binary64) : 0 < b.quarter := two_zpow_pos _

private theorem magnitude_eq_quarters (b : Binary64) : b.magnitude = 4 * b.significand * b.quarter := by
  rw [magnitude, quarter, zpow_sub₀ two_ne_zero]
  ring

/-- The distance to the number below is halved at a power of two. -/
theorem reach_cases (b : Binary64) : b.reach = 1 ∧ b.significand = 2 ^ 52 ∨ b.reach = 2 := by
  simp only [reach, neighbourhood]
  split
  · next least =>
    rw [Bool.and_eq_true, decide_eq_true_eq] at least
    exact .inl ⟨rfl, least.1⟩
  · exact .inr rfl

/-- What rounds to a number lies between its bounds, which belong to it if the significand is
even. -/
theorem roundsTo_iff (positive : 0 < b.significand) : b.roundsTo digits power = true ↔
    if b.significand % 2 = 0 then
      b.magnitude - b.reach * b.quarter ≤ digits * 10 ^ power ∧
        digits * 10 ^ power ≤ b.magnitude + 2 * b.quarter
    else
      b.magnitude - b.reach * b.quarter < digits * 10 ^ power ∧
        digits * 10 ^ power < b.magnitude + 2 * b.quarter := by
  obtain ⟨-, denominator, ten⟩ := powerOfTen_spec power
  obtain ⟨-, divisor, two⟩ := powerOfTwo_spec (b.exponent - 2)
  have few : b.reach ≤ 4 * b.significand := by
    rcases b.reach_cases with ⟨one, -⟩ | two <;> omega
  have low : b.magnitude - b.reach * b.quarter = (4 * b.significand - b.reach : ℕ) * b.quarter := by
    rw [magnitude_eq_quarters, Nat.cast_sub few]
    push_cast
    ring
  have high : b.magnitude + 2 * b.quarter = (4 * b.significand + 2 : ℕ) * b.quarter := by
    rw [magnitude_eq_quarters]
    push_cast
    ring
  -- both sides of the test are multiples of one number
  set p := (powerOfTen power).1
  set q := (powerOfTen power).2
  set n := (powerOfTwo (b.exponent - 2)).1
  set d := (powerOfTwo (b.exponent - 2)).2
  have scale : (0 : ℚ) < q * d := by positivity
  have candidate : ((digits * p * d : ℕ) : ℚ) = digits * 10 ^ power * (q * d) := by
    rw [← ten]
    push_cast
    field_simp
  have bound (u : ℕ) : ((u * (q * n) : ℕ) : ℚ) = u * b.quarter * (q * d) := by
    rw [quarter, ← two]
    push_cast
    field_simp
  have test : b.roundsTo digits power =
      if b.significand % 2 = 0 then
        decide ((4 * b.significand - b.reach) * (q * n) ≤ digits * p * d) &&
          decide (digits * p * d ≤ (4 * b.significand + 2) * (q * n))
      else
        decide ((4 * b.significand - b.reach) * (q * n) < digits * p * d) &&
          decide (digits * p * d < (4 * b.significand + 2) * (q * n)) := rfl
  rw [test, low, high]
  split
  · rw [Bool.and_eq_true, decide_eq_true_eq, decide_eq_true_eq, ← Nat.cast_le (α := ℚ),
      ← Nat.cast_le (α := ℚ), bound, bound, candidate, mul_le_mul_iff_left₀ scale,
      mul_le_mul_iff_left₀ scale]
  · rw [Bool.and_eq_true, decide_eq_true_eq, decide_eq_true_eq, ← Nat.cast_lt (α := ℚ),
      ← Nat.cast_lt (α := ℚ), bound, bound, candidate, mul_lt_mul_iff_left₀ scale,
      mul_lt_mul_iff_left₀ scale]

/-- What lies strictly between the bounds rounds to the number. -/
theorem roundsTo_of_lt (positive : 0 < b.significand)
    (low : b.magnitude - b.reach * b.quarter < digits * 10 ^ power)
    (high : digits * 10 ^ power < b.magnitude + 2 * b.quarter) :
    b.roundsTo digits power = true := by
  rw [roundsTo_iff positive]
  split
  · exact ⟨low.le, high.le⟩
  · exact ⟨low, high⟩

/-- What rounds to a number of 53 bits differs from it by half of the last bit at most. -/
theorem close_of_roundsTo (full : b.Full) (rounds : b.roundsTo digits power = true) :
    Close (1 / 2 ^ 53) (digits * 10 ^ power) b.magnitude := by
  have within : b.magnitude - b.reach * b.quarter ≤ digits * 10 ^ power ∧
      digits * 10 ^ power ≤ b.magnitude + 2 * b.quarter := by
    have test := (roundsTo_iff (Nat.lt_of_lt_of_le (by decide) full.1)).mp rounds
    split at test
    · exact test
    · exact ⟨test.1.le, test.2.le⟩
  have unit := b.quarter_pos
  have most : (b.reach : ℚ) ≤ 2 := by
    rcases b.reach_cases with ⟨one, -⟩ | two
    · rw [one]
      norm_num
    · rw [two]
      norm_num
  have least : (2 : ℚ) ^ 52 ≤ b.significand := by exact_mod_cast full.1
  have half : 2 * b.quarter ≤ 1 / 2 ^ 53 * b.magnitude := by
    rw [magnitude_eq_quarters]
    calc 2 * b.quarter = 1 / 2 ^ 53 * (4 * 2 ^ 52 * b.quarter) := by ring
      _ ≤ 1 / 2 ^ 53 * (4 * b.significand * b.quarter) := by gcongr
  have reached : b.reach * b.quarter ≤ 2 * b.quarter := by gcongr
  rw [Close, abs_le]
  constructor <;> linarith

/-! ## Grids -/

/-- The neighbour of a magnitude on a decimal grid that is not above it. -/
def lowerOn (b : Binary64) (power : ℤ) : ℕ :=
  b.toFraction.1 * (powerOfTen power).2 / (b.toFraction.2 * (powerOfTen power).1)

private theorem lowerOn_bounds (b : Binary64) (power : ℤ) :
    b.lowerOn power * 10 ^ power ≤ b.magnitude ∧
      b.magnitude < (b.lowerOn power + 1 : ℕ) * 10 ^ power := by
  obtain ⟨numerator, denominator, ten⟩ := powerOfTen_spec power
  obtain ⟨divisor, value⟩ := b.toFraction_spec
  have cells : ((b.toFraction.1 * (powerOfTen power).2 : ℕ) : ℚ) /
      (b.toFraction.2 * (powerOfTen power).1 : ℕ) = b.magnitude / 10 ^ power := by
    rw [← ten, ← value, div_div_div_eq]
    push_cast
    ring
  have floor : b.lowerOn power = ⌊b.magnitude / 10 ^ power⌋₊ := by
    rw [← cells, Nat.floor_div_eq_div]
    rfl
  have nonneg : 0 ≤ b.magnitude / 10 ^ power := by
    rw [← cells]
    positivity
  rw [← le_div_iff₀ (ten_zpow_pos power), ← div_lt_iff₀ (ten_zpow_pos power), floor, Nat.cast_succ]
  exact ⟨Nat.floor_le nonneg, Nat.lt_floor_add_one _⟩

/-- If both neighbours on a grid round to a number, the grid holds one of them, by some test. -/
theorem onGrid?_eq (b : Binary64) (power : ℤ) : ∃ nearer : Bool, b.onGrid? power =
    match b.roundsTo (b.lowerOn power) power, b.roundsTo (b.lowerOn power + 1) power with
    | true, true => some (if nearer then b.lowerOn power else b.lowerOn power + 1)
    | true, false => some (b.lowerOn power)
    | false, true => some (b.lowerOn power + 1)
    | false, false => none := ⟨_, rfl⟩

/-- A grid holds one of the two neighbours for a number, unless neither rounds to it. -/
theorem onGrid?_cases (b : Binary64) (power : ℤ) :
    (∃ digits, b.onGrid? power = some digits ∧ b.roundsTo digits power = true ∧
        (digits = b.lowerOn power ∨ digits = b.lowerOn power + 1)) ∨
      (b.onGrid? power = none ∧ b.roundsTo (b.lowerOn power) power = false ∧
        b.roundsTo (b.lowerOn power + 1) power = false) := by
  obtain ⟨nearer, search⟩ := b.onGrid?_eq power
  rw [search]
  cases lower : b.roundsTo (b.lowerOn power) power with
  | true =>
    cases upper : b.roundsTo (b.lowerOn power + 1) power with
    | true =>
      cases nearer with
      | true => exact .inl ⟨_, rfl, lower, .inl rfl⟩
      | false => exact .inl ⟨_, rfl, upper, .inr rfl⟩
    | false => exact .inl ⟨_, rfl, lower, .inl rfl⟩
  | false =>
    cases upper : b.roundsTo (b.lowerOn power + 1) power with
    | true => exact .inl ⟨_, rfl, upper, .inr rfl⟩
    | false => exact .inr ⟨rfl, rfl, rfl⟩

/-- On a grid of so many digits the lower neighbour has as many. -/
theorem lowerOn_digits (positive : 0 < b.magnitude) (some : 1 ≤ count) :
    0 < b.lowerOn (Int.log 10 b.magnitude - count + 1) ∧
      b.lowerOn (Int.log 10 b.magnitude - count + 1) < 10 ^ count := by
  set power := Int.log 10 b.magnitude - count + 1 with place
  obtain ⟨low, high⟩ := b.lowerOn_bounds power
  have ten := ten_zpow_pos power
  have next : Int.log 10 b.magnitude + 1 = count + power := by omega
  constructor
  · have first : (10 : ℚ) ^ power ≤ 10 ^ Int.log 10 b.magnitude :=
      zpow_le_zpow_right₀ (by norm_num) (by omega)
    have least : 1 * (10 : ℚ) ^ power < (b.lowerOn power + 1 : ℕ) * 10 ^ power := by
      rw [one_mul]
      exact (first.trans (zpow_log_le positive)).trans_lt high
    have more : ((1 : ℕ) : ℚ) < (b.lowerOn power + 1 : ℕ) := by
      rw [Nat.cast_one]
      exact lt_of_mul_lt_mul_right least ten.le
    rw [Nat.cast_lt] at more
    omega
  · have most : b.magnitude < 10 ^ count * 10 ^ power := by
      rw [← zpow_natCast, ← zpow_add₀ (by norm_num), ← next]
      exact lt_zpow_log _
    have less : (b.lowerOn power : ℚ) < (10 ^ count : ℕ) := by
      push_cast
      exact lt_of_mul_lt_mul_right (low.trans_lt most) ten.le
    exact_mod_cast less

/-- A grid that is finer than the numbers that round to a number holds one of them. -/
theorem exists_onGrid? (positive : 0 < b.significand)
    (fine : 10 ^ power < (b.reach + 2) * b.quarter) : ∃ digits, b.onGrid? power = some digits := by
  obtain ⟨low, high⟩ := b.lowerOn_bounds power
  have unit := b.quarter_pos
  have reached : 0 ≤ b.reach * b.quarter := by positivity
  rcases b.onGrid?_cases power with ⟨digits, found, -⟩ | ⟨-, lower, upper⟩
  · exact ⟨digits, found⟩
  · -- neither neighbour rounds to the number, so both are out of its bounds
    have below : b.lowerOn power * 10 ^ power ≤ b.magnitude - b.reach * b.quarter := by
      by_contra inside
      have rounds := roundsTo_of_lt positive (not_le.mp inside) (by linarith)
      exact Bool.false_ne_true (lower.symm.trans rounds)
    have above : b.magnitude + 2 * b.quarter ≤ (b.lowerOn power + 1 : ℕ) * 10 ^ power := by
      by_contra inside
      have rounds := roundsTo_of_lt positive (by linarith) (not_le.mp inside)
      exact Bool.false_ne_true (upper.symm.trans rounds)
    push_cast at above
    linarith

theorem Full.magnitude_pos (full : b.Full) : 0 < b.magnitude := by
  have unit := b.quarter_pos
  have some : (0 : ℚ) < b.significand := by exact_mod_cast Nat.lt_of_lt_of_le (by decide) full.1
  rw [magnitude_eq_quarters]
  positivity

/-- Seventeen digits are enough. -/
theorem exists_onGrid?_seventeen (full : b.Full) :
    ∃ digits, b.onGrid? (Int.log 10 b.magnitude - 16) = some digits := by
  have unit := b.quarter_pos
  have number := b.magnitude_eq_quarters
  have spacing : (10 : ℚ) ^ (Int.log 10 b.magnitude - 16) * 10 ^ 16 ≤ b.magnitude := by
    rw [← zpow_natCast, ← zpow_add₀ (by norm_num), Nat.cast_ofNat, sub_add_cancel]
    exact zpow_log_le full.magnitude_pos
  apply exists_onGrid? (Nat.lt_of_lt_of_le (by decide) full.1)
  rcases b.reach_cases with ⟨one, least⟩ | two
  · rw [least] at number
    rw [one]
    push_cast at number ⊢
    linarith
  · have few : (b.significand : ℚ) < 2 ^ 53 := by exact_mod_cast full.2
    have most : 4 * (b.significand : ℚ) * b.quarter ≤ 4 * 2 ^ 53 * b.quarter := by gcongr
    rw [two]
    push_cast
    linarith

/-! ## The search -/

/-- The first of the grids that holds a decimal, in a search that knows nothing of what the grids
hold. -/
def firstGrid (grid : ℤ → Option ℕ) (leading : ℤ) (count : ℕ) : ℕ → ℕ × ℤ
  | 0 => (0, 0)
  | remaining + 1 =>
    match grid (leading - count + 1) with
    | some digits => (digits, leading - count + 1)
    | none => firstGrid grid leading (count + 1) remaining

-- one step of the search itself would have to evaluate what a grid holds
private theorem shortestFrom_eq_firstGrid (b : Binary64) (count remaining : ℕ) :
    b.shortestFrom count remaining = firstGrid b.onGrid? b.leadingExponent count remaining := by
  delta shortestFrom firstGrid
  rfl

/-- The search ends at the first grid that holds a decimal. -/
theorem firstGrid_spec {grid : ℤ → Option ℕ} {leading : ℤ} {last remaining : ℕ}
    (from_le : count ≤ last) (within : last < count + remaining)
    (ends : ∃ digits, grid (leading - last + 1) = some digits) :
    ∃ found digits, count ≤ found ∧ found ≤ last ∧ grid (leading - found + 1) = some digits ∧
      firstGrid grid leading count remaining = (digits, leading - found + 1) := by
  induction remaining generalizing count with
  | zero => omega
  | succ remaining ih =>
    cases here : grid (leading - count + 1) with
    | some digits =>
      exact ⟨count, digits, Nat.le_refl _, from_le, here, by simp only [firstGrid, here]⟩
    | none =>
      have later : count ≠ last := by
        rintro rfl
        obtain ⟨digits, held⟩ := ends
        cases here.symm.trans held
      obtain ⟨found, digits, after, before, held, result⟩ :=
        ih (show count + 1 ≤ last by omega) (by omega)
      exact ⟨found, digits, by omega, before, held, by simp only [firstGrid, here, result]⟩

/-- Trailing zeros go into the power of ten. -/
theorem dropZeros_spec (nonzero : digits ≠ 0) (power : ℤ) :
    0 < (dropZeros digits power).1 ∧ (dropZeros digits power).1 ≤ digits ∧
      power ≤ (dropZeros digits power).2 ∧
      ((dropZeros digits power).1 : ℚ) * 10 ^ (dropZeros digits power).2 = digits * 10 ^ power := by
  induction digits, power using dropZeros.induct with
  | case1 digits power zero ih =>
    obtain ⟨positive, less, more, value⟩ := ih (by omega)
    have tenfold : (digits : ℚ) = (digits / 10 : ℕ) * 10 := by
      exact_mod_cast (by omega : digits = digits / 10 * 10)
    rw [dropZeros, if_pos zero]
    refine ⟨positive, by omega, by omega, ?_⟩
    rw [value, zpow_add_one₀ (by norm_num), ← mul_assoc, mul_right_comm, ← tenfold]
  | case2 digits power last =>
    rw [dropZeros, if_neg last]
    exact ⟨Nat.pos_of_ne_zero nonzero, Nat.le_refl _, le_rfl, rfl⟩

/-- The shortest decimal of a number of 53 bits has at most seventeen digits and differs from the
number by half of its last bit at most. -/
theorem shortest_spec (full : b.Full) (least : 1 ≤ b.magnitude) :
    0 < b.shortest.1 ∧ b.shortest.1 ≤ 10 ^ 17 ∧ Int.log 10 b.magnitude - 16 ≤ b.shortest.2 ∧
      Close (1 / 2 ^ 53) b.decimal b.magnitude := by
  have seventeen : ∃ digits, b.onGrid? (Int.log 10 b.magnitude - (17 : ℕ) + 1) = some digits := by
    have last : Int.log 10 b.magnitude - (17 : ℕ) + 1 = Int.log 10 b.magnitude - 16 := by
      push_cast
      ring
    rw [last]
    exact exists_onGrid?_seventeen full
  obtain ⟨count, digits, one, most, held, search⟩ :=
    firstGrid_spec (show 1 ≤ 17 by decide) (show 17 < 1 + 17 by decide) seventeen
  set power := Int.log 10 b.magnitude - count + 1 with place
  obtain ⟨positive, below⟩ := lowerOn_digits full.magnitude_pos one
  obtain ⟨rounds, neighbour⟩ : b.roundsTo digits power = true ∧
      (digits = b.lowerOn power ∨ digits = b.lowerOn power + 1) := by
    rcases b.onGrid?_cases power with ⟨other, found, rest⟩ | ⟨none, -⟩
    · cases held.symm.trans found
      exact rest
    · cases none.symm.trans held
  rw [← place] at positive below
  have few : 10 ^ count ≤ 10 ^ 17 := Nat.pow_le_pow_right (by decide) most
  have nonzero : b.significand ≠ 0 := (Nat.lt_of_lt_of_le (by decide) full.1).ne'
  have result : b.shortest = dropZeros digits power := by
    rw [shortest, if_neg nonzero, shortestFrom_eq_firstGrid, leadingExponent_eq least, search]
  obtain ⟨some, less, more, value⟩ := dropZeros_spec (show digits ≠ 0 by omega) power
  have close := close_of_roundsTo full rounds
  rw [← value, ← result] at close
  rw [result]
  exact ⟨some, by omega, by omega, close⟩

end DerivedFields.Binary64

import DerivedFields.Proofs.Decimal.Quotient

/-!
# Quotients rounded twice

A quotient of decimals is rounded to as many places as its digits leave room for, halves to the even
neighbour, and then to ten places, halves away from zero. What comes of that is compared with the number
that is due, the quotient rounded to ten places once. Both are counted in units of a last place. They
differ if the first rounding ends at a tie, or begins at one: then they are one unit apart.
-/

namespace DerivedFields

/-- The quotient has more than ten places and lies below the middle between two numbers of ten
places, so near to it that the first rounding ends there. -/
def RaisedToTie (scale : ℕ) (quotient : ℚ) : Prop :=
  10 < scale ∧ ∃ k : ℕ, quotient < (k + 1 / 2) / 10 ^ 10 ∧
    (((k + 1 / 2) / 10 ^ 10 - quotient) * 10 ^ scale < 1 / 2 ∨
      ((k + 1 / 2) / 10 ^ 10 - quotient) * 10 ^ scale = 1 / 2 ∧ 11 < scale)

/-- The quotient has ten places and lies in the middle between two numbers of ten places, of which
the lower one is even. -/
def LoweredToEven (scale : ℕ) (quotient : ℚ) : Prop :=
  scale = 10 ∧ ∃ k : ℕ, quotient = (2 * k + 1 / 2) / 10 ^ 10

/-! ## Two roundings -/

section

variable {x : ℚ} {first half : ℕ}

/-- Units rounded to an even number of them at a time. -/
private theorem floor_div_add_half (nonneg : 0 ≤ x) (positive : 0 < half) :
    ⌊x / (2 * half : ℕ) + 1 / 2⌋₊ = (⌊x⌋₊ + half) / (2 * half) := by
  have above : (half : ℚ) ≠ 0 := by exact_mod_cast positive.ne'
  have whole : x / (2 * half : ℕ) + 1 / 2 = (x + half) / (2 * half : ℕ) := by
    push_cast
    field_simp
  rw [whole, Nat.floor_div_natCast, Nat.floor_add_natCast nonneg]

/-- An integer nearest to a number is its floor, or the next one if the number is below that. -/
private theorem nearest_cases (nonneg : 0 ≤ x) (near : |(first : ℚ) - x| ≤ 1 / 2) :
    (first = ⌊x⌋₊ ∧ ¬x < first) ∨ (first = ⌊x⌋₊ + 1 ∧ x < first) := by
  have low := Nat.floor_le nonneg
  have high := Nat.lt_floor_add_one x
  rw [abs_le] at near
  have least : (⌊x⌋₊ : ℚ) < (first + 1 : ℕ) := by push_cast; linarith
  have most : (first : ℚ) < (⌊x⌋₊ + 2 : ℕ) := by push_cast; linarith
  rw [Nat.cast_lt] at least most
  rcases Nat.lt_or_ge ⌊x⌋₊ first with up | down
  · have next : first = ⌊x⌋₊ + 1 := by omega
    refine .inr ⟨next, ?_⟩
    rw [next]
    exact_mod_cast high
  · have same : first = ⌊x⌋₊ := by omega
    refine .inl ⟨same, ?_⟩
    rw [same]
    exact not_lt.mpr low

/-- A number that was rounded to units before is rounded further as if it had not been, unless the
first rounding took it up to a tie. -/
private theorem twice_rounded (half : ℕ) (nonneg : 0 ≤ x) (near : |(first : ℚ) - x| ≤ 1 / 2) :
    (first + half) / (2 * half) = (⌊x⌋₊ + half) / (2 * half) +
      if x < first ∧ 2 * half ∣ first + half then 1 else 0 := by
  rcases nearest_cases nonneg near with ⟨same, kept⟩ | ⟨next, raised⟩
  · rw [if_neg fun both => kept both.1, same, Nat.add_zero]
  · simp only [raised, true_and]
    rw [next, Nat.add_right_comm, Nat.succ_div]

private theorem dvd_add_half_iff (positive : 0 < half) :
    2 * half ∣ first + half ↔ ∃ k, first = (2 * k + 1) * half := by
  constructor
  · rintro ⟨next, multiple⟩
    obtain ⟨k, rfl⟩ : ∃ k, next = k + 1 := by
      refine Nat.exists_eq_succ_of_ne_zero ?_
      rintro rfl
      omega
    refine ⟨k, Nat.add_right_cancel (multiple.trans ?_)⟩
    ring
  · rintro ⟨k, rfl⟩
    refine ⟨k + 1, ?_⟩
    ring

end

namespace Decimal

variable {a b v : Decimal} {scale : ℕ}

/-- The number of ten places that is due. -/
def dueUnits (a b : Decimal) : ℕ := ⌊a.magnitude / b.magnitude * 10 ^ 10 + 1 / 2⌋₊

theorem dueUnits_le (a b : Decimal) :
    (dueUnits a b : ℚ) ≤ a.magnitude / b.magnitude * 10 ^ 10 + 1 / 2 := by
  apply Nat.floor_le
  have := div_magnitude_nonneg a b
  positivity

theorem lt_dueUnits (a b : Decimal) :
    a.magnitude / b.magnitude * 10 ^ 10 + 1 / 2 < dueUnits a b + 1 := Nat.lt_floor_add_one _

theorem roundedTo_quotient (a b : Decimal) :
    roundedTo 10 (a.toRat / b.toRat) =
      withSign (a.negative != b.negative) (dueUnits a b / 10 ^ 10) := by
  rw [toRat_div_toRat, roundedTo_withSign _ (div_magnitude_nonneg a b)]
  rfl

/-- The quotient in units of its last place, rounded for the first time. -/
def firstUnits (a b : Decimal) (scale : ℕ) : ℕ :=
  roundedQuotient .even (quotientAt a b scale).1 (quotientAt a b scale).2

section

variable (nonzero : b.isZero = false)

include nonzero

private theorem abs_firstUnits_sub_le (scale : ℕ) :
    |(firstUnits a b scale : ℚ) - a.magnitude / b.magnitude * 10 ^ scale| ≤ 1 / 2 := by
  rw [← quotientAt_eq nonzero]
  exact abs_roundedQuotient_sub_le .even _ (quotientAt_pos nonzero scale)

private theorem even_firstUnits
    (half : |(firstUnits a b scale : ℚ) - a.magnitude / b.magnitude * 10 ^ scale| = 1 / 2) :
    firstUnits a b scale % 2 = 0 := by
  rw [← quotientAt_eq nonzero] at half
  exact even_roundedQuotient (quotientAt_pos nonzero scale) half

theorem firstUnits_eq {units : ℕ}
    (near : |(units : ℚ) - a.magnitude / b.magnitude * 10 ^ scale| < 1 / 2) :
    firstUnits a b scale = units := by
  rw [← quotientAt_eq nonzero] at near
  exact roundedQuotient_eq .even (quotientAt_pos nonzero scale) near

/-- A quotient is taken up to what it is nearer to, and from the middle to what is even. -/
theorem firstUnits_eq_iff_of_lt {units : ℕ}
    (below : a.magnitude / b.magnitude * 10 ^ scale < units) :
    firstUnits a b scale = units ↔
      units - a.magnitude / b.magnitude * 10 ^ scale < 1 / 2 ∨
        units - a.magnitude / b.magnitude * 10 ^ scale = 1 / 2 ∧ Even units := by
  have near := abs_firstUnits_sub_le (a := a) nonzero scale
  set x := a.magnitude / b.magnitude * 10 ^ scale with quotient
  have apart : |(units : ℚ) - x| = units - x := abs_of_pos (sub_pos.mpr below)
  constructor
  · rintro rfl
    rw [apart] at near
    rcases near.lt_or_eq with closer | half
    · exact .inl closer
    · have even := even_firstUnits nonzero (apart.trans half)
      exact .inr ⟨half, Nat.even_iff.mpr even⟩
  · rintro (closer | ⟨half, even⟩)
    · apply firstUnits_eq nonzero
      rwa [apart]
    · by_contra other
      obtain ⟨low, high⟩ := abs_le.mp near
      have least : (units : ℚ) ≤ (firstUnits a b scale + 1 : ℕ) := by push_cast; linarith
      have most : (firstUnits a b scale : ℚ) ≤ units := by linarith
      rw [Nat.cast_le] at least most
      have next : units = firstUnits a b scale + 1 := by omega
      have lower : |(firstUnits a b scale : ℚ) - x| = 1 / 2 := by
        rw [next, Nat.cast_succ] at half
        rw [abs_eq (by norm_num)]
        exact .inr (by linarith)
      have parity := even_firstUnits nonzero lower
      rw [Nat.even_iff] at even
      omega

end

/-- A quotient with room for its digits has at most one unit more than fits. -/
theorem firstUnits_le (nonzero : b.isZero = false)
    (room : a.magnitude / b.magnitude * 10 ^ scale < limit) : firstUnits a b scale ≤ limit := by
  have near := abs_firstUnits_sub_le (a := a) nonzero scale
  rw [abs_le] at near
  have less : (firstUnits a b scale : ℚ) < (limit + 1 : ℕ) := by push_cast; linarith
  rw [Nat.cast_lt] at less
  omega

/-- The middle between two numbers of ten places, in units of a later place. -/
theorem tie_units (k extra : ℕ) :
    ((k : ℚ) + 1 / 2) / 10 ^ 10 * 10 ^ (extra + 11) = ((2 * k + 1) * (5 * 10 ^ extra) : ℕ) := by
  push_cast
  ring

private theorem even_tie_units (k extra : ℕ) : Even ((2 * k + 1) * (5 * 10 ^ extra)) ↔ 0 < extra := by
  have odd : ¬Even (2 * k + 1) := by simp
  have five : ¬Even 5 := by decide
  have ten : Even 10 := by decide
  rw [Nat.even_mul, or_iff_right odd, Nat.even_mul, or_iff_right five, Nat.even_pow,
    Nat.pos_iff_ne_zero, and_iff_right ten]

/-- A quotient is raised to a tie if the first rounding takes it up to one. -/
theorem raisedToTie_iff (nonzero : b.isZero = false) (extra : ℕ) :
    RaisedToTie (extra + 11) (a.magnitude / b.magnitude) ↔
      a.magnitude / b.magnitude * 10 ^ (extra + 11) < firstUnits a b (extra + 11) ∧
        2 * (5 * 10 ^ extra) ∣ firstUnits a b (extra + 11) + 5 * 10 ^ extra := by
  have ten : (0 : ℚ) < 10 ^ (extra + 11) := by positivity
  have positive : 0 < 5 * 10 ^ extra := by positivity
  constructor
  · rintro ⟨-, k, below, close⟩
    rw [← mul_lt_mul_iff_left₀ ten, tie_units] at below
    rw [sub_mul, tie_units] at close
    have reached : firstUnits a b (extra + 11) = (2 * k + 1) * (5 * 10 ^ extra) := by
      refine (firstUnits_eq_iff_of_lt nonzero below).mpr (close.imp_right ?_)
      rintro ⟨half, more⟩
      exact ⟨half, (even_tie_units k extra).mpr (by omega)⟩
    rw [reached]
    exact ⟨below, (dvd_add_half_iff positive).mpr ⟨k, rfl⟩⟩
  · rintro ⟨up, multiple⟩
    obtain ⟨k, reached⟩ := (dvd_add_half_iff positive).mp multiple
    rw [reached] at up
    have close := (firstUnits_eq_iff_of_lt nonzero up).mp reached
    refine ⟨by omega, k, ?_, ?_⟩
    · rwa [← mul_lt_mul_iff_left₀ ten, tie_units]
    · rw [sub_mul, tie_units]
      refine close.imp_right ?_
      rintro ⟨half, even⟩
      have more := (even_tie_units k extra).mp even
      exact ⟨half, by omega⟩

/-- Units of ten places that come of rounding twice where so many are due. -/
structure TwiceRounded (scale : ℕ) (quotient : ℚ) (due units : ℕ) : Prop where
  raised : RaisedToTie scale quotient → units = due + 1
  lowered : LoweredToEven scale quotient → units + 1 = due
  straight : ¬RaisedToTie scale quotient → ¬LoweredToEven scale quotient → units = due

/-- Of a quotient with more than ten places, one that was raised to a tie has one unit too many. -/
theorem twiceRounded_many (nonzero : b.isZero = false) (many : 10 < scale) :
    TwiceRounded scale (a.magnitude / b.magnitude) (dueUnits a b)
      ⌊(firstUnits a b scale : ℚ) / 10 ^ scale * 10 ^ 10 + 1 / 2⌋₊ := by
  obtain ⟨extra, rfl⟩ := Nat.exists_eq_add_of_le' many
  have positive : 0 < 5 * 10 ^ extra := by positivity
  have shift (y : ℚ) : y / 10 ^ (extra + 11) * 10 ^ 10 = y / (2 * (5 * 10 ^ extra) : ℕ) := by
    push_cast
    field_simp
    ring
  have nonneg : 0 ≤ a.magnitude / b.magnitude * 10 ^ (extra + 11) :=
    mul_nonneg (div_magnitude_nonneg a b) (by positivity)
  have due : a.magnitude / b.magnitude * 10 ^ 10 =
      a.magnitude / b.magnitude * 10 ^ (extra + 11) / (2 * (5 * 10 ^ extra) : ℕ) := by
    rw [← shift]
    field_simp
  have twice := twice_rounded (5 * 10 ^ extra) nonneg (abs_firstUnits_sub_le nonzero _)
  rw [← floor_div_add_half nonneg positive, ← due] at twice
  have raises := raisedToTie_iff (a := a) nonzero extra
  change TwiceRounded (extra + 11) _ _ _
  rw [shift, floor_div_add_half (Nat.cast_nonneg _) positive, Nat.floor_natCast, twice]
  constructor
  · intro raised
    rw [if_pos (raises.mp raised)]
    rfl
  · rintro ⟨ten, -⟩
    omega
  · intro kept _
    rw [if_neg fun up => kept (raises.mpr up)]
    rfl

/-! ### Ten places -/

/-- Of a quotient with ten places, the first rounding leaves what is due or one unit less. -/
theorem dueUnits_cases (nonzero : b.isZero = false) :
    dueUnits a b = firstUnits a b 10 ∨ dueUnits a b = firstUnits a b 10 + 1 := by
  obtain ⟨below, above⟩ := abs_le.mp (abs_firstUnits_sub_le (a := a) nonzero 10)
  have low := dueUnits_le a b
  have high := lt_dueUnits a b
  have least : (dueUnits a b : ℚ) ≤ (firstUnits a b 10 + 1 : ℕ) := by push_cast; linarith
  have most : (firstUnits a b 10 : ℚ) < (dueUnits a b + 1 : ℕ) := by push_cast; linarith
  rw [Nat.cast_le] at least
  rw [Nat.cast_lt] at most
  omega

/-- A tie above an even number goes down at first, although it is due to go up. -/
theorem firstUnits_of_tie (nonzero : b.isZero = false) {k : ℕ}
    (tie : a.magnitude / b.magnitude * 10 ^ 10 = 2 * k + 1 / 2) :
    firstUnits a b 10 + 1 = dueUnits a b := by
  have due : dueUnits a b = 2 * k + 1 := by
    have whole : (2 * k : ℚ) + 1 / 2 + 1 / 2 = (2 * k + 1 : ℕ) := by push_cast; ring
    rw [dueUnits, tie, whole, Nat.floor_natCast]
  -- both neighbours are equally near, and the upper one is odd
  have lower : firstUnits a b 10 ≠ 2 * k + 1 := by
    have under : a.magnitude / b.magnitude * 10 ^ 10 < (2 * k + 1 : ℕ) := by
      rw [tie]
      push_cast
      linarith
    rw [ne_eq, firstUnits_eq_iff_of_lt nonzero under, tie]
    rintro (closer | ⟨-, even⟩)
    · push_cast at closer
      linarith
    · exact absurd even (by simp)
  rcases dueUnits_cases (a := a) nonzero with same | next
  · exact absurd (same.symm.trans due) lower
  · exact next.symm

/-- Nothing but a tie above an even number is one unit short. -/
theorem exists_tie (nonzero : b.isZero = false) (short : dueUnits a b = firstUnits a b 10 + 1) :
    ∃ k : ℕ, a.magnitude / b.magnitude * 10 ^ 10 = 2 * k + 1 / 2 := by
  obtain ⟨below, above⟩ := abs_le.mp (abs_firstUnits_sub_le (a := a) nonzero 10)
  have low := dueUnits_le a b
  rw [short, Nat.cast_succ] at low
  have tie : a.magnitude / b.magnitude * 10 ^ 10 = firstUnits a b 10 + 1 / 2 := by linarith
  have even : firstUnits a b 10 % 2 = 0 := by
    apply even_firstUnits nonzero
    rw [tie, sub_add_cancel_left, abs_neg]
    norm_num
  have half : (2 * (firstUnits a b 10 / 2 : ℕ) : ℚ) = firstUnits a b 10 := by
    exact_mod_cast (by omega : 2 * (firstUnits a b 10 / 2) = firstUnits a b 10)
  exact ⟨firstUnits a b 10 / 2, by rw [half, tie]⟩

/-- Of a quotient with ten places, a tie above an even number has one unit too few. -/
theorem twiceRounded_ten (nonzero : b.isZero = false) :
    TwiceRounded 10 (a.magnitude / b.magnitude) (dueUnits a b) (firstUnits a b 10) := by
  have ten : (10 : ℚ) ^ 10 ≠ 0 := by positivity
  constructor
  · rintro ⟨many, -⟩
    exact absurd many (lt_irrefl 10)
  · rintro ⟨-, k, tie⟩
    exact firstUnits_of_tie nonzero ((eq_div_iff ten).mp tie)
  · intro _ straight
    rcases dueUnits_cases (a := a) nonzero with same | short
    · exact same.symm
    · obtain ⟨k, tie⟩ := exists_tie nonzero short
      exact absurd ⟨rfl, k, (eq_div_iff ten).mpr tie⟩ straight

end Decimal

end DerivedFields

import DerivedFields.Decimal.Basic

/-!
# Rounding

Quotients of natural numbers rounded to the nearest integer, and decimals rounded to fewer digits.
`Decimal.fit?` is the one place where a result that is too long loses fraction digits: it drops as
few as possible and sends a tie to the even neighbour.
-/

namespace DerivedFields

/-- Where a number halfway between two integers goes. -/
inductive Tie
  | even
  | away
  deriving DecidableEq

/-- The quotient of two natural numbers, rounded to the nearest integer. -/
def roundedQuotient (tie : Tie) (n d : Nat) : Nat :=
  let quotient := n / d
  let twice := 2 * (n % d)
  if twice > d || (twice == d && (tie == .away || quotient % 2 == 1)) then quotient + 1
  else quotient

namespace Decimal

/-- How many low digits to drop until the coefficient has at most 96 bits. -/
def excessDigits (coefficient : Nat) : Nat :=
  if coefficient < limit then 0 else excessDigits (coefficient / 10) + 1
termination_by coefficient
decreasing_by
  have : limit = 79228162514264337593543950336 := by decide
  omega

/-- The decimal nearest to `coefficient / 10 ^ scale`. The fewest possible fraction digits are
dropped, a tie goes to the even neighbour, and `none` says that the integer part is too large. -/
def fit? (negative : Bool) (coefficient scale : Nat) : Option Decimal :=
  let dropped := max (scale - maxScale) (excessDigits coefficient)
  if scale < dropped then none
  else
    let rounded := roundedQuotient .even coefficient (Nat.pow 10 dropped)
    if rounded < limit then make? negative rounded (scale - dropped)
    else if scale = dropped then none
    else make? negative (roundedQuotient .even rounded 10) (scale - dropped - 1)

/-- Rounds half away from zero to at most `places` fraction digits. A number with fewer fraction
digits stays as it is. -/
def round (d : Decimal) (places : Nat) : Decimal :=
  if d.coefficient = 0 then
    { d with scale := min places 28, scale_le := Nat.min_le_right places 28 }
  else if small : d.scale ≤ places then d
  else
    have bound : roundedQuotient .away d.coefficient (Nat.pow 10 (d.scale - places)) <
        0x1000000000000000000000000 := by
      have divisor : 10 ≤ Nat.pow 10 (d.scale - places) := by
        have : 1 ≤ d.scale - places := by omega
        calc 10 = Nat.pow 10 1 := rfl
          _ ≤ Nat.pow 10 (d.scale - places) := Nat.pow_le_pow_right (by decide) this
      have quotient : d.coefficient / Nat.pow 10 (d.scale - places) ≤ d.coefficient / 10 :=
        Nat.div_le_div_left divisor (by decide)
      have := d.coefficient_lt
      simp only [roundedQuotient]
      split <;> omega
    ⟨d.negative, roundedQuotient .away d.coefficient (Nat.pow 10 (d.scale - places)), places, bound,
      by have := d.scale_le; omega⟩

/-- The integer part as a decimal, with the sign kept. -/
def trunc (d : Decimal) : Decimal :=
  ⟨d.negative, d.coefficient / Nat.pow 10 d.scale, 0,
    Nat.lt_of_le_of_lt (Nat.div_le_self ..) d.coefficient_lt, zero.scale_le⟩

end Decimal

end DerivedFields

import DerivedFields.Decimal.Rounding

/-!
# Remainders

The remainder of two coefficients of one scale. A divisor that has between 64 and 96 bits is first
shifted up to 96 bits, and the dividend with it; then the dividend is read in digits of 32 bits from
the most significant one down. A step whose remainder begins with the first digit of the divisor
keeps 96 bits of the widened remainder, so the result may differ from the exact remainder, yet it
stays below the divisor. All other divisors give the exact remainder.
-/

namespace DerivedFields.Decimal

/-- Brings one digit of 32 bits down into the remainder by a divisor of 96 bits. -/
def remainderStep (divisor rest digit : Nat) : Nat :=
  let widened := rest * 0x100000000 + digit
  (if rest / 0x10000000000000000 = divisor / 0x10000000000000000 then widened % 0x1000000000000000000000000 else widened) % divisor

/-- The remainder by a divisor of 96 bits, one step for each digit of the dividend. -/
def longRemainder (divisor dividend : Nat) : Nat :=
  if dividend = 0 then 0
  else remainderStep divisor (longRemainder divisor (dividend / 0x100000000)) (dividend % 0x100000000)
termination_by dividend

/-- The remainder of two coefficients of one scale; the divisor is not zero. -/
def remainder (dividend divisor : Nat) : Nat :=
  if divisor < 0x10000000000000000 ∨ 0x1000000000000000000000000 ≤ divisor then dividend % divisor
  else
    let shift := 95 - divisor.log2
    longRemainder (divisor * Nat.pow 2 shift) (dividend * Nat.pow 2 shift) / Nat.pow 2 shift

end DerivedFields.Decimal

import DerivedFields.Decimal.Rounding

/-!
# Binary floating point

Finite binary numbers with 53 bits of precision, as a sign, a significand and a power of two. All
arithmetic goes through `nearest?`, which rounds a fraction of natural numbers to the nearest such
number, a tie going to the even significand.
-/

namespace DerivedFields

/-- The number `significand * 2 ^ exponent` with a sign. The significand has 53 bits unless the
exponent is the least one. -/
structure Binary64 where
  negative : Bool
  significand : Nat
  exponent : Int
  deriving DecidableEq

namespace Binary64

/-- The least exponent: that of the numbers with fewer than 53 bits. -/
def minExponent : Int := -1074

/-- The greatest exponent of a finite number. -/
def maxExponent : Int := 971

def zero (negative : Bool) : Binary64 := ⟨negative, 0, minExponent⟩

/-- A power of two as a fraction. -/
def powerOfTwo (exponent : Int) : Nat × Nat :=
  if 0 ≤ exponent then (Nat.pow 2 exponent.toNat, 1) else (1, Nat.pow 2 (-exponent).toNat)

/-- The magnitude as a fraction. -/
def toFraction (b : Binary64) : Nat × Nat :=
  let (n, d) := powerOfTwo b.exponent
  (b.significand * n, d)

/-- The quotient of `n / d` by a power of two, as a fraction. -/
def scaled (n d : Nat) (exponent : Int) : Nat × Nat :=
  let (p, q) := powerOfTwo exponent
  (n * q, d * p)

/-- The exponent at which `n / d` has a significand of 53 bits, or the least exponent. -/
def exponentOf (n d : Nat) : Int :=
  let low : Int := (n.log2 : Int) - (d.log2 : Int) - 53
  let (p, q) := scaled n d low
  max minExponent (if p / q < 0x20000000000000 then low else low + 1)

/-- The number nearest to `n / d`, unless it is too large. -/
def nearest? (negative : Bool) (n d : Nat) : Option Binary64 :=
  if n = 0 then some (zero negative)
  else
    let exponent := exponentOf n d
    let (p, q) := scaled n d exponent
    let significand := roundedQuotient .even p q
    let (significand, exponent) :=
      if significand = 0x20000000000000 then (0x10000000000000, exponent + 1) else (significand, exponent)
    if exponent ≤ maxExponent then some ⟨negative, significand, exponent⟩ else none

/-- Product with a fraction's nearest number. -/
def mul? (a b : Binary64) : Option Binary64 :=
  let (n, d) := a.toFraction
  let (p, q) := b.toFraction
  nearest? (a.negative != b.negative) (n * p) (d * q)

/-- Quotient by a number that is not zero. -/
def div? (a b : Binary64) : Option Binary64 :=
  let (n, d) := a.toFraction
  let (p, q) := b.toFraction
  nearest? (a.negative != b.negative) (n * q) (d * p)

/-- The number nearest to a power of ten. -/
def tenTo? (exponent : Nat) : Option Binary64 := nearest? false (Nat.pow 10 exponent) 1

end Binary64

end DerivedFields

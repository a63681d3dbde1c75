import DerivedFields.Decimal.Remainder

/-!
# Decimal arithmetic

Sums, products and quotients are computed exactly and fitted into a decimal; `none` is an overflow
of the integer part. A sum has the greater scale of its operands and a product the sum of the
scales, as far as the digits fit. A quotient has as many digits as fit. A remainder is that of the
coefficients at one scale.
-/

namespace DerivedFields.Decimal

def add? (a b : Decimal) : Option Decimal :=
  if a.isZero then some b
  else if b.isZero then some a
  else
    let scale := max a.scale b.scale
    let sum := a.signedAt scale + b.signedAt scale
    fit? (sum < 0) sum.natAbs scale

def sub? (a b : Decimal) : Option Decimal :=
  if a.isZero then some (if b.isZero then b else b.neg)
  else if b.isZero then some a
  else
    let scale := max a.scale b.scale
    let difference := a.signedAt scale - b.signedAt scale
    fit? (difference < 0) difference.natAbs scale

def mul? (a b : Decimal) : Option Decimal :=
  if a.isZero || b.isZero then some zero
  else fit? (a.negative != b.negative) (a.coefficient * b.coefficient) (a.scale + b.scale)

/-- The quotient of the magnitudes with `scale` fraction digits, as a fraction of naturals. -/
def quotientAt (a b : Decimal) (scale : Nat) : Nat × Nat :=
  (a.coefficient * Nat.pow 10 (scale + b.scale), b.coefficient * Nat.pow 10 a.scale)

/-- The greatest scale up to the bound at which the integer quotient has at most 96 bits. -/
def quotientScale? (a b : Decimal) : Nat → Option Nat
  | 0 =>
    let (n, d) := quotientAt a b 0
    if n / d < limit then some 0 else none
  | scale + 1 =>
    let (n, d) := quotientAt a b (scale + 1)
    if n / d < limit then some (scale + 1) else quotientScale? a b scale

/-- The quotient with as many digits as fit, a tie going to the even neighbour. The divisor is not
zero. -/
def div? (a b : Decimal) : Option Decimal :=
  if a.isZero then some zero
  else do
    let scale ← quotientScale? a b maxScale
    let (n, d) := quotientAt a b scale
    fit? (a.negative != b.negative) (roundedQuotient .even n d) scale

/-- The remainder at the greater scale; it has the sign of the dividend. The divisor is not zero. -/
def rem? (a b : Decimal) : Option Decimal :=
  if a.isZero then some zero
  else
    let scale := max a.scale b.scale
    fit? a.negative (remainder (a.signedAt scale).natAbs (b.signedAt scale).natAbs) scale

/-- The greatest integer not above a decimal. -/
def floor (d : Decimal) : Decimal :=
  if d.scale = 0 then d
  else if d.negative && !d.isInteger then (d.trunc.sub? one).getD d.trunc
  else d.trunc

/-- The least integer not below a decimal. -/
def ceil (d : Decimal) : Decimal :=
  if d.isInteger || d.negative then d.trunc
  else (d.trunc.add? one).getD d.trunc

end DerivedFields.Decimal

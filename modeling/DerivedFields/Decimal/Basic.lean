/-!
# Decimals

A decimal is a sign, a coefficient of 96 bits and the number of its fraction digits, at most 28.
The same number may be written at several scales; `compare` and `equals` look at the number,
structural equality at the writing. Zero may carry a sign, which no text shows.
-/

namespace DerivedFields

/-- A sign, a 96-bit coefficient and a count of fraction digits. -/
structure Decimal where
  negative : Bool
  coefficient : Nat
  scale : Nat
  coefficient_lt : coefficient < 0x1000000000000000000000000
  scale_le : scale ≤ 28
  deriving DecidableEq

namespace Decimal

/-- One more than the greatest coefficient. -/
def limit : Nat := 0x1000000000000000000000000

/-- The greatest number of fraction digits. -/
def maxScale : Nat := 28

def zero : Decimal := ⟨false, 0, 0, by decide, by decide⟩
def one : Decimal := ⟨false, 1, 0, by decide, by decide⟩
def ten : Decimal := ⟨false, 10, 0, by decide, by decide⟩
def oneHundred : Decimal := ⟨false, 100, 0, by decide, by decide⟩

/-- The decimal with these parts, if they are in range. The sign of zero is dropped. -/
def make? (negative : Bool) (coefficient scale : Nat) : Option Decimal :=
  if bounds : coefficient < 0x1000000000000000000000000 ∧ scale ≤ 28 then
    some ⟨negative && coefficient != 0, coefficient, scale, bounds.1, bounds.2⟩
  else none

/-- An integer as a decimal; the magnitude is at most the greatest coefficient. -/
def ofInt (n : Int) : Decimal :=
  ⟨n < 0, min n.natAbs 0xffffffffffffffffffffffff, 0, by omega, by decide⟩

def isZero (d : Decimal) : Bool := d.coefficient == 0

def neg (d : Decimal) : Decimal := { d with negative := !d.negative }
def abs (d : Decimal) : Decimal := { d with negative := false }

/-- The coefficient with its sign: the number is this divided by ten to the scale. -/
def signed (d : Decimal) : Int := if d.negative then -d.coefficient else d.coefficient

/-- The signed coefficient written with `scale` fraction digits, for a scale not below its own. -/
def signedAt (d : Decimal) (scale : Nat) : Int := d.signed * Nat.pow 10 (scale - d.scale)

/-- Order of the numbers. -/
def compare (a b : Decimal) : Ordering :=
  let scale := max a.scale b.scale
  Ord.compare (a.signedAt scale) (b.signedAt scale)

/-- Equality of the numbers, whatever their scales. -/
def equals (a b : Decimal) : Bool := a.compare b == .eq

/-- The integer part, rounded toward zero. -/
def truncated (d : Decimal) : Int := d.signed.tdiv (Nat.pow 10 d.scale)

/-- No fraction other than zero. -/
def isInteger (d : Decimal) : Bool := d.coefficient % Nat.pow 10 d.scale == 0

/-- A coefficient and scale with the trailing zeros of the fraction removed. -/
def stripZeros (coefficient : Nat) : Nat → Nat × Nat
  | 0 => (coefficient, 0)
  | scale + 1 =>
    if coefficient % 10 = 0 then stripZeros (coefficient / 10) scale else (coefficient, scale + 1)

private theorem stripZeros_le (coefficient scale : Nat) :
    (stripZeros coefficient scale).1 ≤ coefficient ∧ (stripZeros coefficient scale).2 ≤ scale := by
  induction scale generalizing coefficient with
  | zero => simp [stripZeros]
  | succ scale ih =>
    simp only [stripZeros]
    split
    · have := ih (coefficient / 10)
      omega
    · simp

/-- The same number without trailing zeros in the fraction; zero loses scale and sign. -/
def normalize (d : Decimal) : Decimal :=
  if d.coefficient = 0 then zero
  else
    let stripped := stripZeros d.coefficient d.scale
    ⟨d.negative, stripped.1, stripped.2,
      Nat.lt_of_le_of_lt (stripZeros_le d.coefficient d.scale).1 d.coefficient_lt,
      Nat.le_trans (stripZeros_le d.coefficient d.scale).2 d.scale_le⟩

end Decimal

end DerivedFields

import DerivedFields.Binary64.Basic

/-!
# The shortest decimal of a binary number

Among the decimals that round to a binary number, the one with the fewest digits, and of those the
nearest. For each count of digits only the two neighbours of the number on that decimal grid can
be the answer, and they are tested exactly.
-/

namespace DerivedFields.Binary64

/-- A power of ten as a fraction. -/
def powerOfTen (exponent : Int) : Nat × Nat :=
  if 0 ≤ exponent then (Nat.pow 10 exponent.toNat, 1) else (1, Nat.pow 10 (-exponent).toNat)

/-- The decimal exponent of the first digit of a magnitude. -/
def leadingExponent (b : Binary64) : Int :=
  let (n, d) := b.toFraction
  ((Nat.toDigits 10 (n * Nat.pow 10 400 / d)).length : Int) - 401

/-- Twice the magnitude, and the distances to the neighbouring numbers, below and above, all
multiplied by two: in units of `2 ^ (exponent - 2)`. -/
def neighbourhood (b : Binary64) : Nat × Nat × Nat :=
  let below := if b.significand = 0x10000000000000 && b.exponent != minExponent then 1 else 2
  (4 * b.significand, below, 2)

/-- The decimal `digits * 10 ^ power` rounds to the number: it lies no further than halfway to the
neighbours, and exactly halfway only if the significand is even. -/
def roundsTo (b : Binary64) (digits : Nat) (power : Int) : Bool :=
  let (value, below, above) := b.neighbourhood
  let (p, q) := powerOfTen power
  let (n, d) := powerOfTwo (b.exponent - 2)
  let candidate := digits * p * d
  let unit := q * n
  let low := (value - below) * unit
  let high := (value + above) * unit
  if b.significand % 2 = 0 then low ≤ candidate && candidate ≤ high
  else low < candidate && candidate < high

/-- The distance of a decimal from the magnitude, times a factor that depends on the power only. -/
def distance (b : Binary64) (digits : Nat) (power : Int) : Nat :=
  let (n, d) := b.toFraction
  let (p, q) := powerOfTen power
  ((digits * p * d : Int) - n * q).natAbs

/-- The better of the two neighbours of the magnitude on a decimal grid, if one rounds to it. -/
def onGrid? (b : Binary64) (power : Int) : Option Nat :=
  let (n, d) := b.toFraction
  let (p, q) := powerOfTen power
  let lower := n * q / (d * p)
  let upper := lower + 1
  match b.roundsTo lower power, b.roundsTo upper power with
  | true, true =>
    let down := b.distance lower power
    let up := b.distance upper power
    some (if down < up || (down == up && lower % 2 == 0) then lower else upper)
  | true, false => some lower
  | false, true => some upper
  | false, false => none

/-- The first grid, from `count` digits on, that holds a decimal for the number. -/
def shortestFrom (b : Binary64) (count : Nat) : Nat → Nat × Int
  | 0 => (0, 0)
  | remaining + 1 =>
    let power := b.leadingExponent - count + 1
    match b.onGrid? power with
    | some digits => (digits, power)
    | none => shortestFrom b (count + 1) remaining

/-- Digits without trailing zeros, and the power of ten of the last. -/
def dropZeros (digits : Nat) (power : Int) : Nat × Int :=
  if digits ≠ 0 ∧ digits % 10 = 0 then dropZeros (digits / 10) (power + 1) else (digits, power)
termination_by digits

/-- The digits of the shortest decimal and the power of ten of the last one. -/
def shortest (b : Binary64) : Nat × Int :=
  if b.significand = 0 then (0, 0)
  else
    let (digits, power) := shortestFrom b 1 17
    dropZeros digits power

end DerivedFields.Binary64

import DerivedFields.Json.Number

/-!
# Integer literals

A literal without a fraction and an exponent spells an integer. If that has 64 bits, signed or
unsigned, it is what the literal stands for, and else the literal stands for a binary number. A zero
with a sign is the only integer of 64 bits that counts as a binary number.
-/

namespace DerivedFields

/-- An integer that a number of 64 bits can hold, signed or unsigned. -/
def Json.Fits (n : Int) : Prop := -0x8000000000000000 ≤ n ∧ n < 0x10000000000000000

namespace JsonNumber

/-- The integer that a literal spells, if it has neither a fraction nor an exponent. -/
def Literal.integer? (literal : Literal) : Option Int :=
  match literal.fraction, literal.exponent with
  | none, none =>
    some (if literal.negative then -(ofDigits literal.whole : Int) else ofDigits literal.whole)
  | _, _ => none

/-- A literal of digits alone, which spell an integer. -/
structure Literal.IsInteger (literal : Literal) (n : Int) : Prop where
  fraction : literal.fraction = none
  exponent : literal.exponent = none
  digits : ∀ digit ∈ literal.whole, digit < 10
  value : n = if literal.negative then -(ofDigits literal.whole : Int) else ofDigits literal.whole

theorem Literal.isInteger_of_integer? {literal : Literal} {n : Int}
    (digits : ∀ digit ∈ literal.whole, digit < 10) (integer : literal.integer? = some n) :
    literal.IsInteger n := by
  cases fraction : literal.fraction with
  | some places =>
    rw [integer?, fraction] at integer
    cases integer
  | none =>
    cases exponent : literal.exponent with
    | some power =>
      rw [integer?, fraction, exponent] at integer
      cases integer
    | none =>
      rw [integer?, fraction, exponent] at integer
      exact ⟨fraction, exponent, digits, (Option.some.inj integer).symm⟩

theorem Literal.IsInteger.natAbs_eq {literal : Literal} {n : Int} (integer : literal.IsInteger n) :
    n.natAbs = ofDigits literal.whole := by
  rw [integer.value]
  split
  · rw [Int.natAbs_neg, Int.natAbs_natCast]
  · rw [Int.natAbs_natCast]

section

variable {literal : Literal} {n : Int}

theorem Literal.toNumber?_of_fits (integer : literal.IsInteger n) (fits : Json.Fits n)
    (sign : literal.negative = true → n ≠ 0) : literal.toNumber? = some (.integer n) := by
  obtain ⟨low, high⟩ := fits
  have value := integer.value
  cases negative : literal.negative with
  | true =>
    have nonzero := sign negative
    rw [negative, if_pos rfl] at value
    have size : 0 < ofDigits literal.whole ∧ ofDigits literal.whole ≤ 0x8000000000000000 := by omega
    simp only [toNumber?, integer.fraction, integer.exponent, negative, size, value, decide_true,
      Bool.not_true, Bool.false_and, Bool.and_self, Bool.false_eq_true, if_false, if_true]
  | false =>
    rw [negative, if_neg Bool.false_ne_true] at value
    have size : ofDigits literal.whole < 0x10000000000000000 := by omega
    simp only [toNumber?, integer.fraction, integer.exponent, negative, size, value, decide_true,
      Bool.not_false, Bool.and_self, if_true]

theorem Literal.toNumber?_of_not_fits (integer : literal.IsInteger n)
    (other : ¬Json.Fits n ∨ literal.negative = true ∧ n = 0) :
    literal.toNumber? = literal.toReal?.map .real := by
  have value := integer.value
  rw [Json.Fits] at other
  cases negative : literal.negative with
  | true =>
    rw [negative, if_pos rfl] at value
    have size : (decide (0 < ofDigits literal.whole) &&
        decide (ofDigits literal.whole ≤ 0x8000000000000000)) = false := by
      rw [← Bool.decide_and, decide_eq_false_iff_not]
      omega
    simp only [toNumber?, integer.fraction, integer.exponent, negative, size, Bool.not_true,
      Bool.false_and, Bool.true_and, Bool.false_eq_true, if_false, Option.map_eq_map]
  | false =>
    rw [negative, if_neg Bool.false_ne_true] at value
    have size : ¬ofDigits literal.whole < 0x10000000000000000 := by
      simp only [negative, Bool.false_eq_true, false_and, or_false] at other
      omega
    simp only [toNumber?, integer.fraction, integer.exponent, negative, size, decide_false,
      Bool.and_false, Bool.false_and, Bool.false_eq_true, if_false, Option.map_eq_map]

end

end JsonNumber

end DerivedFields

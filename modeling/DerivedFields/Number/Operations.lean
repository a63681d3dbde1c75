import DerivedFields.Fault

/-!
# Arithmetic of scripts

The five operations that scripts have, as operators and as functions. A quotient is rounded to ten
fraction digits, and the modulus has the sign of the divisor.
-/

namespace DerivedFields

/-- The result of an operation, or the fault that it is too large. -/
def Operation.check (operation : Operation) : Option Decimal → Except EvalError Decimal
  | some value => .ok value
  | none => .error (.range (.overflow operation))

namespace Decimal

/-- The fraction digits of a quotient. -/
def quotientPlaces : Nat := 10

def plus (a b : Decimal) : Except EvalError Decimal := Operation.addition.check (a.add? b)
def minus (a b : Decimal) : Except EvalError Decimal := Operation.subtraction.check (a.sub? b)
def times (a b : Decimal) : Except EvalError Decimal := Operation.multiplication.check (a.mul? b)

/-- The quotient, rounded half away from zero. -/
def divide (a b : Decimal) : Except EvalError Decimal :=
  if b.isZero then .error .divideByZero
  else (Operation.division.check (a.div? b)).map fun quotient => quotient.round quotientPlaces

/-- The modulus of the division rounded toward the lower integer. -/
def modulo (a b : Decimal) : Except EvalError Decimal :=
  if b.isZero then .error .divideByZero
  else do
    let remainder ← Operation.modulus.check (a.rem? b)
    if !remainder.isZero && remainder.negative != b.negative then remainder.plus b
    else .ok remainder

end Decimal

end DerivedFields

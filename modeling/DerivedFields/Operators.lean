import DerivedFields.Number.Operations
import DerivedFields.Settings
import DerivedFields.Value

/-!
# Operators

What the operators of a script mean. Under the coercive discipline text counts as the number or
truth value that it spells; under the strict one each operand must be of the right kind already.
-/

namespace DerivedFields

open Script (BinaryOp)

namespace Discipline

/-- An operand as a number, if the discipline lets it be one. -/
def number? : Discipline → Value → Option Decimal
  | .coercive, value => value.asNumber?
  | .strict, .numeric value => some value
  | .strict, _ => none

/-- Both operands as numbers. -/
def numbers? (discipline : Discipline) (left right : Value) : Option (Decimal × Decimal) := do
  some (← discipline.number? left, ← discipline.number? right)

/-- A condition, if the discipline lets the value be one. -/
def condition? : Discipline → Value → Option Bool
  | .coercive, value => some value.isTruthy
  | .strict, .boolean value => some value
  | .strict, _ => none

end Discipline

/-- The fault that an operator does not take these operands. -/
def operandFault (op : BinaryOp) (left right : Value) : EvalError :=
  .type (.operands op left.typeName right.typeName)

/-- Changes the sign of a number. -/
def negate (discipline : Discipline) (operand : Value) : Except EvalError Value :=
  match discipline.number? operand with
  | some number => .ok (.numeric number.neg)
  | none => .error (.type (.negation operand.typeName))

/-- An operation on numbers. -/
def arithmetic (discipline : Discipline) (op : BinaryOp)
    (compute : Decimal → Decimal → Except EvalError Decimal) (left right : Value) :
    Except EvalError Value :=
  match discipline.numbers? left right with
  | some (a, b) => (compute a b).map .numeric
  | none => .error (operandFault op left right)

/-- The modulus of integers. -/
def integerModulo (a b : Decimal) : Except EvalError Decimal :=
  if a.isInteger && b.isInteger then a.modulo b
  else .error (.type (.remainderOperands a b))

/-- The sum of numbers, or texts joined. Strictly, only texts are joined; otherwise whatever is no
number is text. -/
def addOrJoin (discipline : Discipline) (left right : Value) : Except EvalError Value :=
  match discipline, left, right with
  | .strict, .string left, .string right => .ok (.string (left ++ right))
  | .strict, _, _ => arithmetic .strict .add Decimal.plus left right
  | .coercive, _, _ =>
    match Discipline.coercive.numbers? left right with
    | some (a, b) => (a.plus b).map .numeric
    | none => .ok (.string (left.toText ++ right.toText))

/-- Equality of numbers, else of truth values, else of texts. -/
def equalValues (discipline : Discipline) (op : BinaryOp) (left right : Value) :
    Except EvalError Bool :=
  match discipline.numbers? left right with
  | some (a, b) => .ok (a.equals b)
  | none =>
    match discipline, left, right with
    | .strict, .boolean left, .boolean right => .ok (left == right)
    | .strict, .string left, .string right => .ok (left == right)
    | .strict, _, _ => .error (operandFault op left right)
    | .coercive, .boolean _, _ | .coercive, _, .boolean _ =>
      .ok (left.isTruthy == right.isTruthy)
    | .coercive, _, _ => .ok (left.toText == right.toText)

/-- Order of numbers, else of texts by their characters. -/
def compareValues (discipline : Discipline) (op : BinaryOp) (left right : Value) :
    Except EvalError Ordering :=
  match discipline.numbers? left right with
  | some (a, b) => .ok (a.compare b)
  | none =>
    match discipline, left, right with
    | _, .string left, .string right => .ok (compare left right)
    | .strict, _, _ => .error (operandFault op left right)
    | .coercive, _, _ => .ok (compare left.toText right.toText)

/-- An operation on truth values. -/
def logical (discipline : Discipline) (op : BinaryOp) (compute : Bool → Bool → Bool)
    (left right : Value) : Except EvalError Value :=
  match discipline.condition? left, discipline.condition? right with
  | some left, some right => .ok (.boolean (compute left right))
  | _, _ => .error (operandFault op left right)

/-- Applies an operator to two values. -/
def applyOperator (discipline : Discipline) (op : BinaryOp) (left right : Value) :
    Except EvalError Value :=
  let comparison (holds : Ordering → Bool) : Except EvalError Value :=
    (compareValues discipline op left right).map fun order => .boolean (holds order)
  match op with
  | .add => addOrJoin discipline left right
  | .subtract => arithmetic discipline op Decimal.minus left right
  | .multiply => arithmetic discipline op Decimal.times left right
  | .divide => arithmetic discipline op Decimal.divide left right
  | .modulo => arithmetic discipline op integerModulo left right
  | .equal => (equalValues discipline op left right).map .boolean
  | .notEqual => (equalValues discipline op left right).map fun same => .boolean !same
  | .less => comparison Ordering.isLT
  | .greater => comparison Ordering.isGT
  | .lessEqual => comparison Ordering.isLE
  | .greaterEqual => comparison Ordering.isGE
  | .conjunction => logical discipline op and left right
  | .disjunction => logical discipline op or left right

end DerivedFields

import DerivedFields.Function.Basic
import DerivedFields.Number.Operations

/-!
# Numeric functions

The arithmetic functions work from left to right over all their arguments.
-/

namespace DerivedFields.Numbers

/-- Makes a function of its arguments. -/
def function (name : String) (arity : Arity) (compute : Arguments → Except EvalError Value) :
    Function :=
  ⟨name, arity, .numeric, .ofArguments compute⟩

/-- Folds an operation over all arguments, each read when its turn comes. -/
def fold (read : Arguments → Nat → Except EvalError Decimal)
    (operation : Decimal → Decimal → Except EvalError Decimal) (arguments : Arguments) :
    Except EvalError Value := do
  let first ← read arguments 0
  let result ← (List.range' 1 (arguments.count - 1)).foldlM
    (fun result index => do operation result (← read arguments index)) first
  .ok (.numeric result)

/-- An argument without a fraction. -/
def integerOperand (arguments : Arguments) (index : Nat) : Except EvalError Decimal := do
  let number ← arguments.number index
  if number.isInteger then .ok number
  else .error (.type (.integerOperand arguments.function (index + 1) number))

/-- A function of one number. -/
def map (compute : Decimal → Decimal) (arguments : Arguments) : Except EvalError Value := do
  .ok (.numeric (compute (← arguments.number 0)))

/-- Rounds half away from zero to a number of places; without that number nothing is rounded. -/
def round (arguments : Arguments) : Except EvalError Value := do
  let number ← arguments.number 0
  if arguments.count = 1 then .ok (.numeric number)
  else
    let places ← arguments.index 1
    if places < 0 then .error (.range (.negativeScale places))
    else .ok (.numeric (number.round places.toNat))

def functions : List Function := [
  function "Add" (.atLeast 2) (fold Arguments.number Decimal.plus),
  function "Subtract" (.atLeast 2) (fold Arguments.number Decimal.minus),
  function "Multiply" (.atLeast 2) (fold Arguments.number Decimal.times),
  function "Divide" (.atLeast 2) (fold Arguments.number Decimal.divide),
  function "Mod" (.atLeast 2) (fold integerOperand Decimal.modulo),
  function "Abs" (.exact 1) (map Decimal.abs),
  function "Floor" (.exact 1) (map Decimal.floor),
  function "Ceil" (.exact 1) (map Decimal.ceil),
  function "Round" (.range 1 2) round]

end DerivedFields.Numbers

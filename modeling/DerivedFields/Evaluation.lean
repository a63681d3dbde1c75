import DerivedFields.Function.Builtin
import DerivedFields.Operators
import DerivedFields.Script.Entity

/-!
# Evaluation

The value of an expression. Evaluation goes on two records besides: the lookup tables loaded so far
and the failures that were recovered. A call that fails although one of its arguments is blank may
be recovered, and then has the empty text as its value.

Both operands of an operator are always evaluated, but of the two branches of a conditional only the
one that is chosen.
-/

namespace DerivedFields

open Script (Expr)

/-- A failure that was replaced by the empty text. -/
structure RecoveredFailure where
  function : String
  error : EvalError
  deriving DecidableEq

/-- What an evaluation records on its way. -/
structure Progress where
  tables : TableCache
  recovered : List RecoveredFailure

/-- A computation that may fail and goes on recording; a failure does not undo the records. -/
abbrev Evaluation := ExceptT EvalError (StateM Progress)

/-- The functions and settings that scripts are evaluated with. -/
structure Evaluator where
  registry : Registry
  settings : Settings

/-- The built-in functions under given settings. -/
def Evaluator.standard (settings : Settings) : Evaluator := ⟨Registry.builtin, settings⟩

/-- A call to be evaluated lazily. -/
def isConditional (name : String) : Bool := Text.equalsIgnoringCase name "if"

/-- Runs a function with values. A failure is recovered if the settings allow it, a value is blank
and the failure is not that a function is unknown. -/
def callFunction (scope : Scope) (function : Function) (values : List Value) :
    Evaluation Value := do
  let progress ← get
  let (result, tables) := function.call scope values progress.tables
  set { progress with tables }
  match result with
  | .ok value => return value
  | .error error =>
    let unknown := match error with
      | .unknownFunction _ => true
      | _ => false
    if scope.settings.recoverBlankArguments && !unknown && values.any Value.isBlank then
      modify fun progress =>
        { progress with recovered := progress.recovered ++ [⟨function.name, error⟩] }
      return .string ""
    else throw error

/-- The branch that a condition takes. -/
def chooseBranch (scope : Scope) (name : String) (condition : Value) : Evaluation Bool :=
  match scope.settings.discipline.condition? condition with
  | some taken => return taken
  | none => throw (.type (.argument name 1 "boolean" condition.typeName))

mutual

/-- The value of an expression in a scope. -/
def evaluate (registry : Registry) (scope : Scope) : Expr → Evaluation Value
  | .boolean value => return .boolean value
  | .number value => return .numeric value
  | .string text => return .string text
  | .field path => return .string (scope.resolve path)
  | .negate operand => do
    let value ← evaluate registry scope operand
    liftExcept (negate scope.settings.discipline value)
  | .binary op left right => do
    let left ← evaluate registry scope left
    let right ← evaluate registry scope right
    liftExcept (applyOperator scope.settings.discipline op left right)
  | .call name arguments =>
    if isConditional name then evaluateConditional registry scope name arguments
    else do
      let some function := registry.get? name | throw (.unknownFunction name)
      let values ← evaluateAll registry scope arguments
      callFunction scope function values

/-- The values of expressions from left to right. -/
def evaluateAll (registry : Registry) (scope : Scope) : List Expr → Evaluation (List Value)
  | [] => return []
  | expr :: rest => do
    let value ← evaluate registry scope expr
    return value :: (← evaluateAll registry scope rest)

/-- A conditional: its condition, and then the branch that it chooses. -/
def evaluateConditional (registry : Registry) (scope : Scope) (name : String) :
    List Expr → Evaluation Value
  | [condition, thenBranch, elseBranch] => do
    let condition ← evaluate registry scope condition
    if ← chooseBranch scope name condition then evaluate registry scope thenBranch
    else evaluate registry scope elseBranch
  | arguments => throw (.arity name (.exact 3) arguments.length)

end

end DerivedFields

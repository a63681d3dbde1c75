import DerivedFields.Command.Error
import DerivedFields.Evaluation
import DerivedFields.Files.Tables

/-!
# Checking and evaluating one script

A single script reports every failure, so none is recovered here.
-/

namespace DerivedFields

/-- A script and what to do with it: only parse it, or evaluate it on a document. -/
structure CheckRequest where
  script : String
  input : Option String
  format : Option Format
  settings : Settings
  tables : TableSource
  syntaxOnly : Bool

inductive CheckResult
  | valid
  | value (value : Value)
  deriving DecidableEq

/-- Evaluates an expression on a single document. -/
def Evaluator.evaluateOn (evaluator : Evaluator) (tables : TableCache) (document : Document)
    (expr : Script.Expr) : Except EvalError Value × Progress :=
  (evaluate evaluator.registry (.ofDocument evaluator.settings document) expr).run ⟨tables, []⟩

/-- The expression of a script. -/
def parseScript (script : String) : Except Failure Script.Expr :=
  (Script.parse (Script.decodeEntities script)).mapError .parse

/-- Parses a script and, unless that is all, evaluates it. -/
def CheckRequest.execute (request : CheckRequest) : Except CommandError CheckResult := do
  let expr ← (parseScript request.script).mapError .failure
  if request.syntaxOnly then .ok .valid
  else
    let some text := request.input | .error .noInput
    let document ←
      (Document.parse text (request.format.getD .json)).mapError fun error =>
        .failure (.document error)
    let evaluator := Evaluator.standard { request.settings with recoverBlankArguments := false }
    let (result, _) := evaluator.evaluateOn (.ofSource request.tables) document expr
    (result.map .value).mapError fun error => .failure (.eval error)

end DerivedFields

import DerivedFields.Proofs.Evaluation.Parametricity
import DerivedFields.Proofs.Stateful

/-!
# Evaluation does not depend on what was loaded before

The tables that are kept from earlier evaluations only save the work of loading them again. With
regular functions, evaluations that begin with the same table source and with the same records end
with the same value or error and with the same records, whatever either cache holds.
-/

namespace DerivedFields

open Script (Expr)
open Stateful

/-- Whether a failure of a call with these values is replaced by the empty text. -/
def Settings.recovers (settings : Settings) (values : List Value) (error : EvalError) : Bool :=
  let unknown := match error with
    | .unknownFunction _ => true
    | _ => false
  settings.recoverBlankArguments && !unknown && values.any Value.isBlank

/-- A call keeps the tables that it loaded, and records its failure if that is recovered. -/
theorem callFunction_run (scope : Scope) (function : Function) (values : List Value)
    (progress : Progress) :
    (callFunction scope function values).run progress =
      match function.call scope values progress.tables with
      | (.ok value, tables) => (.ok value, ⟨tables, progress.recovered⟩)
      | (.error error, tables) =>
        if scope.settings.recovers values error then
          (.ok (.string ""), ⟨tables, progress.recovered ++ [⟨function.name, error⟩]⟩)
        else (.error error, ⟨tables, progress.recovered⟩) := by
  unfold callFunction
  simp only [run_bind, run_get, run_set]
  rcases function.call scope values progress.tables with ⟨error | value, tables⟩
  · simp only [run_ite, run_bind, run_modify, run_pure, run_throw]
    cases error <;> rfl
  · rfl

/-- Records that differ at most in which tables of a source are kept. -/
structure Progress.Alike (source : TableSource) (first second : Progress) : Prop where
  tables : TableCache.Alike source first.tables second.tables
  recovered : first.recovered = second.recovered

namespace Evaluation

variable {α β : Type}

/-- A computation that cannot tell which tables are kept. -/
def Steady (computation : Evaluation α) : Prop :=
  ∀ ⦃source : TableSource⦄ ⦃first second : Progress⦄, Progress.Alike source first second →
    (computation.run first).1 = (computation.run second).1 ∧
      Progress.Alike source (computation.run first).2 (computation.run second).2

private theorem Steady.bind {computation : Evaluation α} {next : α → Evaluation β}
    (steady : Steady computation) (steadyNext : ∀ value, Steady (next value)) :
    Steady (computation >>= next) := by
  intro source first second alike
  have ran := steady alike
  rw [run_bind, run_bind]
  generalize computation.run first = ranFirst at ran ⊢
  generalize computation.run second = ranSecond at ran ⊢
  rcases ranFirst with ⟨result, afterFirst⟩
  rcases ranSecond with ⟨result', afterSecond⟩
  obtain ⟨rfl, after⟩ : result = result' ∧ Progress.Alike source afterFirst afterSecond := ran
  cases result with
  | ok value => exact steadyNext value after
  | error error => exact ⟨rfl, after⟩

private theorem steady_callFunction {function : Function} (regular : function.body.Regular)
    (scope : Scope)
    (values : List Value) : Steady (callFunction scope function values) := by
  intro source first second alike
  have called := Function.call_tables regular scope values alike.tables
  rw [callFunction_run, callFunction_run]
  generalize function.call scope values first.tables = calledFirst at called ⊢
  generalize function.call scope values second.tables = calledSecond at called ⊢
  rcases calledFirst with ⟨result, tablesFirst⟩
  rcases calledSecond with ⟨result', tablesSecond⟩
  obtain ⟨rfl, tables⟩ : result = result' ∧ TableCache.Alike source tablesFirst tablesSecond :=
    called
  cases result with
  | ok value => exact ⟨rfl, tables, alike.recovered⟩
  | error error =>
    simp only [alike.recovered]
    split
    · exact ⟨rfl, tables, rfl⟩
    · exact ⟨rfl, tables, rfl⟩

private theorem parametric_steady : Parametric fun _ computation _ => Steady computation where
  pure _ _ _ _ alike := ⟨rfl, alike⟩
  throw _ _ _ _ alike := ⟨rfl, alike⟩
  bind := Steady.bind

end Evaluation

open Evaluation

variable {registry : Registry} {source : TableSource}

private theorem steady_evaluate (regular : registry.Regular) (scope : Scope) (expr : Expr) :
    Steady (evaluate registry scope expr) := by
  have scopes : ScopesRelated (fun _ computation _ => Steady computation) registry scope scope :=
    { parametric_steady with
      discipline := rfl
      calls := fun function member => steady_callFunction (regular function member) scope }
  exact related_evaluate scopes expr fun _ _ => rfl

/-- From a cache that serves its source, an evaluation ends as if nothing had been loaded. -/
theorem evaluate_ofSource (regular : registry.Regular) (scope : Scope) (expr : Expr)
    {tables : TableCache} (serves : tables.Serves source) (recovered : List RecoveredFailure) :
    ((evaluate registry scope expr).run ⟨tables, recovered⟩).1 =
        ((evaluate registry scope expr).run ⟨.ofSource source, recovered⟩).1 ∧
      Progress.Alike source ((evaluate registry scope expr).run ⟨tables, recovered⟩).2
        ((evaluate registry scope expr).run ⟨.ofSource source, recovered⟩).2 :=
  steady_evaluate regular scope expr ⟨⟨serves, TableCache.serves_ofSource source⟩, rfl⟩

end DerivedFields

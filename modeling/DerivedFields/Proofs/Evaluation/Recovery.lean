import Mathlib
import DerivedFields.Proofs.Evaluation.History

/-!
# Recovery extends evaluation

Whether calls that fail on a blank argument are recovered shows only where a call is recovered. Up
to there an evaluation is the same with and without recovery. At the first such call the evaluation
without recovery fails, and the other goes on with a record of the failure. So an evaluation that
succeeds without recovery is not changed by it, and one that fails with recovery fails without it
as well.
-/

namespace DerivedFields

open Script (Expr)
open Stateful

/-- A scope in which failures are recovered or not. -/
def Scope.withRecovery (scope : Scope) (recover : Bool) : Scope :=
  { scope with settings := { scope.settings with recoverBlankArguments := recover } }

namespace Evaluation

variable {α β : Type}

/-- How a run without recovery compares with one that recovers failures, both from the same records
on. -/
inductive ExtendedAt (before : Progress) :
    Except EvalError α × Progress → Except EvalError α × Progress → Prop
  | same {result : Except EvalError α} {after : Progress}
    (silent : after.recovered = before.recovered) :
    ExtendedAt before (result, after) (result, after)
  | further {error : EvalError} {stopped after : Progress} {result : Except EvalError α}
    {more : List RecoveredFailure} (nonempty : more ≠ [])
    (recorded : after.recovered = before.recovered ++ more) :
    ExtendedAt before (.error error, stopped) (result, after)

namespace ExtendedAt

variable {before other : Progress} {plain recovering : Except EvalError α × Progress}

/-- Only the records count that a run begins with. -/
theorem of_recovered (extended : ExtendedAt other plain recovering)
    (same : other.recovered = before.recovered) : ExtendedAt before plain recovering := by
  cases extended with
  | same silent => exact .same (silent.trans same)
  | further nonempty recorded => exact .further nonempty (same ▸ recorded)

/-- Recovery only adds records. -/
theorem grows (extended : ExtendedAt before plain recovering) :
    ∃ more, recovering.2.recovered = before.recovered ++ more := by
  cases extended with
  | same silent => exact ⟨[], by rw [silent, List.append_nil]⟩
  | further _ recorded => exact ⟨_, recorded⟩

end ExtendedAt

/-- A computation that recovers failures extends one that does not. -/
def Extended (plain recovering : Evaluation α) : Prop :=
  ∀ progress, ExtendedAt progress (plain.run progress) (recovering.run progress)

private theorem Extended.bind {plain recovering : Evaluation α} {next nextRecovering : α → Evaluation β}
    (first : Extended plain recovering)
    (second : ∀ value, Extended (next value) (nextRecovering value)) :
    Extended (plain >>= next) (recovering >>= nextRecovering) := by
  intro progress
  have compared := first progress
  rw [run_bind, run_bind]
  generalize plain.run progress = ran at compared ⊢
  generalize recovering.run progress = ranRecovering at compared ⊢
  cases compared with
  | @same result after silent =>
    cases result with
    | error error => exact .same silent
    | ok value => exact (second value after).of_recovered silent
  | @further error stopped after result more nonempty recorded =>
    cases result with
    | error _ => exact .further nonempty recorded
    | ok value =>
      -- one run has failed already, and whatever the other does next keeps its records
      obtain ⟨rest, grown⟩ := (second value after).grows
      refine .further (List.append_ne_nil_of_left_ne_nil nonempty rest) ?_
      rw [← List.append_assoc, ← recorded]
      exact grown

private theorem parametric_extended :
    Parametric fun _ plain recovering => Extended plain recovering where
  pure _ _ := .same rfl
  throw _ _ := .same rfl
  bind := Extended.bind

/-- A failure that is recovered is the first difference that recovery makes. -/
theorem extended_callFunction {function : Function} (timed : function.body.Timed) (scope : Scope)
    (values : List Value) :
    Extended (callFunction (scope.withRecovery false) function values)
      (callFunction (scope.withRecovery true) function values) := by
  intro progress
  have now : (scope.withRecovery false).settings.now = (scope.withRecovery true).settings.now := rfl
  have same := Function.call_timed timed now values progress.tables
  rw [callFunction_run, callFunction_run, same]
  rcases function.call (scope.withRecovery true) values progress.tables with ⟨error | value, tables⟩
  · have never : (scope.withRecovery false).settings.recovers values error = false := rfl
    simp only [never, Bool.false_eq_true, if_false]
    split
    · exact .further (List.cons_ne_nil _ _) rfl
    · exact .same rfl
  · exact .same rfl

end Evaluation

open Evaluation

variable {registry : Registry}

private theorem extended_evaluate (timed : registry.Timed) (scope : Scope) (expr : Expr) :
    Extended (evaluate registry (scope.withRecovery false) expr)
      (evaluate registry (scope.withRecovery true) expr) := by
  have scopes : ScopesRelated (fun _ plain recovering => Extended plain recovering) registry
      (scope.withRecovery false) (scope.withRecovery true) :=
    { parametric_extended with
      discipline := rfl
      calls := fun function member => extended_callFunction (timed function member) scope }
  exact related_evaluate scopes expr fun _ _ => rfl

/-- With the built-in functions recovery extends evaluation conservatively: what succeeds without
recovery has the same value with it, and nothing is recorded; what succeeds with recovery and
without a record has the same value without it; and what fails with recovery fails without it. -/
theorem evaluate_standard_recovery (scope : Scope) (expr : Expr) (tables : TableCache) :
    let ran (recover : Bool) :=
      (evaluate Registry.builtin (scope.withRecovery recover) expr).run ⟨tables, []⟩
    (∀ value, (ran false).1 = .ok value →
      (ran true).1 = .ok value ∧ (ran true).2.recovered = []) ∧
    (∀ value, (ran true).1 = .ok value → (ran true).2.recovered = [] →
      (ran false).1 = .ok value) ∧
    ∀ error, (ran true).1 = .error error → ∃ first, (ran false).1 = .error first := by
  intro ran
  have extended : ExtendedAt ⟨tables, []⟩ (ran false) (ran true) :=
    extended_evaluate Registry.timed_builtin scope expr ⟨tables, []⟩
  generalize ran false = plain at extended ⊢
  generalize ran true = recovering at extended ⊢
  cases extended with
  | same silent =>
    exact ⟨fun _ success => ⟨success, silent⟩, fun _ success _ => success,
      fun error failed => ⟨error, failed⟩⟩
  | @further error _ _ _ more nonempty recorded =>
    refine ⟨nofun, ?_, fun _ _ => ⟨error, rfl⟩⟩
    intro _ _ nothing
    exact absurd (recorded.symm.trans nothing) nonempty

/-- The quotient would be recovered, but the conditional does not come to it. Under the strict
discipline its recovered value cannot be negated. -/
theorem evaluate_standard_recovery_blank :
    let scope : Scope :=
      ⟨{ Settings.standard with discipline := .strict }, .json [("count", .string "")], .empty,
        none⟩
    let ran (expr : Expr) (recover : Bool) :=
      (evaluate Registry.builtin (scope.withRecovery recover) expr).run ⟨.ofSource .empty, []⟩
    let quotient : Expr := .call "Divide" [.string "1", .field "count"]
    let avoided : Expr := .call "If" [.boolean true, .string "none", quotient]
    ((ran avoided false).1 = .ok (.string "none") ∧ (ran avoided true).1 = .ok (.string "none") ∧
        (ran avoided true).2.recovered = []) ∧
      ((ran (.negate quotient) true).1 = .error (.type (.negation "string")) ∧
        ∃ first, (ran (.negate quotient) false).1 = .error first) := by
  intro scope ran quotient avoided
  have lazily : isConditional "If" = true := by cbv
  have eagerly : isConditional "Divide" = false := by cbv
  have found : Registry.builtin.get? "Divide" =
      some (Numbers.function "Divide" (.atLeast 2)
        (Numbers.fold Arguments.number Decimal.divide)) := by rfl
  have called : (callFunction (scope.withRecovery true)
        (Numbers.function "Divide" (.atLeast 2) (Numbers.fold Arguments.number Decimal.divide))
        [.string "1", .string ""]).run ⟨.ofSource .empty, []⟩ =
      (.ok (.string ""), ⟨.ofSource .empty, [⟨"Divide", .divideByZero⟩]⟩) := by
    cbv
  have onAvoided := evaluate_standard_recovery scope avoided (.ofSource .empty)
  have onNegated := evaluate_standard_recovery scope (.negate quotient) (.ofSource .empty)
  have chosen (recover : Bool) :
      ran avoided recover = (.ok (.string "none"), ⟨.ofSource .empty, []⟩) := by
    simp only [ran, avoided, evaluate, lazily, if_true, evaluateConditional, run_bind, run_pure]
    rfl
  have refused : (ran (.negate quotient) true).1 = .error (.type (.negation "string")) := by
    have blank : (scope.withRecovery true).resolve "count" = "" := by cbv
    simp only [ran, quotient, evaluate, eagerly, found, evaluateAll, blank, run_bind, run_pure,
      Bool.false_eq_true, if_false, called]
    rfl
  have succeeded : (ran avoided false).1 = .ok (.string "none") := by rw [chosen]
  obtain ⟨recovering, silent⟩ := onAvoided.1 _ succeeded
  exact ⟨⟨onAvoided.2.1 _ recovering silent, recovering, silent⟩, refused,
    onNegated.2.2 _ refused⟩

end DerivedFields

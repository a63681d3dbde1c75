import Mathlib
import DerivedFields.Proofs.Evaluation.History

/-!
# Strict success is coercive success

Under the strict discipline an operator takes two operands of one kind only. Numbers and truth
values mean the same under the coercive discipline, but two texts may not: there they count as
numbers if they spell them. So an evaluation that succeeds strictly and in which no operator
receives two texts is the same coercively.

Which operands an operator receives depends on the run and not on the expression alone. They are
collected along the run, from the values and the records that its parts have.
-/

namespace DerivedFields

open Script (BinaryOp Expr)
open Stateful

/-! ## Operators -/

/-- An operator with the two values that it receives. -/
structure Application where
  op : BinaryOp
  left : Value
  right : Value
  deriving DecidableEq

/-- Both operands are texts. -/
def Application.onTexts (application : Application) : Bool :=
  match application.left, application.right with
  | .string _, .string _ => true
  | _, _ => false

private theorem number?_of_strict {value : Value} {number : Decimal}
    (strictly : Discipline.strict.number? value = some number) :
    Discipline.coercive.number? value = some number := by
  cases value with
  | numeric _ => exact strictly
  | boolean _ | string _ => cases strictly

private theorem condition?_of_strict {value : Value} {taken : Bool}
    (strictly : Discipline.strict.condition? value = some taken) :
    Discipline.coercive.condition? value = some taken := by
  cases value with
  | boolean _ => exact strictly
  | numeric _ | string _ => cases strictly

private theorem negate_of_strict {operand value : Value}
    (success : negate .strict operand = .ok value) :
    negate .coercive operand = .ok value := by
  unfold negate at success ⊢
  cases strictly : Discipline.strict.number? operand with
  | none =>
    rw [strictly] at success
    cases success
  | some number =>
    rw [strictly] at success
    rw [number?_of_strict strictly]
    exact success

/-- Operands of two kinds are refused strictly. Of two truth values and of two numbers, an operator
that takes them makes the same under either discipline. -/
theorem applyOperator_of_strict {op : BinaryOp} {left right value : Value}
    (success : applyOperator .strict op left right = .ok value)
    (apart : (Application.mk op left right).onTexts = false) :
    applyOperator .coercive op left right = .ok value := by
  cases left with
  | boolean a =>
    cases right with
    | boolean b =>
      cases op
      all_goals first
        | exact success
        | cases success
    | numeric _ | string _ => cases op <;> cases success
  | numeric a =>
    cases right with
    | numeric b =>
      cases op
      all_goals first
        | exact success
        | cases success
    | boolean _ | string _ => cases op <;> cases success
  | string a =>
    cases right with
    | string b => cases apart
    | boolean _ | numeric _ => cases op <;> cases success

/-- Two texts that spell numbers are joined strictly and added coercively. -/
example : applyOperator .strict .add (.string "1") (.string "2") = .ok (.string "12") ∧
    applyOperator .coercive .add (.string "1") (.string "2") =
      .ok (.numeric ⟨false, 3, 0, by decide, by decide⟩) := by
  cbv

/-! ## Operands of a run -/

/-- What follows on a run that succeeds. -/
def appliedAfter {α : Type} (ran : Except EvalError α × Progress)
    (more : α → Progress → List Application) : List Application :=
  match ran with
  | (.ok value, after) => more value after
  | (.error _, _) => []

section

variable (registry : Registry) (scope : Scope)

mutual

/-- The operators of an expression with their operands, in the order in which its evaluation from
some records on applies them. -/
def applied : Expr → Progress → List Application
  | .boolean _, _ | .number _, _ | .string _, _ | .field _, _ => []
  | .negate operand, progress => applied operand progress
  | .binary op left right, progress =>
    applied left progress ++
      appliedAfter ((evaluate registry scope left).run progress) fun first after =>
        applied right after ++
          appliedAfter ((evaluate registry scope right).run after) fun second _ =>
            [⟨op, first, second⟩]
  | .call name arguments, progress =>
    if isConditional name then appliedConditional name arguments progress
    else match registry.get? name with
      | none => []
      | some _ => appliedAll arguments progress

/-- The operators of a list of expressions. -/
def appliedAll : List Expr → Progress → List Application
  | [], _ => []
  | expr :: rest, progress =>
    applied expr progress ++
      appliedAfter ((evaluate registry scope expr).run progress) fun _ after =>
        appliedAll rest after

/-- The operators of a conditional: those of its condition and of the branch that is chosen. -/
def appliedConditional (name : String) : List Expr → Progress → List Application
  | [condition, thenBranch, elseBranch], progress =>
    applied condition progress ++
      appliedAfter ((evaluate registry scope condition).run progress) fun value after =>
        appliedAfter ((chooseBranch scope name value).run after) fun taken after =>
          if taken then applied thenBranch after else applied elseBranch after
  | _, _ => []

end

end

/-! ## Evaluation -/

namespace Evaluation

variable {α β : Type} {progress : Progress}

/-- From some records on, a computation does what another one does if that succeeds. -/
def FollowsAt (progress : Progress) (strict coercive : Evaluation α) : Prop :=
  ∀ value, (strict.run progress).1 = .ok value → coercive.run progress = strict.run progress

private theorem followsAt_self (computation : Evaluation α) :
    FollowsAt progress computation computation :=
  fun _ _ => rfl

private theorem FollowsAt.bind {strict coercive : Evaluation α} {next nextCoercive : α → Evaluation β}
    (first : FollowsAt progress strict coercive)
    (second : ∀ value after, strict.run progress = (.ok value, after) →
      FollowsAt after (next value) (nextCoercive value)) :
    FollowsAt progress (strict >>= next) (coercive >>= nextCoercive) := by
  intro result success
  rw [run_bind] at success ⊢
  rw [run_bind]
  rcases ran : strict.run progress with ⟨error | value, after⟩
  · rw [ran] at success
    cases success
  · have same : coercive.run progress = strict.run progress := first value (by rw [ran])
    rw [ran] at success
    rw [same, ran]
    exact second value after ran result success

/-- A result that is kept if it is a success. -/
theorem followsAt_liftExcept {strict coercive : Except EvalError α}
    (kept : ∀ value, strict = .ok value → coercive = .ok value) :
    FollowsAt progress (liftExcept strict) (liftExcept coercive) := by
  intro value success
  rw [run_liftExcept] at success ⊢
  obtain rfl : strict = .ok value := success
  rw [run_liftExcept, kept value rfl]

end Evaluation

open Evaluation

/-- A scope under one of the disciplines. -/
def Scope.withDiscipline (scope : Scope) (discipline : Discipline) : Scope :=
  { scope with settings := { scope.settings with discipline } }

/-- No operator has received two texts. -/
def Textless (applied : List Application) : Prop :=
  ∀ application ∈ applied, application.onTexts = false

private theorem textless_append {first second : List Application} :
    Textless (first ++ second) ↔ Textless first ∧ Textless second := List.forall_mem_append

private theorem Textless.after {α : Type} {ran : Except EvalError α × Progress}
    {more : α → Progress → List Application} (textless : Textless (appliedAfter ran more))
    {value : α} {after : Progress} (success : ran = (.ok value, after)) :
    Textless (more value after) := by
  rw [success] at textless
  exact textless

private theorem followsAt_chooseBranch (scope : Scope) (name : String) (condition : Value)
    (progress : Progress) :
    FollowsAt progress (chooseBranch (scope.withDiscipline .strict) name condition)
      (chooseBranch (scope.withDiscipline .coercive) name condition) := by
  intro taken success
  simp only [chooseBranch, Scope.withDiscipline] at success ⊢
  cases strictly : Discipline.strict.condition? condition with
  | none =>
    rw [strictly] at success
    cases success
  | some other => rw [condition?_of_strict strictly]

private theorem followsAt_callFunction {function : Function} (timed : function.body.Timed)
    (scope : Scope)
    (values : List Value) (progress : Progress) :
    FollowsAt progress (callFunction (scope.withDiscipline .strict) function values)
      (callFunction (scope.withDiscipline .coercive) function values) := by
  intro value success
  have now : (scope.withDiscipline .strict).settings.now =
      (scope.withDiscipline .coercive).settings.now := rfl
  rw [callFunction_run, callFunction_run, Function.call_timed timed now values progress.tables]
  rfl

section

variable {registry : Registry}

mutual

private theorem followsAt_evaluate (timed : registry.Timed) (scope : Scope) (expr : Expr)
    {progress : Progress}
    (textless : Textless (applied registry (scope.withDiscipline .strict) expr progress)) :
    FollowsAt progress (evaluate registry (scope.withDiscipline .strict) expr)
      (evaluate registry (scope.withDiscipline .coercive) expr) := by
  match expr with
  | .boolean _ | .number _ | .string _ | .field _ =>
    simp only [evaluate]
    exact followsAt_self _
  | .negate operand =>
    simp only [applied] at textless
    simp only [evaluate]
    exact (followsAt_evaluate timed scope operand textless).bind fun _ _ _ =>
      followsAt_liftExcept fun _ => negate_of_strict
  | .binary op left right =>
    simp only [applied, textless_append] at textless
    obtain ⟨onLeft, behindLeft⟩ := textless
    simp only [evaluate]
    refine (followsAt_evaluate timed scope left onLeft).bind fun first afterFirst ranFirst => ?_
    obtain ⟨onRight, behindRight⟩ := textless_append.mp (behindLeft.after ranFirst)
    refine (followsAt_evaluate timed scope right onRight).bind fun second _ ranSecond => ?_
    have apart : (Application.mk op first second).onTexts = false :=
      behindRight.after ranSecond _ (List.mem_singleton_self _)
    exact followsAt_liftExcept fun _ success => applyOperator_of_strict success apart
  | .call name arguments =>
    simp only [applied] at textless
    simp only [evaluate]
    split
    · next lazily =>
      rw [if_pos lazily] at textless
      exact followsAt_evaluateConditional timed scope name arguments textless
    · next eagerly =>
      rw [if_neg eagerly] at textless
      cases found : registry.get? name with
      | none => exact followsAt_self _
      | some function =>
        rw [found] at textless
        exact (followsAt_evaluateAll timed scope arguments textless).bind fun values after _ =>
          followsAt_callFunction (timed function (Registry.mem_of_get? found)) scope values after

private theorem followsAt_evaluateAll (timed : registry.Timed) (scope : Scope) (arguments : List Expr)
    {progress : Progress}
    (textless : Textless (appliedAll registry (scope.withDiscipline .strict) arguments progress)) :
    FollowsAt progress (evaluateAll registry (scope.withDiscipline .strict) arguments)
      (evaluateAll registry (scope.withDiscipline .coercive) arguments) := by
  match arguments with
  | [] =>
    simp only [evaluateAll]
    exact followsAt_self _
  | expr :: rest =>
    simp only [appliedAll, textless_append] at textless
    obtain ⟨onFirst, behind⟩ := textless
    simp only [evaluateAll]
    exact (followsAt_evaluate timed scope expr onFirst).bind fun _ _ ran =>
      (followsAt_evaluateAll timed scope rest (behind.after ran)).bind fun _ _ _ => followsAt_self _

private theorem followsAt_evaluateConditional (timed : registry.Timed) (scope : Scope) (name : String)
    (arguments : List Expr) {progress : Progress}
    (textless : Textless
      (appliedConditional registry (scope.withDiscipline .strict) name arguments progress)) :
    FollowsAt progress (evaluateConditional registry (scope.withDiscipline .strict) name arguments)
      (evaluateConditional registry (scope.withDiscipline .coercive) name arguments) := by
  match arguments with
  | [condition, thenBranch, elseBranch] =>
    simp only [appliedConditional, textless_append] at textless
    obtain ⟨onCondition, behind⟩ := textless
    simp only [evaluateConditional]
    refine (followsAt_evaluate timed scope condition onCondition).bind fun value after ran => ?_
    refine (followsAt_chooseBranch scope name value after).bind fun taken _ chosen => ?_
    have onBranch := (behind.after ran).after chosen
    cases taken with
    | true => exact followsAt_evaluate timed scope thenBranch onBranch
    | false => exact followsAt_evaluate timed scope elseBranch onBranch
  | [] | [_] | [_, _] | _ :: _ :: _ :: _ :: _ =>
    simp only [evaluateConditional]
    exact followsAt_self _

end

end

/-- With the built-in functions, an evaluation that succeeds strictly and in which no operator
received two texts has the same value coercively, with the same failures recovered and the same
tables read. -/
theorem evaluate_standard_coercive (scope : Scope) (expr : Expr) (tables : TableCache) :
    let ran (discipline : Discipline) :=
      (evaluate Registry.builtin (scope.withDiscipline discipline) expr).run ⟨tables, []⟩
    ∀ value, (ran .strict).1 = .ok value →
      Textless (applied Registry.builtin (scope.withDiscipline .strict) expr ⟨tables, []⟩) →
      (ran .coercive).1 = .ok value ∧ (ran .coercive).2.recovered = (ran .strict).2.recovered ∧
        (ran .coercive).2.tables = (ran .strict).2.tables := by
  intro ran value success textless
  have same : ran .coercive = ran .strict :=
    followsAt_evaluate Registry.timed_builtin scope expr textless value success
  rw [same]
  exact ⟨success, rfl, rfl⟩

/-- The comparison receives two numbers, and the failure that is recovered behind it is the same
under either discipline. -/
theorem evaluate_standard_coercive_recovered :
    let scope : Scope :=
      ⟨{ Settings.standard with recoverBlankArguments := true }, .json [("count", .string "")],
        .empty, none⟩
    let comparison : Expr := .binary .less (.number .one) (.number .ten)
    let quotient : Expr := .call "Divide" [.string "1", .field "count"]
    let expr : Expr := .call "If" [comparison, quotient, .string "none"]
    let ran (discipline : Discipline) :=
      (evaluate Registry.builtin (scope.withDiscipline discipline) expr).run
        ⟨.ofSource .empty, []⟩
    ((ran .strict).1 = .ok (.string "") ∧
        Textless (applied Registry.builtin (scope.withDiscipline .strict) expr
          ⟨.ofSource .empty, []⟩)) ∧
      (ran .coercive).1 = .ok (.string "") ∧
        (ran .coercive).2.recovered = [⟨"Divide", .divideByZero⟩] := by
  intro scope comparison quotient expr ran
  have lazily : isConditional "If" = true := by cbv
  have eagerly : isConditional "Divide" = false := by cbv
  have found : Registry.builtin.get? "Divide" =
      some (Numbers.function "Divide" (.atLeast 2)
        (Numbers.fold Arguments.number Decimal.divide)) := by rfl
  have blank : (scope.withDiscipline .strict).resolve "count" = "" := by cbv
  have called : (callFunction (scope.withDiscipline .strict)
        (Numbers.function "Divide" (.atLeast 2) (Numbers.fold Arguments.number Decimal.divide))
        [.string "1", .string ""]).run ⟨.ofSource .empty, []⟩ =
      (.ok (.string ""), ⟨.ofSource .empty, [⟨"Divide", .divideByZero⟩]⟩) := by
    cbv
  have compares : (evaluate Registry.builtin (scope.withDiscipline .strict) comparison).run
      ⟨.ofSource .empty, []⟩ = (.ok (.boolean true), ⟨.ofSource .empty, []⟩) := by
    simp only [comparison, evaluate]
    rfl
  have divides : (evaluate Registry.builtin (scope.withDiscipline .strict) quotient).run
      ⟨.ofSource .empty, []⟩ =
      (.ok (.string ""), ⟨.ofSource .empty, [⟨"Divide", .divideByZero⟩]⟩) := by
    simp only [quotient, evaluate, eagerly, found, evaluateAll, blank, run_bind, run_pure,
      Bool.false_eq_true, if_false, called]
  have chooses : (chooseBranch (scope.withDiscipline .strict) "If" (.boolean true)).run
      ⟨.ofSource .empty, []⟩ = (.ok true, ⟨.ofSource .empty, []⟩) := by rfl
  have strictly : ran .strict =
      (.ok (.string ""), ⟨.ofSource .empty, [⟨"Divide", .divideByZero⟩]⟩) := by
    simp only [ran, expr, evaluate, lazily, if_true, evaluateConditional, run_bind, compares,
      chooses, divides]
  have received : applied Registry.builtin (scope.withDiscipline .strict) expr
      ⟨.ofSource .empty, []⟩ = [⟨.less, .numeric .one, .numeric .ten⟩] := by
    simp only [expr, applied, lazily, if_true, appliedConditional, compares]
    simp only [comparison, quotient, applied, eagerly, found, appliedAll, evaluate, run_pure]
    rfl
  have succeeded : (ran .strict).1 = .ok (.string "") := by rw [strictly]
  have textless : Textless (applied Registry.builtin (scope.withDiscipline .strict) expr
      ⟨.ofSource .empty, []⟩) := by
    rw [received]
    intro application member
    obtain rfl := List.mem_singleton.mp member
    rfl
  obtain ⟨same, recovered, -⟩ :=
    evaluate_standard_coercive scope expr (.ofSource .empty) _ succeeded textless
  refine ⟨⟨succeeded, textless⟩, same, recovered.trans ?_⟩
  exact congrArg (fun result => result.2.recovered) strictly

end DerivedFields

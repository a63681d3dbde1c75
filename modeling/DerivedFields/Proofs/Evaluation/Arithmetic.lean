import Mathlib
import DerivedFields.Proofs.Evaluation.History
import DerivedFields.Proofs.Function.Denotation

/-!
# Operators as functions

Five operators of scripts have a function of their own. An operator takes both operands as numbers
at once, a function asks for one argument after the other, and each has its own words for what is no
number or no integer. Under the coercive discipline and without recovery the two come to the same
number all the same, or fail with errors of one kind. Only a sum needs numbers: the operator joins
what is none.
-/

namespace DerivedFields

open Script (BinaryOp Expr)
open Stateful

/-- The name of the function that computes what an operator computes. -/
def Script.BinaryOp.functionName? : BinaryOp → Option String
  | .add => some "Add"
  | .subtract => some "Subtract"
  | .multiply => some "Multiply"
  | .divide => some "Divide"
  | .modulo => some "Mod"
  | .equal | .notEqual | .less | .greater | .lessEqual | .greaterEqual | .conjunction
  | .disjunction => none

/-- The same number, or two errors of one kind. -/
inductive SameNumber : Except EvalError Value → Except EvalError Value → Prop
  | computed (number : Decimal) : SameNumber (.ok (.numeric number)) (.ok (.numeric number))
  | failed {first second : EvalError} (alike : first.kind = second.kind) :
    SameNumber (.error first) (.error second)

/-- The number that an operation computes, or its error, is the same however it is asked for. -/
theorem SameNumber.of_result (result : Except EvalError Decimal) :
    SameNumber (result.map .numeric) (result.map .numeric) := by
  cases result with
  | ok number => exact .computed number
  | error error => exact .failed rfl

section

variable {op : BinaryOp} {compute : Decimal → Decimal → Except EvalError Decimal}
  {left right : Value}

/-- An operation is applied to the numbers that the operands are. -/
theorem arithmetic_numbers {first second : Decimal} (readLeft : left.asNumber? = some first)
    (readRight : right.asNumber? = some second) :
    arithmetic .coercive op compute left right = (compute first second).map .numeric := by
  simp only [arithmetic, Discipline.numbers?, Discipline.number?, readLeft, readRight]
  rfl

/-- An operand that is no number is refused. -/
theorem arithmetic_refused (refused : left.asNumber? = none ∨ right.asNumber? = none) :
    arithmetic .coercive op compute left right = .error (operandFault op left right) := by
  simp only [arithmetic, Discipline.numbers?, Discipline.number?]
  rcases refused with unread | unread
  · rw [unread]
    rfl
  · rw [unread]
    cases left.asNumber? <;> rfl

/-- A sum of two numbers is computed like the other operations. -/
theorem addOrJoin_numbers (readsLeft : left.asNumber?.isSome)
    (readsRight : right.asNumber?.isSome) :
    addOrJoin .coercive left right = arithmetic .coercive .add Decimal.plus left right := by
  obtain ⟨first, readLeft⟩ := Option.isSome_iff_exists.mp readsLeft
  obtain ⟨second, readRight⟩ := Option.isSome_iff_exists.mp readsRight
  rw [arithmetic_numbers readLeft readRight]
  simp only [addOrJoin, Discipline.numbers?, Discipline.number?, readLeft, readRight]
  rfl

end

namespace Numbers

/-- An integer is read like a number, and then it must have no fraction. -/
theorem integerOperand_of_value {arguments : Arguments} {index : Nat} {value : Value}
    (given : arguments.values[index]? = some value) :
    integerOperand arguments index =
      match value.asNumber? with
      | some number =>
        if number.isInteger then .ok number
        else .error (.type (.integerOperand arguments.function (index + 1) number))
      | none => .error (arguments.typeFault index "numeric" value.describe) := by
  rw [integerOperand, Arguments.number_of_value given]
  cases value.asNumber? <;> rfl

variable {op : BinaryOp} {compute : Decimal → Decimal → Except EvalError Decimal}

/-- Of two arguments the first is read first. -/
theorem fold_pair (read : Arguments → Nat → Except EvalError Decimal) (arguments : Arguments)
    (two : arguments.count = 2) :
    fold read compute arguments =
      match read arguments 0, read arguments 1 with
      | .ok first, .ok second => (compute first second).map .numeric
      | .ok _, .error error => .error error
      | .error error, _ => .error error := by
  have once : List.range' 1 (arguments.count - 1) = [1] := by rw [two]; rfl
  simp only [fold, once, List.foldlM_cons, List.foldlM_nil, bind_pure]
  cases read arguments 0 with
  | error error => rfl
  | ok first =>
    cases read arguments 1 with
    | error error => rfl
    | ok second =>
      change (do .ok (.numeric (← compute first second))) = (compute first second).map Value.numeric
      cases compute first second <;> rfl

section

variable (name : String) (left right : Value)

/-- An operator does what the function does that folds its operation. -/
theorem sameNumber_fold :
    SameNumber (arithmetic .coercive op compute left right)
      (fold Arguments.number compute ⟨name, [left, right]⟩) := by
  let arguments : Arguments := ⟨name, [left, right]⟩
  have givenLeft := Arguments.number_of_value (show arguments.values[0]? = some left from rfl)
  have givenRight := Arguments.number_of_value (show arguments.values[1]? = some right from rfl)
  rw [fold_pair _ arguments rfl, givenLeft, givenRight]
  cases readLeft : left.asNumber? with
  | none =>
    rw [arithmetic_refused (.inl readLeft)]
    exact .failed rfl
  | some first =>
    cases readRight : right.asNumber? with
    | none =>
      rw [arithmetic_refused (.inr readRight)]
      exact .failed rfl
    | some second =>
      rw [arithmetic_numbers readLeft readRight]
      exact .of_result (compute first second)

/-- The operator looks for fractions once it has both numbers, the function at each of them. -/
theorem sameNumber_modulo :
    SameNumber (arithmetic .coercive .modulo integerModulo left right)
      (fold integerOperand Decimal.modulo ⟨name, [left, right]⟩) := by
  let arguments : Arguments := ⟨name, [left, right]⟩
  have givenLeft := integerOperand_of_value (show arguments.values[0]? = some left from rfl)
  have givenRight := integerOperand_of_value (show arguments.values[1]? = some right from rfl)
  rw [fold_pair _ arguments rfl, givenLeft, givenRight]
  cases readLeft : left.asNumber? with
  | none =>
    rw [arithmetic_refused (.inl readLeft)]
    exact .failed rfl
  | some first =>
    cases readRight : right.asNumber? with
    | none =>
      rw [arithmetic_refused (.inr readRight)]
      cases whole : first.isInteger <;> simp only [whole] <;> exact .failed rfl
    | some second =>
      rw [arithmetic_numbers readLeft readRight, integerModulo]
      cases whole : first.isInteger
      all_goals cases also : second.isInteger
      all_goals simp only [whole, also]
      · exact .failed rfl
      · exact .failed rfl
      · exact .failed rfl
      · exact .of_result (first.modulo second)

end

end Numbers

/-! ## Built-in functions -/

/-- The function of an operator is built in. It does what the operator does, and loads no tables. -/
theorem Script.BinaryOp.function_of_name {op : BinaryOp} {name : String}
    (named : op.functionName? = some name) :
    isConditional name = false ∧ ∃ function, Registry.builtin.get? name = some function ∧
      ∀ scope left right tables,
        (op = .add → left.asNumber?.isSome ∧ right.asNumber?.isSome) →
        ∃ result, function.call scope [left, right] tables = (result, tables) ∧
          SameNumber (applyOperator .coercive op left right) result := by
  cases op with
  | add =>
    cases named
    refine ⟨by cbv, _, rfl, fun _ left right _ addends => ⟨_, rfl, ?_⟩⟩
    obtain ⟨readsLeft, readsRight⟩ := addends rfl
    simp only [applyOperator, addOrJoin_numbers readsLeft readsRight]
    exact Numbers.sameNumber_fold "Add" left right
  | subtract =>
    cases named
    exact ⟨by cbv, _, rfl, fun _ left right _ _ =>
      ⟨_, rfl, Numbers.sameNumber_fold "Subtract" left right⟩⟩
  | multiply =>
    cases named
    exact ⟨by cbv, _, rfl, fun _ left right _ _ =>
      ⟨_, rfl, Numbers.sameNumber_fold "Multiply" left right⟩⟩
  | divide =>
    cases named
    exact ⟨by cbv, _, rfl, fun _ left right _ _ =>
      ⟨_, rfl, Numbers.sameNumber_fold "Divide" left right⟩⟩
  | modulo =>
    cases named
    exact ⟨by cbv, _, rfl, fun _ left right _ _ =>
      ⟨_, rfl, Numbers.sameNumber_modulo "Mod" left right⟩⟩
  | equal | notEqual | less | greater | lessEqual | greaterEqual | conjunction | disjunction =>
    cases named

/-! ## Numbers as operands -/

/-- Two numbers have a result, by the operator under either discipline and by the function of its
name. -/
def Script.BinaryOp.Computes (op : BinaryOp) (a b result : Decimal) : Prop :=
  (∀ discipline, applyOperator discipline op (.numeric a) (.numeric b) = .ok (.numeric result)) ∧
    ∀ name, op.functionName? = some name →
      ∃ function, Registry.builtin.get? name = some function ∧ ∀ scope tables,
        function.call scope [.numeric a, .numeric b] tables = (.ok (.numeric result), tables)

/-- Numbers need no coercion, and the function gives them the result that the operator gives. -/
theorem Script.BinaryOp.computes_of_operator {op : BinaryOp} {a b result : Decimal}
    (arithmetical : op.functionName?.isSome)
    (operated : applyOperator .coercive op (.numeric a) (.numeric b) = .ok (.numeric result)) :
    op.Computes a b result := by
  constructor
  · intro discipline
    cases discipline with
    | coercive => exact operated
    | strict =>
      rw [← operated]
      cases op with
      | add | subtract | multiply | divide | modulo => rfl
      | equal | notEqual | less | greater | lessEqual | greaterEqual | conjunction | disjunction =>
        cases arithmetical
  · intro name named
    obtain ⟨-, function, found, computes⟩ := op.function_of_name named
    refine ⟨function, found, fun scope tables => ?_⟩
    obtain ⟨called, outcome, same⟩ := computes scope (.numeric a) (.numeric b) tables
      fun _ => ⟨rfl, rfl⟩
    rw [operated] at same
    rw [outcome]
    cases same
    rfl

/-! ## Evaluation -/

/-- Without recovery a call ends with the result of its function. -/
theorem callFunction_plain {scope : Scope} (plain : scope.settings.recoverBlankArguments = false)
    {function : Function} {values : List Value} {progress : Progress}
    {result : Except EvalError Value}
    (called : function.call scope values progress.tables = (result, progress.tables)) :
    (callFunction scope function values).run progress = (result, progress) := by
  rw [callFunction_run, called]
  cases result with
  | ok value => rfl
  | error error =>
    have kept : scope.settings.recovers values error = false := by
      simp only [Settings.recovers, plain, Bool.false_and]
    simp only [kept, Bool.false_eq_true, if_false]

/-- Two expressions joined by an arithmetic operator evaluate like the call of its function: to the
same number, or to errors of one kind, with the same records. For a sum both must have a number as
their value, as far as they have one. -/
theorem evaluate_operator_call {scope : Scope} (coercive : scope.settings.discipline = .coercive)
    (plain : scope.settings.recoverBlankArguments = false) {op : BinaryOp} {name : String}
    (named : op.functionName? = some name) (left right : Expr) (progress : Progress)
    (addends : op = .add → ∀ first second after behind,
      (evaluate Registry.builtin scope left).run progress = (.ok first, after) →
      (evaluate Registry.builtin scope right).run after = (.ok second, behind) →
      first.asNumber?.isSome ∧ second.asNumber?.isSome) :
    let operated := (evaluate Registry.builtin scope (.binary op left right)).run progress
    let called := (evaluate Registry.builtin scope (.call name [left, right])).run progress
    SameNumber operated.1 called.1 ∧ operated.2 = called.2 := by
  intro operated called
  obtain ⟨eagerly, function, found, computes⟩ := op.function_of_name named
  simp only [operated, called, evaluate, evaluateAll, found, eagerly, coercive, Bool.false_eq_true,
    if_false, run_bind, run_pure, run_liftExcept]
  rcases ranLeft : (evaluate Registry.builtin scope left).run progress with ⟨error | first, after⟩
  · exact ⟨.failed rfl, rfl⟩
  dsimp only
  rcases ranRight : (evaluate Registry.builtin scope right).run after with
    ⟨error | second, behind⟩
  · exact ⟨.failed rfl, rfl⟩
  dsimp only
  obtain ⟨result, outcome, same⟩ := computes scope first second behind.tables
    fun sum => addends sum first second after behind ranLeft ranRight
  rw [callFunction_plain plain outcome]
  exact ⟨same, rfl⟩

/-- A text and a field that spell numbers are added. -/
theorem evaluate_operator_call_texts :
    let scope : Scope :=
      ⟨{ Settings.standard with recoverBlankArguments := false }, .json [("n", .string "-2.50")],
        .empty, none⟩
    let ran (expr : Expr) := (evaluate Registry.builtin scope expr).run ⟨.ofSource .empty, []⟩
    let sum : Value := .numeric ⟨false, 450, 2, by decide, by decide⟩
    (scope.settings.discipline = .coercive ∧ scope.settings.recoverBlankArguments = false ∧
        BinaryOp.add.functionName? = some "Add" ∧
        ran (.string " 7 ") = (.ok (.string " 7 "), ⟨.ofSource .empty, []⟩) ∧
        ran (.field "n") = (.ok (.string "-2.50"), ⟨.ofSource .empty, []⟩) ∧
        (Value.string " 7 ").asNumber?.isSome ∧ (Value.string "-2.50").asNumber?.isSome) ∧
      (ran (.binary .add (.string " 7 ") (.field "n"))).1 = .ok sum ∧
        (ran (.call "Add" [.string " 7 ", .field "n"])).1 = .ok sum := by
  intro scope ran sum
  have field : scope.resolve "n" = "-2.50" := by cbv
  have first : ran (.string " 7 ") = (.ok (.string " 7 "), ⟨.ofSource .empty, []⟩) := rfl
  have second : ran (.field "n") = (.ok (.string "-2.50"), ⟨.ofSource .empty, []⟩) := by
    simp only [ran, evaluate, field]
    rfl
  have reads : (Value.string " 7 ").asNumber?.isSome ∧ (Value.string "-2.50").asNumber?.isSome := by
    cbv
  have added : applyOperator .coercive .add (.string " 7 ") (.string "-2.50") = .ok sum := by cbv
  have operated : (ran (.binary .add (.string " 7 ") (.field "n"))).1 = .ok sum := by
    simp only [ran, evaluate, field, run_bind, run_pure, run_liftExcept]
    exact added
  have addends (value other : Value) (after behind : Progress)
      (onLeft : ran (.string " 7 ") = (.ok value, after))
      (onRight : (evaluate Registry.builtin scope (.field "n")).run after = (.ok other, behind)) :
      value.asNumber?.isSome ∧ other.asNumber?.isSome := by
    cases first.symm.trans onLeft
    cases second.symm.trans onRight
    exact reads
  have same : SameNumber (ran (.binary .add (.string " 7 ") (.field "n"))).1
      (ran (.call "Add" [.string " 7 ", .field "n"])).1 :=
    (evaluate_operator_call rfl rfl rfl _ _ _ fun _ => addends).1
  refine ⟨⟨rfl, rfl, rfl, first, second, reads⟩, operated, ?_⟩
  rw [operated] at same
  dsimp only [sum] at same ⊢
  generalize (ran (.call "Add" [.string " 7 ", .field "n"])).1 = called at same ⊢
  cases same
  rfl

end DerivedFields

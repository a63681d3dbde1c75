import DerivedFields.Evaluation
import DerivedFields.Proofs.Function.Regular

/-!
# One expression in two scopes

An evaluation is put together from values, errors and calls, one computation after the other. So a
relation between computations that respects these steps relates the evaluations of an expression in
two scopes as soon as it relates the calls, provided the scopes have the same discipline and the
same texts at the paths that the expression names. Taken between an evaluation and itself, this is
an induction on expressions.
-/

namespace DerivedFields

namespace Script.Expr

mutual

/-- The paths that an expression reads, in the order of its text. -/
def fields : Expr → List String
  | .boolean _ | .number _ | .string _ => []
  | .field path => [path]
  | .negate operand => operand.fields
  | .binary _ left right => left.fields ++ right.fields
  | .call _ arguments => fieldsOf arguments

/-- The paths that a list of expressions reads. -/
def fieldsOf : List Expr → List String
  | [] => []
  | expr :: rest => expr.fields ++ fieldsOf rest

end

end Script.Expr

open Script (Expr)

namespace Evaluation

/-- A relation between computations that goes on along them. -/
structure Parametric (Related : ∀ α : Type, Evaluation α → Evaluation α → Prop) : Prop where
  pure : ∀ {α : Type} (value : α), Related α (pure value) (pure value)
  throw : ∀ {α : Type} (error : EvalError), Related α (throw error) (throw error)
  bind : ∀ {α β : Type} {first second : Evaluation α} {next next' : α → Evaluation β},
    Related α first second → (∀ value, Related β (next value) (next' value)) →
      Related β (first >>= next) (second >>= next')

/-- Equality goes on along computations. -/
theorem parametric_eq : Parametric fun _ first second => first = second where
  pure _ := rfl
  throw _ := rfl
  bind := by
    intro α β first second next next' same onward
    rw [same, funext onward]

variable {Related : ∀ α : Type, Evaluation α → Evaluation α → Prop}

private theorem Parametric.liftExcept (parametric : Parametric Related) {α : Type}
    (result : Except EvalError α) : Related α (liftExcept result) (liftExcept result) := by
  cases result with
  | ok value => exact parametric.pure value
  | error error => exact parametric.throw error

/-- Two scopes that treat operands alike and whose calls are related. -/
structure ScopesRelated (Related : ∀ α : Type, Evaluation α → Evaluation α → Prop)
    (registry : Registry) (first second : Scope) : Prop extends Parametric Related where
  discipline : first.settings.discipline = second.settings.discipline
  calls : ∀ function ∈ registry.functions, ∀ values,
    Related Value (callFunction first function values) (callFunction second function values)

variable {registry : Registry} {first second : Scope}

private theorem related_chooseBranch (scopes : ScopesRelated Related registry first second)
    (name : String)
    (condition : Value) :
    Related Bool (chooseBranch first name condition) (chooseBranch second name condition) := by
  simp only [chooseBranch, scopes.discipline]
  cases second.settings.discipline.condition? condition with
  | some taken => exact scopes.pure taken
  | none => exact scopes.throw _

mutual

theorem related_evaluate (scopes : ScopesRelated Related registry first second) (expr : Expr)
    (same : ∀ path ∈ expr.fields, first.resolve path = second.resolve path) :
    Related Value (evaluate registry first expr) (evaluate registry second expr) := by
  match expr with
  | .boolean _ | .number _ | .string _ =>
    simp only [evaluate]
    exact scopes.pure _
  | .field path =>
    simp only [evaluate, same path List.mem_cons_self]
    exact scopes.pure _
  | .negate operand =>
    simp only [evaluate, scopes.discipline]
    exact scopes.bind (related_evaluate scopes operand same) fun _ => scopes.liftExcept _
  | .binary op left right =>
    have onLeft := related_evaluate scopes left
      fun path member => same path (List.mem_append_left _ member)
    have onRight := related_evaluate scopes right
      fun path member => same path (List.mem_append_right _ member)
    simp only [evaluate, scopes.discipline]
    exact scopes.bind onLeft fun _ => scopes.bind onRight fun _ => scopes.liftExcept _
  | .call name arguments =>
    simp only [evaluate]
    split
    · exact related_evaluateConditional scopes name arguments same
    · cases found : registry.get? name with
      | none => exact scopes.throw _
      | some function =>
        exact scopes.bind (related_evaluateAll scopes arguments same)
          fun values => scopes.calls function (Registry.mem_of_get? found) values

theorem related_evaluateAll (scopes : ScopesRelated Related registry first second)
    (arguments : List Expr)
    (same : ∀ path ∈ Expr.fieldsOf arguments, first.resolve path = second.resolve path) :
    Related (List Value) (evaluateAll registry first arguments)
      (evaluateAll registry second arguments) := by
  match arguments with
  | [] =>
    simp only [evaluateAll]
    exact scopes.pure _
  | expr :: rest =>
    have onHead := related_evaluate scopes expr
      fun path member => same path (List.mem_append_left _ member)
    have onRest := related_evaluateAll scopes rest
      fun path member => same path (List.mem_append_right _ member)
    simp only [evaluateAll]
    exact scopes.bind onHead fun _ => scopes.bind onRest fun _ => scopes.pure _

theorem related_evaluateConditional (scopes : ScopesRelated Related registry first second)
    (name : String) (arguments : List Expr)
    (same : ∀ path ∈ Expr.fieldsOf arguments, first.resolve path = second.resolve path) :
    Related Value (evaluateConditional registry first name arguments)
      (evaluateConditional registry second name arguments) := by
  match arguments with
  | [condition, thenBranch, elseBranch] =>
    simp only [Expr.fieldsOf, List.append_nil, List.mem_append] at same
    have onCondition := related_evaluate scopes condition
      fun path member => same path (.inl member)
    have onThen := related_evaluate scopes thenBranch
      fun path member => same path (.inr (.inl member))
    have onElse := related_evaluate scopes elseBranch
      fun path member => same path (.inr (.inr member))
    simp only [evaluateConditional]
    refine scopes.bind onCondition fun value =>
      scopes.bind (related_chooseBranch scopes name value) fun taken => ?_
    cases taken with
    | true => exact onThen
    | false => exact onElse
  | [] | [_] | [_, _] | _ :: _ :: _ :: _ :: _ =>
    simp only [evaluateConditional]
    exact scopes.throw _

end

end Evaluation

end DerivedFields

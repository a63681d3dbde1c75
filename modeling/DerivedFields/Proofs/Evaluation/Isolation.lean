import DerivedFields.Pipeline.Run
import DerivedFields.Proofs.Evaluation.Parametricity
import DerivedFields.Proofs.Stateful

/-!
# What an evaluation can see

With regular functions an evaluation sees of its scope the settings and the texts at the paths that
the expression names, and nothing else. Of the two documents of a scope, the one that is being
written is read at the target path only. So what the other instructions of a node wrote reaches a
script through the text at its own target path or not at all.
-/

namespace DerivedFields

namespace Script.Expr

/-- Whether an expression names a place of a document, in any spelling of its path. -/
def Reads (path : Path) (expr : Expr) : Prop := ∃ text ∈ expr.fields, Path.parse text = path

end Script.Expr

open Script (Expr)
open Evaluation

variable {registry : Registry} {first second : Scope}

/-- Calls look at the settings of a scope only. -/
theorem callFunction_congr {function : Function} (regular : function.body.Regular)
    (settings : first.settings = second.settings) (values : List Value) :
    callFunction first function values = callFunction second function values := by
  simp only [callFunction, Function.call_settings regular settings, settings]

/-- Scopes with the same settings and the same texts at the paths of an expression give it the same
value, or the same error, with the same records. -/
theorem evaluate_congr (regular : registry.Regular) (settings : first.settings = second.settings)
    (expr : Expr) (same : ∀ path ∈ expr.fields, first.resolve path = second.resolve path) :
    evaluate registry first expr = evaluate registry second expr := by
  have scopes : ScopesRelated (fun _ first second => first = second) registry first second :=
    { parametric_eq with
      discipline := congrArg Settings.discipline settings
      calls := fun function member => callFunction_congr (regular function member) settings }
  exact related_evaluate scopes expr same

section

variable {settings : Settings} {output first second : Document} {target : Option Path}

/-- A scope reads the document that is being written at its target only. -/
theorem Scope.resolve_congr {path : String}
    (seen : target = some (Path.parse path) →
      first.resolve (Path.parse path) settings.lenientAttributes =
        second.resolve (Path.parse path) settings.lenientAttributes) :
    (Scope.mk settings output first target).resolve path =
      (Scope.mk settings output second target).resolve path := by
  simp only [Scope.resolve, Scope.source]
  split
  · rename_i here
    exact seen here
  · rfl

/-- Two documents that are being written give an expression the same value if they have the same
text at the target, or if it does not read its target. -/
theorem evaluate_intermediate (regular : registry.Regular) {expr : Expr}
    (seen : ∀ path, target = some path → expr.Reads path →
      first.resolve path settings.lenientAttributes =
        second.resolve path settings.lenientAttributes) :
    evaluate registry ⟨settings, output, first, target⟩ expr =
      evaluate registry ⟨settings, output, second, target⟩ expr := by
  refine evaluate_congr regular ?_ expr fun text member => ?_
  · rfl
  · apply Scope.resolve_congr
    intro here
    exact seen (Path.parse text) here ⟨text, member, rfl⟩

end

/-- With the built-in functions an expression sees the text at its target path of the document that
is being written, and without a target nothing of it: the value or the error, the failures recovered
and the tables read are the same for any two documents that agree there. So in a run a script sees
no more than that text of what its node wrote before it. -/
theorem evaluate_standard_isolated (settings : Settings) (output first second : Document)
    (expr : Expr) :
    (∀ target : Path,
      first.resolve target settings.lenientAttributes =
        second.resolve target settings.lenientAttributes →
      evaluate Registry.builtin ⟨settings, output, first, some target⟩ expr =
        evaluate Registry.builtin ⟨settings, output, second, some target⟩ expr) ∧
    evaluate Registry.builtin ⟨settings, output, first, none⟩ expr =
      evaluate Registry.builtin ⟨settings, output, second, none⟩ expr ∧
    ∀ (σ : Type) (execution : Execution σ) (path : String),
      first.resolve (Path.parse path) settings.lenientAttributes =
        second.resolve (Path.parse path) settings.lenientAttributes →
      ∃ result tables,
        (Running.evaluate (.standard settings) path expr).run
            { execution with intermediate := first } =
          (result, { execution with intermediate := first, tables }) ∧
        (Running.evaluate (.standard settings) path expr).run
            { execution with intermediate := second } =
          (result, { execution with intermediate := second, tables }) := by
  have isolated (document : Document) (target : Path)
      (same : first.resolve target settings.lenientAttributes =
        second.resolve target settings.lenientAttributes) :
      evaluate Registry.builtin ⟨settings, document, first, some target⟩ expr =
        evaluate Registry.builtin ⟨settings, document, second, some target⟩ expr := by
    refine evaluate_intermediate Registry.regular_builtin ?_
    rintro _ ⟨⟩ _
    exact same
  refine ⟨isolated output, ?_, ?_⟩
  · refine evaluate_intermediate Registry.regular_builtin ?_
    rintro _ ⟨⟩
  · intro σ execution path same
    simp only [Running.evaluate, Stateful.run_bind, Stateful.run_get, Evaluator.standard,
      isolated execution.output (Path.parse path) same]
    generalize (evaluate Registry.builtin _ expr).run _ = ran
    rcases ran with ⟨error | value, progress⟩
    · exact ⟨_, progress.tables, rfl, rfl⟩
    · exact ⟨_, progress.tables, rfl, rfl⟩

/-- A neighbour of the target does not show in the value, although the expression names it. -/
theorem evaluate_standard_isolated_neighbour :
    (Document.json [("total", .string "7"), ("count", .string "1")]).resolve
        ⟨[.element "total"]⟩ true =
      (Document.json [("total", .string "7")]).resolve ⟨[.element "total"]⟩ true ∧
    evaluate Registry.builtin
        ⟨.standard, .empty, .json [("total", .string "7"), ("count", .string "1")],
          some ⟨[.element "total"]⟩⟩ (.binary .add (.field "total") (.field "count")) =
      evaluate Registry.builtin
        ⟨.standard, .empty, .json [("total", .string "7")], some ⟨[.element "total"]⟩⟩
        (.binary .add (.field "total") (.field "count")) :=
  ⟨rfl, (evaluate_standard_isolated .standard .empty _ _ _).1 ⟨[.element "total"]⟩ rfl⟩

end DerivedFields

import DerivedFields.Proofs.Evaluation.History
import DerivedFields.Proofs.Table.Asking

/-!
# The tables that an evaluation asks for

Which tables are asked for follows from the expression: those of the lookups that are reached, in the
order in which they are evaluated. An evaluation changes the tables that are kept by asking for these
and in no other way, also if it fails on its way or if the failure of a call is recovered.
-/

namespace DerivedFields

open Script (Expr)
open Stateful

/-- The table that a lookup with these arguments asks for. It asks for none if the key, the name of
the table or the column cannot be read, and for a column before the first. -/
def lookupTable? (arguments : Arguments) : Option String :=
  match arguments.string 0, arguments.string 1, arguments.index 2 with
  | .ok _, .ok table, .ok column => if column < 1 then none else some table
  | _, _, _ => none

/-- The tables that a call with these values asks for. -/
def Function.asked (function : Function) (values : List Value) : List String :=
  if function.arity.accepts values.length then
    match function.body with
    | .ofTables _ => (lookupTable? ⟨function.name, values⟩).toList
    | .ofArguments _ | .ofScope _ => []
  else []

namespace Evaluation

variable {α β : Type} {source : TableSource}

/-- The result of a computation if no table of the source was loaded before. -/
def outcome (source : TableSource) (computation : Evaluation α) : Except EvalError α :=
  (computation.run ⟨.ofSource source, []⟩).1

/-- What is asked for after a result: nothing after a failure. -/
def askedAfter (result : Except EvalError α) (more : α → List String) : List String :=
  match result with
  | .ok value => more value
  | .error _ => []

/-- Whatever is kept of a source, a computation has its outcome, and changes what is kept by asking
for these tables. -/
def Asks (source : TableSource) (computation : Evaluation α) (names : List String) : Prop :=
  ∀ progress : Progress, progress.tables.Serves source →
    (computation.run progress).1 = outcome source computation ∧
      (computation.run progress).2.tables = progress.tables.getAll names

private theorem asks_pure (value : α) : Asks source (pure value) [] := fun _ _ => ⟨rfl, rfl⟩

private theorem asks_throw (error : EvalError) : Asks source (throw error : Evaluation α) [] :=
  fun _ _ => ⟨rfl, rfl⟩

private theorem asks_liftExcept (result : Except EvalError α) : Asks source (liftExcept result) [] := by
  intro progress _
  simp only [outcome, run_liftExcept]
  exact ⟨trivial, rfl⟩

/-- A sequence asks for the tables of its first part, and then for those of the part that follows
on its result. -/
theorem Asks.bind {computation : Evaluation α} {next : α → Evaluation β} {names : List String}
    {more : α → List String} (asks : Asks source computation names)
    (asksNext : ∀ value, Asks source (next value) (more value)) :
    Asks source (computation >>= next)
      (names ++ askedAfter (outcome source computation) more) := by
  have ran (progress : Progress) (serves : progress.tables.Serves source) :
      ((computation >>= next).run progress).1 =
          (outcome source computation >>= fun value => outcome source (next value)) ∧
        ((computation >>= next).run progress).2.tables =
          progress.tables.getAll (names ++ askedAfter (outcome source computation) more) := by
    obtain ⟨result, kept⟩ := asks progress serves
    rw [run_bind, ← result, TableCache.getAll_append]
    rcases ran : computation.run progress with ⟨error | value, after⟩
    · rw [ran] at kept
      exact ⟨rfl, kept⟩
    · rw [ran] at kept
      have served : after.tables.Serves source := kept ▸ serves.getAll names
      obtain ⟨resultNext, keptNext⟩ := asksNext value after served
      exact ⟨resultNext, by rw [keptNext, kept]; rfl⟩
  intro progress serves
  obtain ⟨result, kept⟩ := ran progress serves
  obtain ⟨fresh, -⟩ := ran ⟨.ofSource source, []⟩ (TableCache.serves_ofSource source)
  exact ⟨result.trans fresh.symm, kept⟩

/-- A second part that asks for nothing leaves the tables to the first. -/
theorem Asks.bind_nil {computation : Evaluation α} {next : α → Evaluation β} {names : List String}
    (asks : Asks source computation names) (asksNext : ∀ value, Asks source (next value) []) :
    Asks source (computation >>= next) names := by
  have onward := asks.bind asksNext
  have nothing : askedAfter (outcome source computation) (fun _ => []) = [] := by
    cases outcome source computation <;> rfl
  rwa [nothing, List.append_nil] at onward

end Evaluation

open Evaluation

section

variable (registry : Registry) (scope : Scope) (source : TableSource)

mutual

/-- The tables that the evaluation of an expression asks for, in order. -/
def asked : Expr → List String
  | .boolean _ | .number _ | .string _ | .field _ => []
  | .negate operand => asked operand
  | .binary _ left right =>
    asked left ++ askedAfter (outcome source (evaluate registry scope left)) fun _ => asked right
  | .call name arguments =>
    if isConditional name then askedConditional name arguments
    else match registry.get? name with
      | none => []
      | some function =>
        askedAll arguments ++
          askedAfter (outcome source (evaluateAll registry scope arguments)) function.asked

/-- The tables that the evaluation of a list of expressions asks for. -/
def askedAll : List Expr → List String
  | [] => []
  | expr :: rest =>
    asked expr ++ askedAfter (outcome source (evaluate registry scope expr)) fun _ => askedAll rest

/-- The tables that a conditional asks for: those of its condition and of the branch that is
chosen. -/
def askedConditional (name : String) : List Expr → List String
  | [condition, thenBranch, elseBranch] =>
    asked condition ++
      askedAfter (outcome source (evaluate registry scope condition)) fun value =>
        askedAfter (outcome source (chooseBranch scope name value)) fun taken =>
          if taken then asked thenBranch else asked elseBranch
  | _ => []

end

end

/-- Functions that look at the tables do so by a lookup. -/
def Registry.LooksUp (registry : Registry) : Prop :=
  ∀ function ∈ registry.functions, ∀ compute, function.body = .ofTables compute → compute = lookup

theorem Registry.looksUp_builtin : builtin.LooksUp := by
  intro function member compute reads
  rcases body_of_mem_builtin member with ⟨_, body⟩ | body | body
  · cases body.symm.trans reads
  · cases body.symm.trans reads
  · cases body.symm.trans reads
    rfl

private theorem lookup_snd (arguments : Arguments) (tables : TableCache) :
    (lookup arguments tables).2 = tables.getAll (lookupTable? arguments).toList := by
  unfold lookup lookupTable?
  cases arguments.string 0 with
  | error error => rfl
  | ok key =>
    cases arguments.string 1 with
    | error error => rfl
    | ok table =>
      cases arguments.index 2 with
      | error error => rfl
      | ok column =>
        by_cases early : column < 1
        · simp [early]
        · rcases got : tables.get table with ⟨error | found, after⟩ <;>
            simp [early, TableCache.getAll, got]

private theorem Function.call_snd {function : Function}
    (looksUp : ∀ compute, function.body = .ofTables compute → compute = lookup) (scope : Scope)
    (values : List Value) (tables : TableCache) :
    (function.call scope values tables).2 = tables.getAll (function.asked values) := by
  unfold call asked
  split
  · cases body : function.body with
    | ofArguments compute => rfl
    | ofScope compute => rfl
    | ofTables compute =>
      rw [looksUp compute body]
      exact lookup_snd _ _
  · rfl

/-- The value of a call, or its failure unless that is recovered. -/
theorem callFunction_fst (scope : Scope) (function : Function) (values : List Value)
    (progress : Progress) :
    ((callFunction scope function values).run progress).1 =
      (function.call scope values progress.tables).1.tryCatch fun error =>
        if scope.settings.recovers values error then .ok (.string "") else .error error := by
  rw [callFunction_run]
  rcases function.call scope values progress.tables with ⟨error | value, tables⟩
  · change _ = if scope.settings.recovers values error then Except.ok (Value.string "") else .error error
    dsimp only
    split <;> rfl
  · rfl

private theorem callFunction_tables (scope : Scope) (function : Function) (values : List Value)
    (progress : Progress) :
    ((callFunction scope function values).run progress).2.tables =
      (function.call scope values progress.tables).2 := by
  rw [callFunction_run]
  rcases function.call scope values progress.tables with ⟨error | value, tables⟩
  · dsimp only
    split <;> rfl
  · rfl

variable {registry : Registry} {source : TableSource}

private theorem asks_callFunction {function : Function} (regular : function.body.Regular)
    (looksUp : ∀ compute, function.body = .ofTables compute → compute = lookup) (scope : Scope)
    (values : List Value) :
    Asks source (callFunction scope function values) (function.asked values) := by
  intro progress serves
  have alike : TableCache.Alike source progress.tables (.ofSource source) :=
    ⟨serves, TableCache.serves_ofSource source⟩
  have result := (Function.call_tables regular scope values alike).1
  rw [outcome, callFunction_fst, callFunction_fst, callFunction_tables, result]
  exact ⟨rfl, Function.call_snd looksUp scope values progress.tables⟩

private theorem asks_chooseBranch (scope : Scope) (name : String) (condition : Value) :
    Asks source (chooseBranch scope name condition) [] := by
  unfold chooseBranch
  split
  · exact asks_pure _
  · exact asks_throw _

mutual

theorem asks_evaluate (regular : registry.Regular) (looksUp : registry.LooksUp) (scope : Scope)
    (expr : Expr) :
    Asks source (evaluate registry scope expr) (asked registry scope source expr) := by
  match expr with
  | .boolean _ | .number _ | .string _ | .field _ =>
    simp only [evaluate, asked]
    exact asks_pure _
  | .negate operand =>
    simp only [evaluate, asked]
    exact (asks_evaluate regular looksUp scope operand).bind_nil fun _ => asks_liftExcept _
  | .binary op left right =>
    simp only [evaluate, asked]
    exact (asks_evaluate regular looksUp scope left).bind fun _ =>
      (asks_evaluate regular looksUp scope right).bind_nil fun _ => asks_liftExcept _
  | .call name arguments =>
    simp only [evaluate, asked]
    split
    · exact asks_evaluateConditional regular looksUp scope name arguments
    · cases found : registry.get? name with
      | none => exact asks_throw _
      | some function =>
        have member := Registry.mem_of_get? found
        exact (asks_evaluateAll regular looksUp scope arguments).bind fun values =>
          asks_callFunction (regular function member) (looksUp function member) scope values

theorem asks_evaluateAll (regular : registry.Regular) (looksUp : registry.LooksUp) (scope : Scope)
    (arguments : List Expr) :
    Asks source (evaluateAll registry scope arguments)
      (askedAll registry scope source arguments) := by
  match arguments with
  | [] =>
    simp only [evaluateAll, askedAll]
    exact asks_pure _
  | expr :: rest =>
    simp only [evaluateAll, askedAll]
    exact (asks_evaluate regular looksUp scope expr).bind fun _ =>
      (asks_evaluateAll regular looksUp scope rest).bind_nil fun _ => asks_pure _

theorem asks_evaluateConditional (regular : registry.Regular) (looksUp : registry.LooksUp)
    (scope : Scope) (name : String) (arguments : List Expr) :
    Asks source (evaluateConditional registry scope name arguments)
      (askedConditional registry scope source name arguments) := by
  match arguments with
  | [condition, thenBranch, elseBranch] =>
    simp only [evaluateConditional, askedConditional]
    refine (asks_evaluate regular looksUp scope condition).bind fun value => ?_
    refine (asks_chooseBranch scope name value).bind fun taken => ?_
    cases taken with
    | true => exact asks_evaluate regular looksUp scope thenBranch
    | false => exact asks_evaluate regular looksUp scope elseBranch
  | [] | [_] | [_, _] | _ :: _ :: _ :: _ :: _ =>
    simp only [evaluateConditional, askedConditional]
    exact asks_throw _

end

end DerivedFields

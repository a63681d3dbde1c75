import Mathlib
import DerivedFields.Command.Check
import DerivedFields.Proofs.Evaluation.Lookups

/-!
# An evaluator that serves many requests

One evaluator serves scripts, expressions and requests for tables one after the other, and keeps the
tables that it loaded on the way. What it keeps after any history is what a cache keeps that was asked
for the tables of that history in order. So its answers are those of an evaluator that has just been
made, and the tables that are loaded are those that were asked for and given.
-/

namespace DerivedFields

open Script (Expr)

/-- What an evaluator is asked for: the value of a script or of an expression, in two documents and
for a target path or none, or a table. -/
inductive Request
  | script (text : String) (output intermediate : Document) (target : Option Path)
  | expression (expr : Expr) (output intermediate : Document) (target : Option Path)
  | table (name : String)

/-- What is answered: the value or the failure with the failures that were recovered, or the
table. -/
inductive Answer
  | evaluated (result : Except Failure Value) (recovered : List RecoveredFailure)
  | table (result : Except EvalError LookupTable)

namespace Evaluator

/-- Evaluates an expression with the tables that are kept. -/
def serveExpression (evaluator : Evaluator) (tables : TableCache) (scope : Scope) (expr : Expr) :
    Answer × TableCache :=
  let ran := (evaluate evaluator.registry scope expr).run ⟨tables, []⟩
  (.evaluated (ran.1.mapError .eval) ran.2.recovered, ran.2.tables)

/-- The answer to a request, and the tables that are kept afterwards. -/
def serve (evaluator : Evaluator) (tables : TableCache) : Request → Answer × TableCache
  | .script text output intermediate target =>
    match parseScript text with
    | .error failure => (.evaluated (.error failure) [], tables)
    | .ok expr =>
      evaluator.serveExpression tables ⟨evaluator.settings, output, intermediate, target⟩ expr
  | .expression expr output intermediate target =>
    evaluator.serveExpression tables ⟨evaluator.settings, output, intermediate, target⟩ expr
  | .table name =>
    let (result, tables) := tables.get name
    (.table result, tables)

/-- The tables that an evaluator keeps after a history of requests. -/
def tablesAfter (evaluator : Evaluator) (source : TableSource) (history : List Request) :
    TableCache :=
  history.foldl (fun tables request => (evaluator.serve tables request).2) (.ofSource source)

/-- The tables that are asked for to answer a request. A script that is no expression asks for
none. -/
def askedBy (evaluator : Evaluator) (source : TableSource) : Request → List String
  | .script text output intermediate target =>
    match parseScript text with
    | .error _ => []
    | .ok expr =>
      asked evaluator.registry ⟨evaluator.settings, output, intermediate, target⟩ source expr
  | .expression expr output intermediate target =>
    asked evaluator.registry ⟨evaluator.settings, output, intermediate, target⟩ source expr
  | .table name => [name]

variable {evaluator : Evaluator} {source : TableSource} {tables : TableCache}

private theorem serveExpression_eq (regular : evaluator.registry.Regular)
    (looksUp : evaluator.registry.LooksUp) (serves : tables.Serves source) (scope : Scope)
    (expr : Expr) :
    evaluator.serveExpression tables scope expr =
      ((evaluator.serveExpression (.ofSource source) scope expr).1,
        tables.getAll (asked evaluator.registry scope source expr)) := by
  have fresh := evaluate_ofSource regular scope expr serves []
  have kept := (asks_evaluate regular looksUp scope expr ⟨tables, []⟩ serves).2
  simp only [serveExpression, fresh.1, fresh.2.recovered, kept]

/-- Whatever is kept of a source, the answer to a request is that of an evaluator that keeps nothing
yet, and what is kept changes by the tables that are asked for. -/
theorem serve_eq (regular : evaluator.registry.Regular) (looksUp : evaluator.registry.LooksUp)
    (serves : tables.Serves source) (request : Request) :
    evaluator.serve tables request =
      ((evaluator.serve (.ofSource source) request).1,
        tables.getAll (evaluator.askedBy source request)) := by
  cases request with
  | script text output intermediate target =>
    simp only [serve, askedBy]
    cases parseScript text with
    | error failure => rfl
    | ok expr => exact serveExpression_eq regular looksUp serves _ expr
  | expression expr output intermediate target =>
    exact serveExpression_eq regular looksUp serves _ expr
  | table name =>
    have fresh := (TableCache.serves_ofSource source).get_fst name
    simp only [serve, askedBy, serves.get_fst, fresh]
    rfl

/-- A history keeps what its requests asked for. -/
theorem foldl_serve (regular : evaluator.registry.Regular) (looksUp : evaluator.registry.LooksUp)
    (serves : tables.Serves source) (history : List Request) :
    history.foldl (fun tables request => (evaluator.serve tables request).2) tables =
      tables.getAll (history.flatMap (evaluator.askedBy source)) := by
  induction history generalizing tables with
  | nil => rfl
  | cons request history ih =>
    rw [List.foldl_cons, serve_eq regular looksUp serves request]
    rw [ih (serves.getAll _), List.flatMap_cons, TableCache.getAll_append]

/-- Whatever it was asked before, an evaluator with the built-in functions keeps what its source would
give anew. -/
theorem serves_tablesAfter (settings : Settings) (source : TableSource) (history : List Request) :
    ((Evaluator.standard settings).tablesAfter source history).Serves source := by
  have start := TableCache.serves_ofSource source
  rw [tablesAfter, foldl_serve Registry.regular_builtin Registry.looksUp_builtin start history]
  exact start.getAll _

/-- After any history of requests, an evaluator with the built-in functions answers as one that has
just been made. It keeps what a cache keeps that was asked for the tables of the history in order: a
table is loaded if and only if one of these requests for it was answered with a table, and it is the
one that its source would give now. Asking for a table that cannot be given changes nothing. -/
theorem serve_standard_history (settings : Settings) (source : TableSource)
    (history : List Request) :
    let evaluator := Evaluator.standard settings
    let tables := evaluator.tablesAfter source history
    let names := history.flatMap (evaluator.askedBy source)
    (∀ request, (evaluator.serve tables request).1 =
        (evaluator.serve (.ofSource source) request).1) ∧
      tables = (TableCache.ofSource source).getAll names ∧
      (∀ name, tables.isLoaded name = true ↔
        ∃ before after table, names = before ++ name :: after ∧
          (((TableCache.ofSource source).getAll before).get name).1 = .ok table) ∧
      (∀ name table, tables.loaded.lookup name = some table → source.load name = .ok table) ∧
      ∀ name error, (tables.get name).1 = .error error → (tables.get name).2 = tables := by
  intro evaluator tables names
  have regular : evaluator.registry.Regular := Registry.regular_builtin
  have looksUp : evaluator.registry.LooksUp := Registry.looksUp_builtin
  have start := TableCache.serves_ofSource source
  have kept : tables = (TableCache.ofSource source).getAll names :=
    foldl_serve regular looksUp start history
  have serves : tables.Serves source := serves_tablesAfter settings source history
  refine ⟨?_, kept, ?_, serves.loaded, ?_⟩
  · intro request
    rw [serve_eq regular looksUp serves request]
  · intro name
    rw [kept]
    exact TableCache.isLoaded_getAll_ofSource source names name
  · intro name error failed
    exact TableCache.get_snd_of_error failed

/-- A source with one table. -/
def prices : TableSource :=
  .ofList [("prices", "primaryKeyColumnIndex=1", "item,price\npen,2")]

/-- The tables kept after a request for a table that is not there, and a script that fails behind its
lookup. -/
def visited : TableCache :=
  (Evaluator.standard .standard).tablesAfter prices
    [.table "rates", .script "-Lookup('pen', 'prices', 1)" .empty .empty none]

/-- The script has loaded its table, although it fails. Asking once more for the table that is not
there changes nothing. -/
theorem serve_standard_history_missing :
    (visited.get "rates").1 = .error (.domain (.table "rates" .missingConfig)) ∧
      (visited.get "rates").2 = visited ∧ visited.isLoaded "prices" = true ∧
      visited.isLoaded "rates" = false := by
  have absent : prices.load "rates" = .error (.domain (.table "rates" .missingConfig)) := by cbv
  have parsed : parseScript "-Lookup('pen', 'prices', 1)" =
      .ok (.negate (.call "Lookup" [.string "pen", .string "prices", .number .one])) := by cbv
  have named : isConditional "Lookup" = false := by cbv
  have found : Registry.builtin.get? "Lookup" =
      some ⟨"Lookup", .range 3 4, .lookup, .ofTables lookup⟩ := by rfl
  have called (scope : Scope) :
      (callFunction scope ⟨"Lookup", .range 3 4, .lookup, .ofTables lookup⟩
          [.string "pen", .string "prices", .numeric .one]).run ⟨⟨prices, []⟩, []⟩ =
        (.ok (.string "pen"),
          ⟨⟨prices, [("prices", ⟨⟨1, true, true, true⟩, [("pen", ["pen", "2"])]⟩)]⟩, []⟩) := by
    cbv
  have kept : visited =
      ⟨prices, [("prices", ⟨⟨1, true, true, true⟩, [("pen", ["pen", "2"])]⟩)]⟩ := by
    simp only [visited, tablesAfter, List.foldl_cons, List.foldl_nil, serve, TableCache.get,
      TableCache.ofSource, List.lookup_nil, parsed, absent, serveExpression, evaluate, evaluateAll,
      Stateful.run_bind, Stateful.run_pure, named, found, standard, called, Bool.false_eq_true,
      if_false]
    rfl
  have failed : (visited.get "rates").1 = .error (.domain (.table "rates" .missingConfig)) := by
    rw [kept, ← absent]
    rfl
  refine ⟨failed, (serve_standard_history .standard prices _).2.2.2.2 _ _ failed, ?_, ?_⟩
  · rw [kept]
    rfl
  · rw [kept]
    rfl

end Evaluator

end DerivedFields

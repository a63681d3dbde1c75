import DerivedFields.Function.Builtin
import DerivedFields.Proofs.Table.Agreement

/-!
# Functions that see settings and sources only

A body is handed the whole scope and the tables loaded so far. A regular function makes no other use
of them than to look at the settings and at what the tables are loaded from. So the documents of a
scope reach it through its arguments alone, and it does not matter which tables were loaded before.
All built-in functions are regular. Of the settings they look at the time only, so that neither the
discipline nor the recovery of failures reaches them.
-/

namespace DerivedFields

/-- A body that sees the settings of a scope and the source of the tables, and nothing else. -/
structure FunctionBody.Regular (body : FunctionBody) : Prop where
  settings : ∀ {first second : Scope} (arguments : Arguments) (tables : TableCache),
    first.settings = second.settings →
      body.run first arguments tables = body.run second arguments tables
  tables : ∀ (scope : Scope) (arguments : Arguments) {source : TableSource}
    {first second : TableCache}, TableCache.Alike source first second →
      (body.run scope arguments first).1 = (body.run scope arguments second).1 ∧
        TableCache.Alike source (body.run scope arguments first).2
          (body.run scope arguments second).2

namespace FunctionBody

private theorem regular_ofArguments (compute : Arguments → Except EvalError Value) :
    (ofArguments compute).Regular where
  settings _ _ _ := rfl
  tables _ _ _ _ _ alike := ⟨rfl, alike⟩

private theorem regular_now : (ofScope Dates.now).Regular where
  settings := by
    intro first second arguments tables same
    simp only [run, Dates.now, same]
  tables _ _ _ _ _ alike := ⟨rfl, alike⟩

/-- A lookup asks for at most one table, and loads nothing else. -/
theorem regular_lookup : (ofTables lookup).Regular where
  settings _ _ _ := rfl
  tables := by
    intro scope arguments source first second alike
    simp only [run, lookup]
    split
    · next key name column _ _ _ =>
      split
      · exact ⟨rfl, alike⟩
      · have same := alike.get_fst name
        have after := alike.get_snd name
        generalize first.get name = firstGot at same after ⊢
        generalize second.get name = secondGot at same after ⊢
        rcases firstGot with ⟨answer, firstAfter⟩
        rcases secondGot with ⟨answer', secondAfter⟩
        obtain rfl : answer = answer' := same
        cases answer <;> exact ⟨rfl, after⟩
    all_goals exact ⟨rfl, alike⟩

end FunctionBody

/-- All functions of a registry are regular. -/
def Registry.Regular (registry : Registry) : Prop :=
  ∀ function ∈ registry.functions, function.body.Regular

namespace Registry

private theorem mem_of_mem_place {function other : Function} {functions : List Function}
    (member : other ∈ place function functions) : other = function ∨ other ∈ functions := by
  induction functions with
  | nil => exact .inl (List.mem_singleton.mp member)
  | cons first rest ih =>
    unfold place at member
    split at member
    · rcases List.mem_cons.mp member with same | later
      · exact .inl same
      · exact .inr (List.mem_cons_of_mem _ later)
    · rcases List.mem_cons.mp member with same | later
      · exact .inr (same ▸ List.mem_cons_self)
      · exact (ih later).imp_right (List.mem_cons_of_mem _)

/-- Registering functions makes none up. -/
theorem mem_of_mem_foldl_register {function : Function} {functions : List Function}
    {registry : Registry} (member : function ∈ (functions.foldl register registry).functions) :
    function ∈ functions ∨ function ∈ registry.functions := by
  induction functions generalizing registry with
  | nil => exact .inr member
  | cons first rest ih =>
    rcases ih member with later | earlier
    · exact .inl (List.mem_cons_of_mem _ later)
    · rcases mem_of_mem_place earlier with rfl | earlier
      · exact .inl List.mem_cons_self
      · exact .inr earlier

theorem mem_of_get? {registry : Registry} {name : String} {function : Function}
    (found : registry.get? name = some function) : function ∈ registry.functions :=
  List.mem_of_find?_eq_some found

theorem mem_builtinFunctions {function : Function} (member : function ∈ builtin.functions) :
    function ∈ builtinFunctions :=
  (mem_of_mem_foldl_register member).resolve_right List.not_mem_nil

/-- What the built-in functions may look at besides their arguments: one at the time that the
settings give, one at the tables, and all others at nothing. -/
theorem body_of_mem_builtin {function : Function} (member : function ∈ builtin.functions) :
    (∃ compute, function.body = .ofArguments compute) ∨ function.body = .ofScope Dates.now ∨
      function.body = .ofTables lookup := by
  have listed : ∀ function ∈ builtinFunctions,
      (∃ compute, function.body = .ofArguments compute) ∨ function.body = .ofScope Dates.now ∨
        function.body = .ofTables lookup := by
    simp [builtinFunctions, Strings.functions, Strings.function, Numbers.functions,
      Numbers.function, Formats.functions, Formats.function, Dates.functions, Dates.function]
  exact listed function (mem_builtinFunctions member)

theorem regular_builtin : builtin.Regular := by
  intro function member
  rcases body_of_mem_builtin member with ⟨compute, body⟩ | body | body
  · exact body ▸ FunctionBody.regular_ofArguments compute
  · exact body ▸ FunctionBody.regular_now
  · exact body ▸ FunctionBody.regular_lookup

end Registry

/-- The arity of a call is checked before its body runs, so it cannot make a difference. -/
theorem Function.call_settings {function : Function} (regular : function.body.Regular)
    {first second : Scope} (same : first.settings = second.settings) (values : List Value)
    (tables : TableCache) :
    function.call first values tables = function.call second values tables := by
  simp only [call, regular.settings _ tables same]

theorem Function.call_tables {function : Function} (regular : function.body.Regular) (scope : Scope)
    (values : List Value) {source : TableSource} {first second : TableCache}
    (alike : TableCache.Alike source first second) :
    (function.call scope values first).1 = (function.call scope values second).1 ∧
      TableCache.Alike source (function.call scope values first).2
        (function.call scope values second).2 := by
  unfold call
  split
  · exact regular.tables scope _ alike
  · exact ⟨rfl, alike⟩

/-! ## Functions that see the time only -/

/-- A body that sees of a scope the time that its settings give, and nothing else. How operators
treat their operands and whether failures are recovered is no matter to it. -/
def FunctionBody.Timed (body : FunctionBody) : Prop :=
  ∀ {first second : Scope} (arguments : Arguments) (tables : TableCache),
    first.settings.now = second.settings.now →
      body.run first arguments tables = body.run second arguments tables

/-- All functions of a registry see the time only. -/
def Registry.Timed (registry : Registry) : Prop :=
  ∀ function ∈ registry.functions, function.body.Timed

theorem Registry.timed_builtin : builtin.Timed := by
  intro function member first second arguments tables same
  rcases body_of_mem_builtin member with ⟨compute, body⟩ | body | body
  · rw [body]
    rfl
  · rw [body]
    simp only [FunctionBody.run, Dates.now, same]
  · rw [body]
    rfl

theorem Function.call_timed {function : Function} (timed : function.body.Timed)
    {first second : Scope} (same : first.settings.now = second.settings.now) (values : List Value)
    (tables : TableCache) :
    function.call first values tables = function.call second values tables := by
  simp only [call, timed _ tables same]

end DerivedFields

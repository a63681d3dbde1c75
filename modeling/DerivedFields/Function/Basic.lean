import DerivedFields.Function.Arguments
import DerivedFields.Scope
import DerivedFields.Table.Cache

/-!
# Functions

A function has a name, a number of arguments and a body. What the body may look at besides its
arguments is part of its form: nothing, what the script sees, or the lookup tables.
-/

namespace DerivedFields

inductive Category
  | conditional
  | string
  | numeric
  | formatting
  | dateTime
  | lookup
  | custom
  deriving DecidableEq

namespace Category

def label : Category → String
  | .conditional => "Conditional"
  | .string => "String"
  | .numeric => "Numeric"
  | .formatting => "Formatting"
  | .dateTime => "Date/Time"
  | .lookup => "Lookup"
  | .custom => "Custom"

/-- The place of a category in listings. -/
def rank : Category → Nat
  | .conditional => 0
  | .string => 1
  | .numeric => 2
  | .formatting => 3
  | .dateTime => 4
  | .lookup => 5
  | .custom => 6

end Category

/-- The body of a function, by what it may look at besides its arguments. -/
inductive FunctionBody
  | ofArguments (compute : Arguments → Except EvalError Value)
  | ofScope (compute : Scope → Arguments → Except EvalError Value)
  | ofTables (compute : Arguments → TableCache → Except EvalError Value × TableCache)

/-- Runs a body. Only one that looks at the tables changes which of them are loaded. -/
def FunctionBody.run (scope : Scope) (arguments : Arguments) (tables : TableCache) :
    FunctionBody → Except EvalError Value × TableCache
  | .ofArguments compute => (compute arguments, tables)
  | .ofScope compute => (compute scope arguments, tables)
  | .ofTables compute => compute arguments tables

structure Function where
  name : String
  arity : Arity
  category : Category
  body : FunctionBody

/-- Calls a function with values, if there are as many as it takes. -/
def Function.call (function : Function) (scope : Scope) (values : List Value)
    (tables : TableCache) : Except EvalError Value × TableCache :=
  if function.arity.accepts values.length then
    function.body.run scope ⟨function.name, values⟩ tables
  else (.error (.arity function.name function.arity values.length), tables)

end DerivedFields

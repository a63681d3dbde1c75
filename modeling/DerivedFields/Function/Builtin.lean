import DerivedFields.Function.Dates
import DerivedFields.Function.Formats
import DerivedFields.Function.Numbers
import DerivedFields.Function.Registry
import DerivedFields.Function.Strings

/-!
# Built-in functions

The functions that every evaluation starts with.
-/

namespace DerivedFields

/-- Chooses between two values. In a script the branch that is not chosen is not even evaluated. -/
def choose (arguments : Arguments) : Except EvalError Value := do
  if ← arguments.boolean 0 then arguments.value 1 else arguments.value 2

/-- A cell of a table, or else a default. A column below one is never looked up. -/
def lookup (arguments : Arguments) (tables : TableCache) :
    Except EvalError Value × TableCache :=
  match arguments.string 0, arguments.string 1, arguments.index 2 with
  | .ok key, .ok table, .ok column =>
    let default := (arguments.optionalString 3).getD ""
    if column < 1 then (.ok (.string default), tables)
    else match tables.get table with
      | (.ok found, tables) => (.ok (.string ((found.cell? key column.toNat).getD default)), tables)
      | (.error error, tables) => (.error error, tables)
  | .error error, _, _ | _, .error error, _ | _, _, .error error => (.error error, tables)

def builtinFunctions : List Function :=
  [⟨"If", .exact 3, .conditional, .ofArguments choose⟩] ++ Strings.functions ++
    Numbers.functions ++ Formats.functions ++ Dates.functions ++
    [⟨"Lookup", .range 3 4, .lookup, .ofTables lookup⟩]

def Registry.builtin : Registry := Registry.ofList builtinFunctions

end DerivedFields

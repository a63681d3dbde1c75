import DerivedFields.Fault
import DerivedFields.Value

/-!
# Arguments

The values of one call. A function asks for its arguments by index, and as text, number, integer,
position or condition; the accessor fails in the name of the function if the value is none.
-/

namespace DerivedFields

structure Arguments where
  function : String
  values : List Value

/-- An integer of 64 bits, signed. -/
def isInt64 (n : Int) : Bool := -0x8000000000000000 ≤ n && n < 0x8000000000000000

/-- How an error message shows a value that is no number. -/
def Value.describe : Value → String
  | .string text => "string '" ++ text ++ "'"
  | other => other.typeName

namespace Arguments

def count (arguments : Arguments) : Nat := arguments.values.length

/-- An argument. One that is missing is a fault of the number of arguments. -/
def value (arguments : Arguments) (index : Nat) : Except EvalError Value :=
  match arguments.values[index]? with
  | some value => .ok value
  | none => .error (.arity arguments.function (.atLeast (index + 1)) arguments.count)

def string (arguments : Arguments) (index : Nat) : Except EvalError String :=
  (arguments.value index).map Value.toText

/-- The characters of an argument. -/
def chars (arguments : Arguments) (index : Nat) : Except EvalError (List Char) :=
  (arguments.string index).map String.toList

/-- The text of an argument, if it is given. -/
def optionalString (arguments : Arguments) (index : Nat) : Option String :=
  arguments.values[index]?.map Value.toText

/-- The fault of an argument, positions being counted from one. -/
def typeFault (arguments : Arguments) (index : Nat) (expected found : String) : EvalError :=
  .type (.argument arguments.function (index + 1) expected found)

def number (arguments : Arguments) (index : Nat) : Except EvalError Decimal := do
  let value ← arguments.value index
  match value.asNumber? with
  | some number => .ok number
  | none => .error (arguments.typeFault index "numeric" value.describe)

/-- An integer of 64 bits; a fraction is a fault. -/
def integer (arguments : Arguments) (index : Nat) : Except EvalError Int := do
  let number ← arguments.number index
  if !number.isInteger then
    .error (arguments.typeFault index "an integer" number.canonicalText)
  else if isInt64 number.truncated then .ok number.truncated
  else .error (.range (.argumentTooLarge arguments.function (index + 1)))

/-- A position or count: the fraction is dropped, and a number beyond 64 bits is the nearest of
them. -/
def index (arguments : Arguments) (index : Nat) : Except EvalError Int :=
  (arguments.number index).map fun number => max (-0x8000000000000000) (min number.truncated 0x7fffffffffffffff)

def boolean (arguments : Arguments) (index : Nat) : Except EvalError Bool :=
  (arguments.value index).map Value.isTruthy

end Arguments

end DerivedFields

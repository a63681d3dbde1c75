import DerivedFields.Function.Basic
import DerivedFields.Number.Mask
import DerivedFields.Number.Words

/-!
# Formatting functions

Arguments for an input mask, a language or a country are taken but do not change the result.
-/

namespace DerivedFields.Formats

/-- Makes a function of its arguments. -/
def function (name : String) (arity : Arity) (compute : Arguments → Except EvalError Value) :
    Function :=
  ⟨name, arity, .formatting, .ofArguments compute⟩

def number (arguments : Arguments) : Except EvalError Value := do
  let input ← arguments.number 0
  let mask ← arguments.string 2
  .ok (.string (← maskNumber input mask))

def phoneNumber (arguments : Arguments) : Except EvalError Value := do
  let input ← arguments.string 0
  let mask ← arguments.string 1
  .ok (.string (← maskPhone input mask))

def words (arguments : Arguments) : Except EvalError Value := do
  let input ← arguments.number 0
  if input.isInteger then .ok (.string (← numberToWords input.truncated))
  else .error (.type (.wordsOperand input))

def functions : List Function := [
  function "MaskNumber" (.range 3 5) number,
  function "MaskPhoneNumber" (.exact 2) phoneNumber,
  function "NumberToWords" (.range 1 3) words]

end DerivedFields.Formats

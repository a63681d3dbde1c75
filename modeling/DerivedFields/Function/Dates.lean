import DerivedFields.Calendar.Mask
import DerivedFields.Function.Basic

/-!
# Date functions

Where no input mask is given, the supported masks are tried in order. Intervals keep the time of
day.
-/

namespace DerivedFields.Dates

/-- Makes a function of its arguments. -/
def function (name : String) (arity : Arity) (compute : Arguments → Except EvalError Value) :
    Function :=
  ⟨name, arity, .dateTime, .ofArguments compute⟩

/-- The result of a computation with dates. -/
def lift {α : Type} (result : Except DateFault α) : Except EvalError α :=
  result.mapError fun fault => .domain (.date fault)

/-- The mask in which shifted date-times are written. -/
def intervalMask : String := "dd-MM-yyyy hh:mm:ss.SSS"

/-- The unit that a word names, in any case and number. -/
def readUnit (word : String) : Except DateFault CalendarUnit :=
  match String.ofList (Text.lower (Text.trim word.toList)) with
  | "year" | "years" => .ok .year
  | "month" | "months" => .ok .month
  | "day" | "days" => .ok .day
  | _ => .error (.unknownUnit word)

/-- Writes a date-time with the mask of a text. -/
def write (mask : String) (value : DateTime) : Except EvalError Value := do
  .ok (.string ((← lift (DateMask.compile mask)).format value))

def maskDateTime (arguments : Arguments) : Except EvalError Value := do
  let input ← arguments.string 0
  if Text.allBlank input.toList then .ok (.string "")
  else
    let inputMask ← arguments.string 1
    let outputMask ← arguments.string 2
    if outputMask = "" then .error (.domain (.date .emptyOutputMask))
    else
      let value ←
        if inputMask = "" then lift (DateMask.autodetect input)
        else lift (do (← DateMask.compile inputMask).parse input)
      write outputMask value

/-- Writes the time that the settings give as the present. -/
def now (scope : Scope) (arguments : Arguments) : Except EvalError Value := do
  let mask ← lift (DateMask.compile (← arguments.string 0))
  match scope.settings.now with
  | some now => .ok (.string (mask.format now))
  | none => .error (.domain (.date .noClock))

def toDateTime (arguments : Arguments) : Except EvalError Value := do
  let value ← lift (DateMask.autodetect (← arguments.string 0))
  write (← arguments.string 1) value

/-- Shifts a date-time by an amount, which `adjust` may change. -/
def shift (adjust : Int → Except EvalError Int) (arguments : Arguments) :
    Except EvalError Value := do
  let value ← lift (DateMask.autodetect (← arguments.string 0))
  let unit ← lift (readUnit (← arguments.string 2))
  let amount ← adjust (← arguments.index 1)
  match value.addInterval? amount unit with
  | some shifted => write intervalMask shifted
  | none => .error (.range (.interval amount unit))

/-- The opposite amount; the least amount of all has none. -/
def opposite (amount : Int) : Except EvalError Int :=
  if isInt64 (-amount) then .ok (-amount) else .error (.range .subtractedInterval)

/-- Whole units from one date to another. -/
def unitsBetween (unit : CalendarUnit) (start finish : Date) : Int :=
  match unit with
  | .year => (start.monthsUntil finish).tdiv 12
  | .month => start.monthsUntil finish
  | .day => start.daysUntil finish

/-- Whole units between two dates given in the same supported mask. -/
def between (first second unit : String) : Except DateFault Int := do
  let unit ← readUnit unit
  match DateMask.common? first second with
  | none => .error .differentMasks
  | some mask =>
    if mask.isTimeOnly then .error (.timeOnly unit mask.source)
    else
      let start ← mask.parse first
      let finish ← mask.parse second
      .ok (unitsBetween unit start.date finish.date)

def duration (arguments : Arguments) : Except EvalError Value := do
  let first ← arguments.string 0
  let second ← arguments.string 1
  let unit ← arguments.string 2
  .ok (.numeric (Decimal.ofInt (← lift (between first second unit))))

def functions : List Function := [
  function "MaskDateTime" (.range 3 5) maskDateTime,
  ⟨"Now", .exact 1, .dateTime, .ofScope now⟩,
  function "ToDateTime" (.exact 2) toDateTime,
  function "AddInterval" (.exact 3) (shift .ok),
  function "SubtractInterval" (.exact 3) (shift opposite),
  function "Duration" (.exact 3) duration]

end DerivedFields.Dates

import DerivedFields.Function.Basic
import DerivedFields.Text.Position

/-!
# String functions

Positions are counted in characters from one. A position outside the text is no fault: it stands
for the nearest end, or nothing is found there.
-/

namespace DerivedFields.Strings

/-- Makes a function of its arguments. -/
def function (name : String) (arity : Arity) (compute : Arguments → Except EvalError Value) :
    Function :=
  ⟨name, arity, .string, .ofArguments compute⟩

def text (chars : List Char) : Value := .string (String.ofList chars)

/-- A position for an offset, and −1 for none. -/
def position (offset : Option Nat) : Value :=
  match offset with
  | some offset => .numeric (Decimal.ofInt (offset + 1))
  | none => .numeric Decimal.one.neg

def concat (arguments : Arguments) : Except EvalError Value :=
  .ok (.string (String.join (arguments.values.map Value.toText)))

def upperCase (arguments : Arguments) : Except EvalError Value := do
  .ok (text (Text.upper (← arguments.chars 0)))

def lowerCase (arguments : Arguments) : Except EvalError Value := do
  .ok (text (Text.lower (← arguments.chars 0)))

def titleCase (arguments : Arguments) : Except EvalError Value := do
  .ok (text (Text.titleCase (← arguments.chars 0)))

/-- With three arguments replaces all occurrences of a text, with four a range of positions. -/
def replace (arguments : Arguments) : Except EvalError Value := do
  let input ← arguments.chars 0
  if arguments.count = 3 then
    let search ← arguments.chars 1
    let replacement ← arguments.chars 2
    .ok (text (Text.replaceAll search replacement input))
  else
    let start ← arguments.index 1
    let count ← arguments.index 2
    let replacement ← arguments.chars 3
    .ok (text (Text.replaceRange input start count replacement))

/-- Removes blanks, or the characters of a set, from both ends. -/
def trim (arguments : Arguments) : Except EvalError Value := do
  let input ← arguments.chars 0
  match arguments.optionalString 1 with
  | none => .ok (text (Text.trim input))
  | some set => .ok (text (Text.stripWhile (fun c => set.toList.contains c) input))

def length (arguments : Arguments) : Except EvalError Value := do
  .ok (.numeric (Decimal.ofInt (← arguments.chars 0).length))

def insert (arguments : Arguments) : Except EvalError Value := do
  let input ← arguments.chars 0
  let position ← arguments.integer 1
  let inserted ← arguments.chars 2
  .ok (text (Text.insertAt (position - 1) inserted input))

/-- The first position behind a given one at which a text occurs. -/
def indexOf (arguments : Arguments) : Except EvalError Value := do
  let input ← arguments.chars 0
  let search ← arguments.chars 1
  let start ← if arguments.count ≤ 2 then .ok 0 else arguments.index 2
  .ok (position (Text.firstFrom? search input start.toNat))

/-- The last position, up to a given one, at which a text occurs. -/
def lastIndexOf (arguments : Arguments) : Except EvalError Value := do
  let input ← arguments.chars 0
  let search ← arguments.chars 1
  let start ← if arguments.count ≤ 2 then .ok (input.length : Int) else arguments.index 2
  let last := min start input.length
  .ok (position (if last < 1 then none else Text.lastUpTo? search input (last - 1).toNat))

def subString (arguments : Arguments) : Except EvalError Value := do
  let input ← arguments.chars 0
  let start ← arguments.index 1
  let behind := Text.substringFrom input start
  if behind.isEmpty || arguments.count ≤ 2 then .ok (text behind)
  else
    let count ← arguments.index 2
    .ok (text (behind.take count.toNat))

def subStringBefore (arguments : Arguments) : Except EvalError Value := do
  let input ← arguments.chars 0
  let separator ← arguments.chars 1
  .ok (text (Text.before separator input))

def subStringAfter (arguments : Arguments) : Except EvalError Value := do
  let input ← arguments.chars 0
  let separator ← arguments.chars 1
  .ok (text (Text.after separator input))

def functions : List Function := [
  function "Concat" (.atLeast 1) concat,
  function "UpperCase" (.exact 1) upperCase,
  function "LowerCase" (.exact 1) lowerCase,
  function "TitleCase" (.exact 1) titleCase,
  function "Replace" (.range 3 4) replace,
  function "Trim" (.range 1 2) trim,
  function "Length" (.exact 1) length,
  function "Insert" (.exact 3) insert,
  function "IndexOf" (.range 2 3) indexOf,
  function "LastIndexOf" (.range 2 3) lastIndexOf,
  function "SubString" (.range 2 3) subString,
  function "SubStringBefore" (.exact 2) subStringBefore,
  function "SubStringAfter" (.exact 2) subStringAfter]

end DerivedFields.Strings

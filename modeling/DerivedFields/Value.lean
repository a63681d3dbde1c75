import DerivedFields.Decimal.Literal
import DerivedFields.Text.Blank
import DerivedFields.Text.Case
import DerivedFields.Text.Digit

/-!
# Values

What a script evaluates to: a truth value, a decimal or a text. Text may be read as a number or as
a truth value; `asNumber?` and `isTruthy` say when.
-/

namespace DerivedFields

inductive Value
  | boolean (value : Bool)
  | numeric (value : Decimal)
  | string (text : String)
  deriving DecidableEq

/-- The text is a number literal: an optional sign, digits with an optional point, and an optional
exponent. Digits of every script are recognised here. -/
def isNumberLiteral (text : List Char) : Bool :=
  let unsigned := match text with
    | '+' :: rest | '-' :: rest => rest
    | _ => text
  let whole := unsigned.takeWhile Text.isDecimalDigit
  let afterWhole := unsigned.dropWhile Text.isDecimalDigit
  let (fraction, afterPoint) := match afterWhole with
    | '.' :: rest => (rest.takeWhile Text.isDecimalDigit, rest.dropWhile Text.isDecimalDigit)
    | _ => ([], afterWhole)
  (!whole.isEmpty || !fraction.isEmpty) &&
    match afterPoint with
    | [] => true
    | c :: rest =>
      let digits := match rest with
        | '+' :: rest | '-' :: rest => rest
        | _ => rest
      (c == 'e' || c == 'E') && !digits.isEmpty && digits.all Text.isDecimalDigit

/-- Reads text as a decimal. Blanks around it do not count, and blank text is zero. -/
def readNumber? (text : List Char) : Option Decimal :=
  let trimmed := Text.trim text
  if trimmed.isEmpty then some Decimal.zero
  else if !isNumberLiteral trimmed then none
  else
    let unsigned := match trimmed with
      | '+' :: rest => rest
      | _ => trimmed
    let base := unsigned.takeWhile fun c => c != 'e' && c != 'E'
    match unsigned.drop base.length with
    | [] => Decimal.ofText? base
    | _ :: exponent => Decimal.ofScientific? base exponent

namespace Value

/-- The name of the kind of value in error messages. -/
def typeName : Value → String
  | .boolean _ => "boolean"
  | .numeric _ => "numeric"
  | .string _ => "string"

/-- The text of a value: what is written into a document. -/
def toText : Value → String
  | .boolean true => "true"
  | .boolean false => "false"
  | .numeric value => value.canonicalText
  | .string text => text

/-- The value as a number. Truth values are none. -/
def asNumber? : Value → Option Decimal
  | .boolean _ => none
  | .numeric value => some value
  | .string text => readNumber? text.toList

/-- The value as a condition. Text counts as the truth value or number that it spells; other text
is true unless it is blank. -/
def isTruthy : Value → Bool
  | .boolean value => value
  | .numeric value => !value.isZero
  | .string text =>
    let trimmed := Text.trim text.toList
    if Text.equalsIgnoringCase (String.ofList trimmed) "true" then true
    else if Text.equalsIgnoringCase (String.ofList trimmed) "false" then false
    else match readNumber? trimmed with
      | some value => !value.isZero
      | none => !trimmed.isEmpty

/-- Text of blanks only. -/
def isBlank : Value → Bool
  | .string text => Text.allBlank text.toList
  | _ => false

end Value

end DerivedFields

import DerivedFields.Fault

/-!
# Number masks

A mask of zeros alone fixes the width of the result. Any other mask has a body of digit
placeholders, grouping commas and a point, with literal text before and behind it. The magnitude is
written; a minus sign anywhere in the mask keeps the sign.
-/

namespace DerivedFields

/-- Rounds half up so that at most `width` digits are left before the point, dropping low digits of
a longer integer part. -/
def roundToWidth (magnitude : Decimal) (width : Nat) : Except EvalError Decimal :=
  let digits := (Decimal.digitsOf magnitude.truncated.toNat).length
  let divisor? :=
    (List.range (digits - width)).foldlM (fun divisor _ => divisor.mul? Decimal.ten) Decimal.one
  match divisor? with
  | none => .error (.range .maskTooWide)
  | some divisor =>
    match if digits < width then some magnitude else magnitude.div? divisor with
    | none => .error (.range (.overflow .division))
    | some scaled => .ok ((scaled.round 0).normalize)

/-- What a mask says about a number, apart from its sign. -/
structure NumberMask where
  before : List Char
  behind : List Char
  /-- The fewest digits in front of the point. -/
  integerDigits : Nat
  /-- The digits between two commas, if there are commas. -/
  groupSize : Option Nat
  /-- The fewest and the most digits behind the point. -/
  fractionDigits : Nat × Nat
  percent : Bool
  deriving DecidableEq

/-- Literal text without its quotes; two quotes are one. -/
def unquote (literal : List Char) : List Char :=
  let marked := Text.replaceAll ['\'', '\''] ['\x00'] literal
  (marked.filter (· != '\'')).map fun c => if c = '\x00' then '\'' else c

def isPlaceholder (c : Char) : Bool := c == '#' || c == '0' || c == ',' || c == '.'

/-- The places of a part of a mask: one for an ASCII character, and for any other as many as it has
bytes in UTF-8. -/
def placesOf (part : List Char) : Nat := part.foldl (fun places c => places + c.utf8Size) 0

/-- The places behind the last comma, if there is a comma with something behind it. -/
def groupSize? (body : List Char) : Option Nat :=
  match Text.cutAtChar? (· == ',') body.reverse with
  | some (last, _) => if last.isEmpty then none else some (placesOf last)
  | none => none

namespace NumberMask

/-- Reads a mask without minus signs. Only what stands before a semicolon counts. -/
def parse (mask : List Char) : Except DomainFault NumberMask :=
  let mask := mask.takeWhile (· != ';')
  let before := mask.takeWhile (!isPlaceholder ·)
  let placeholders := Text.dropEndWhile (!isPlaceholder ·) (mask.drop before.length)
  let behind := mask.drop (before.length + placeholders.length)
  if placeholders.isEmpty then .error (.noPlaceholders (String.ofList mask))
  else
    let (integer, fraction) := (Text.cutAtChar? (· == '.') placeholders).getD (placeholders, [])
    if fraction.any fun c => c == '.' || c == ',' then
      .error (.malformedNumberMask (String.ofList mask))
    else .ok {
      before := unquote before
      behind := unquote behind
      integerDigits := integer.count '0'
      groupSize := groupSize? integer
      fractionDigits := (fraction.count '0', placesOf fraction)
      percent := before.contains '%' || behind.contains '%' }

/-- Drops zeros from the end of reversed digits while more than `fewest` are left. -/
def dropZeros (fewest : Nat) : List Char → List Char
  | [] => []
  | c :: digits =>
    if c = '0' && fewest < digits.length + 1 then dropZeros fewest digits else c :: digits

/-- Digits with a comma wherever a multiple of `size` digits follows. -/
def group (size : Nat) : List Char → List Char
  | [] => []
  | [digit] => [digit]
  | digit :: digits =>
    if digits.length % size = 0 then digit :: ',' :: group size digits
    else digit :: group size digits

/-- The digits before the point, without leading zeros but as many as the mask demands. -/
def integerText (mask : NumberMask) (rounded : Decimal) : List Char :=
  Decimal.padLeft mask.integerDigits
    ((Decimal.digitsOf (rounded.coefficient / Nat.pow 10 rounded.scale)).dropWhile (· == '0'))

/-- The digits behind the point, without trailing zeros but as many as the mask demands. -/
def fractionText (mask : NumberMask) (rounded : Decimal) : List Char :=
  let written :=
    if rounded.scale = 0 then []
    else Decimal.padLeft rounded.scale
      (Decimal.digitsOf (rounded.coefficient % Nat.pow 10 rounded.scale))
  let filled := written ++ List.replicate (mask.fractionDigits.2 - written.length) '0'
  (dropZeros mask.fractionDigits.1 filled.reverse).reverse

/-- Writes a magnitude that has been rounded. -/
def write (mask : NumberMask) (rounded : Decimal) : List Char :=
  let fraction := mask.fractionText rounded
  let integer := mask.integerText rounded
  let integer := if integer.isEmpty && fraction.isEmpty then ['0'] else integer
  let grouped := match mask.groupSize with
    | some size => group size integer
    | none => integer
  mask.before ++ grouped ++ (if fraction.isEmpty then [] else '.' :: fraction) ++ mask.behind

/-- Writes a magnitude: as a percentage if the mask says so, rounded half up. -/
def format (mask : NumberMask) (magnitude : Decimal) : Except EvalError (List Char) :=
  match if mask.percent then magnitude.mul? Decimal.oneHundred else some magnitude with
  | none => .error (.range .percentageOverflow)
  | some value => .ok (mask.write (value.round mask.fractionDigits.2))

end NumberMask

/-- Writes a number with a mask. -/
def maskNumber (input : Decimal) (mask : String) : Except EvalError String := do
  let chars := mask.toList
  if chars.isEmpty then .error (.domain .emptyNumberMask)
  else if chars.all (· == '0') then
    let rounded ← roundToWidth input.abs chars.length
    .ok (String.ofList (Decimal.padLeft chars.length rounded.toText.toList))
  else
    let pattern ← (NumberMask.parse (chars.filter (· != '-'))).mapError .domain
    let body ← pattern.format input.abs
    if chars.contains '-' && input.negative && !input.isZero then
      .ok (String.ofList ('-' :: body))
    else .ok (String.ofList body)

/-- Puts digits, from left to right, in the place of the number signs of a mask. -/
def fillPlaceholders : List Char → List Char → List Char
  | '#' :: mask, digit :: digits => digit :: fillPlaceholders mask digits
  | c :: mask, digits => c :: fillPlaceholders mask digits
  | [], _ => []

/-- Writes the digits of a text with a mask that has a number sign for each. -/
def maskPhone (input mask : String) : Except EvalError String :=
  let digits := input.toList.filter Text.isDecimalDigit
  let needed := mask.toList.count '#'
  if digits.length = needed then .ok (String.ofList (fillPlaceholders mask.toList digits))
  else .error (.domain (.phoneDigits digits.length needed))

end DerivedFields

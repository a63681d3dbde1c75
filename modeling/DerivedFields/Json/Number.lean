import DerivedFields.Json.Basic
import DerivedFields.Binary64.Shortest
import DerivedFields.Decimal.Literal

/-!
# JSON numbers

An integer literal of 64 bits is read exactly. Any other literal is read as its leading digits, as
many as fit 64 bits, times a power of ten; the two are rounded to binary numbers one after the
other, so the last bit may differ from the literal's nearest number.

An integer is written as such. A binary number is written with its shortest digits, positionally
when its first digit stands between the fifth place behind the point and the sixteenth before it.
-/

namespace DerivedFields.JsonNumber

/-- One more than the greatest significand that is read digit by digit. -/
def significandLimit : Nat := 0x10000000000000000

/-- Appends digits to a significand as long as it has at most 64 bits; the second part counts the
digits taken. -/
def takeDigits (significand : Nat) : List Nat → Nat × Nat
  | [] => (significand, 0)
  | digit :: digits =>
    if significand * 10 + digit < significandLimit then
      let (result, taken) := takeDigits (significand * 10 + digit) digits
      (result, taken + 1)
    else (significand, 0)

/-- A number times a power of ten, by one multiplication or by divisions. -/
def timesTenTo (value : Binary64) (exponent : Int) : Option Binary64 := do
  if exponent.natAbs ≤ 308 then
    let power ← Binary64.tenTo? exponent.natAbs
    if 0 ≤ exponent then value.mul? power else value.div? power
  else if value.significand = 0 then some value
  else if 0 ≤ exponent then none
  else
    let power ← Binary64.tenTo? 308
    timesTenTo (← value.div? power) (exponent + 308)
termination_by (-exponent).toNat

/-- A number literal in parts. -/
structure Literal where
  negative : Bool
  whole : List Nat
  fraction : Option (List Nat)
  /-- The sign of the exponent and its digits. -/
  exponent : Option (Bool × List Nat)

/-- The natural number with these digits. -/
def ofDigits (digits : List Nat) : Nat := digits.foldl (fun n digit => n * 10 + digit) 0

/-- The greatest exponent that is taken at face value. -/
def exponentLimit : Nat := 0x7fffffff

/-- The binary number that a literal is read as; `none` if it is too large. -/
def Literal.toReal? (literal : Literal) : Option Binary64 := do
  let (leading, taken) := takeDigits 0 literal.whole
  let (significand, places) := takeDigits leading (literal.fraction.getD [])
  let start : Int := ((literal.whole.length - taken : Nat) : Int) - places
  let signed (value : Binary64) : Binary64 := { value with negative := literal.negative }
  match literal.exponent with
  | none =>
    let value ← Binary64.nearest? false significand 1
    signed <$> timesTenTo value start
  | some (exponentNegative, digits) =>
    let exponent := ofDigits digits
    if exponentLimit < exponent then
      if significand ≠ 0 ∧ !exponentNegative then none
      else some (Binary64.zero literal.negative)
    else
      let value ← Binary64.nearest? false significand 1
      signed <$> timesTenTo value (if exponentNegative then start - exponent else start + exponent)

/-- The number that a literal stands for; `none` if it is too large. -/
def Literal.toNumber? (literal : Literal) : Option JsonNumber :=
  let n := ofDigits literal.whole
  match literal.fraction, literal.exponent with
  | none, none =>
    if !literal.negative && n < 0x10000000000000000 then some (.integer n)
    else if literal.negative && 0 < n && n ≤ 0x8000000000000000 then some (.integer (-n))
    else .real <$> literal.toReal?
  | _, _ => .real <$> literal.toReal?

/-- Where positional notation of binary numbers begins and ends: the exponents of the first digit
that are written without an exponent. -/
def positionalRange : Int × Int := (-5, 15)

/-- The text of a binary number. -/
def realText (value : Binary64) : List Char :=
  let sign := if value.negative then ['-'] else []
  let (digits, power) := value.shortest
  let text := Nat.toDigits 10 digits
  let leading := power + text.length - 1
  if digits = 0 then sign ++ ['0', '.', '0']
  else if positionalRange.1 ≤ leading && leading ≤ positionalRange.2 then
    sign ++
      if 0 ≤ power then text ++ List.replicate power.toNat '0' ++ ['.', '0']
      else if 0 ≤ leading then
        text.take (leading.toNat + 1) ++ '.' :: text.drop (leading.toNat + 1)
      else ['0', '.'] ++ List.replicate ((-leading).toNat - 1) '0' ++ text
  else
    let mantissa := match text with
      | [] => []
      | [digit] => [digit]
      | first :: rest => first :: '.' :: rest
    let exponentSign := if 0 ≤ leading then '+' else '-'
    sign ++ mantissa ++ 'e' :: exponentSign :: Nat.toDigits 10 leading.natAbs

/-- The text of an integer. -/
def integerText (n : Int) : List Char :=
  (if n < 0 then ['-'] else []) ++ Nat.toDigits 10 n.natAbs

def toText : JsonNumber → List Char
  | .integer value => integerText value
  | .real value => realText value

end DerivedFields.JsonNumber

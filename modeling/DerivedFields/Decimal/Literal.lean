import DerivedFields.Decimal.Arithmetic

/-!
# Decimals as text

Writing never uses an exponent. Reading takes an optional sign, digits and at most one point, all of
them ASCII. Digits that do not fit are rounded half up in magnitude at the first one left out; those
behind it do not change the number, but they must be digits. `ofScientific?` also moves the point by
an exponent.
-/

namespace DerivedFields.Decimal

/-- The digits of a natural number. -/
def digitsOf (n : Nat) : List Char := Nat.toDigits 10 n

/-- Digits with zeros in front up to a width. -/
def padLeft (width : Nat) (digits : List Char) : List Char :=
  List.replicate (width - digits.length) '0' ++ digits

/-- The magnitude with exactly `scale` fraction digits. -/
def magnitudeText (coefficient scale : Nat) : List Char :=
  if scale = 0 then digitsOf coefficient
  else
    digitsOf (coefficient / Nat.pow 10 scale) ++
      '.' :: padLeft scale (digitsOf (coefficient % Nat.pow 10 scale))

/-- All digits of the scale, trailing zeros included. -/
def toText (d : Decimal) : String :=
  String.ofList ((if d.negative then ['-'] else []) ++ magnitudeText d.coefficient d.scale)

/-- The shortest text without exponent: no trailing zeros, no sign on zero. -/
def canonicalText (d : Decimal) : String := d.normalize.toText

/-- Ends a literal at the digit that no longer fits: five and above round the coefficient up. -/
def roundLast? (negative : Bool) (coefficient scale digit : Nat) : Option Decimal :=
  if digit < 5 then make? negative coefficient scale
  else if coefficient + 1 < limit then make? negative (coefficient + 1) scale
  else if scale = 0 then none
  else make? negative ((coefficient + 5) / 10) (scale - 1)

/-- Reads digits behind those already taken. `point` tells that the point was passed and `any` that
there was a digit. -/
def readDigits? (negative point any : Bool) (coefficient scale : Nat) : List Char → Option Decimal
  | [] => if any then make? negative coefficient scale else none
  | c :: rest =>
    if c = '.' && !point then readDigits? negative true any coefficient scale rest
    else if c.isDigit then
      let digit := c.toNat - '0'.toNat
      if coefficient * 10 + digit < limit && !(point && maxScale ≤ scale) then
        readDigits? negative point true (coefficient * 10 + digit)
          (if point then scale + 1 else 0) rest
      else if point && rest.all Char.isDigit then roundLast? negative coefficient scale digit
      else none
    else none

/-- Reads a decimal without exponent. -/
def ofText? : List Char → Option Decimal
  | '-' :: rest => readDigits? true false false 0 0 rest
  | '+' :: rest => readDigits? false false false 0 0 rest
  | text => readDigits? false false false 0 0 text

/-- A count written in ASCII digits. -/
def readCount? : List Char → Option Nat
  | [] => none
  | digits =>
    if digits.all Char.isDigit then
      some (digits.foldl (fun count c => count * 10 + (c.toNat - '0'.toNat)) 0)
    else none

/-- Moves the point of a decimal `exponent` places to the left. -/
def shiftLeft? (d : Decimal) (exponent : Nat) : Option Decimal :=
  if bound : d.scale + exponent ≤ 28 then
    some { d with scale := d.scale + exponent, scale_le := bound }
  else none

/-- Moves the point of a decimal `exponent` places to the right. -/
def shiftRight? (d : Decimal) (exponent : Nat) : Option Decimal :=
  if exponent ≤ d.scale then
    some { d with scale := d.scale - exponent, scale_le := by have := d.scale_le; omega }
  else if maxScale < exponent then none
  else make? d.negative (d.coefficient * Nat.pow 10 (exponent - d.scale)) 0

/-- Reads a decimal with an exponent behind `e` or `E`. -/
def ofScientific? (base exponent : List Char) : Option Decimal := do
  let d ← ofText? base
  match exponent with
  | '-' :: digits => d.shiftLeft? (← readCount? digits)
  | '+' :: digits => d.shiftRight? (← readCount? digits)
  | digits => d.shiftRight? (← readCount? digits)

end DerivedFields.Decimal

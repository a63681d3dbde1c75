import DerivedFields.Calendar.Field
import DerivedFields.Text.Search

/-!
# ISO date-times

The text of a date-time in a configuration: date, `T` and time, the fraction of a second in no,
three, six or nine digits. Reading takes any fraction and allows blanks between the parts.
-/

namespace DerivedFields.DateTime

/-- The fewest digits that hold a fraction of a second, in groups of three. -/
def fractionText (fraction : Nat) : List Char :=
  if fraction = 0 then []
  else if fraction % 1000000 = 0 then '.' :: DateField.padded 3 (fraction / 1000000)
  else if fraction % 1000 = 0 then '.' :: DateField.padded 6 (fraction / 1000)
  else '.' :: DateField.padded 9 fraction

def toIso (value : DateTime) : String :=
  String.ofList <|
    DateField.yearText value.date.year ++ '-' :: DateField.padded 2 value.date.month ++
      '-' :: DateField.padded 2 value.date.day ++ 'T' :: DateField.padded 2 value.time.hour ++
      ':' :: DateField.padded 2 value.time.minute ++
      ':' :: DateField.padded 2 value.time.shownSecond ++ fractionText value.time.fraction

/-- Reads a year behind any blanks. With a sign it may have any number of digits. -/
def readYear? (text : List Char) : Option (Int × List Char) :=
  match Text.trimStart text with
  | '-' :: rest =>
    let digits := rest.takeWhile Char.isDigit
    (Decimal.readCount? digits).map fun n => (-(n : Int), rest.drop digits.length)
  | '+' :: rest =>
    let digits := rest.takeWhile Char.isDigit
    (Decimal.readCount? digits).map fun n => ((n : Int), rest.drop digits.length)
  | rest => (DateField.readDigits? 4 rest).map fun (n, behind) => ((n : Int), behind)

/-- Drops blanks and one character. -/
def dropMark? (mark : Char) (text : List Char) : Option (List Char) :=
  Text.dropPrefix? [mark] (Text.trimStart text)

/-- Reads an optional fraction of a second: nine digits count and the others are dropped. -/
def readOptionalFraction? (text : List Char) : Option (Option Nat × List Char) :=
  match text with
  | '.' :: rest =>
    let digits := (rest.take 9).takeWhile Char.isDigit
    (Decimal.readCount? digits).map fun n =>
      (some (n * Nat.pow 10 (9 - digits.length)), (rest.drop digits.length).dropWhile Char.isDigit)
  | _ => some (none, text)

/-- Reads the text of a date-time. -/
def ofIso? (text : String) : Option DateTime := do
  let (year, rest) ← readYear? text.toList
  let (month, rest) ← DateField.readNumber? 2 (← dropMark? '-' rest)
  let (day, rest) ← DateField.readNumber? 2 (← dropMark? '-' rest)
  let (hour, rest) ← DateField.readNumber? 2 (← dropMark? 'T' rest)
  let (minute, rest) ← DateField.readNumber? 2 (← dropMark? ':' rest)
  let (second, rest) ← DateField.readNumber? 2 (← dropMark? ':' rest)
  let (fraction, rest) ← readOptionalFraction? rest
  let parts ← DateParts.none.setYear? year
  let parts ← parts.setMonth? month
  let parts ← parts.setDay? day
  let parts ← parts.setHour? hour
  let parts ← parts.setMinute? minute
  let parts ← parts.setSecond? second
  let parts := { parts with nanosecond := fraction }
  if (Text.trimStart rest).isEmpty then parts.dateTime? else none

end DerivedFields.DateTime

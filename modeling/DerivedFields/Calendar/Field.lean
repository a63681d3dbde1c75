import DerivedFields.Calendar.Names
import DerivedFields.Calendar.Parts
import DerivedFields.Decimal.Literal
import DerivedFields.Text.Blank
import DerivedFields.Text.Digit
import DerivedFields.Text.Letter

/-!
# Fields of a date mask

A field is a run of one letter in a mask. It says three things: which texts have its form, what
such a text means, and how it is written. The form is checked before the meaning, since reading
alone would take shorter numbers and blanks in front of them.
-/

namespace DerivedFields

inductive DateField
  | year (padded : Bool)
  | yearOfCentury
  | month (padded : Bool)
  | monthName (full : Bool)
  | day (padded : Bool)
  | weekday (full : Bool)
  | hour (padded : Bool)
  | clockHour (padded : Bool)
  | minute (padded : Bool)
  | second (padded : Bool)
  | fraction (places : Nat)
  | halfDay
  deriving DecidableEq

namespace DateField

/-- The field that a letter repeated so often stands for. -/
def ofRun? (letter : Char) (count : Nat) : Option DateField :=
  match letter, count with
  | 'y', 1 => some (.year false)
  | 'y', 2 => some .yearOfCentury
  | 'y', _ => some (.year true)
  | 'M', 1 => some (.month false)
  | 'M', 2 => some (.month true)
  | 'M', 3 => some (.monthName false)
  | 'M', _ => some (.monthName true)
  | 'd', 1 => some (.day false)
  | 'd', 2 => some (.day true)
  | 'E', 1 | 'E', 2 | 'E', 3 => some (.weekday false)
  | 'E', _ => some (.weekday true)
  | 'H', 1 => some (.hour false)
  | 'H', 2 => some (.hour true)
  | 'h', 1 => some (.clockHour false)
  | 'h', 2 => some (.clockHour true)
  | 'm', 1 => some (.minute false)
  | 'm', 2 => some (.minute true)
  | 's', 1 => some (.second false)
  | 's', 2 => some (.second true)
  | 'S', 3 => some (.fraction 3)
  | 'S', 6 => some (.fraction 6)
  | 'S', 9 => some (.fraction 9)
  | 'a', 1 => some .halfDay
  | _, _ => none

/-- The field in the notation of percent signs. -/
def percentText : DateField → String
  | .year _ => "%Y"
  | .yearOfCentury => "%y"
  | .month padded => if padded then "%m" else "%-m"
  | .monthName full => if full then "%B" else "%b"
  | .day padded => if padded then "%d" else "%-d"
  | .weekday full => if full then "%A" else "%a"
  | .hour padded => if padded then "%H" else "%-H"
  | .clockHour padded => if padded then "%I" else "%-I"
  | .minute padded => if padded then "%M" else "%-M"
  | .second padded => if padded then "%S" else "%-S"
  | .fraction places => "%" ++ toString places ++ "f"
  | .halfDay => "%p"

/-- Part of the date, not of the time of day. -/
def isDatePart : DateField → Bool
  | .year _ | .yearOfCentury | .month _ | .monthName _ | .day _ | .weekday _ => true
  | _ => false

/-- Digits of any script, as many as allowed. -/
def admitsDigits (fewest most : Nat) (text : List Char) : Bool :=
  fewest ≤ text.length && text.length ≤ most && text.all Text.isDecimalDigit

/-- A three letter name, or a full name of any length. -/
def admitsName (full : Bool) (text : List Char) : Bool :=
  (if full then 1 ≤ text.length else text.length == 3) && text.all Text.isLetter

/-- The text has the form of the field. -/
def admits : DateField → List Char → Bool
  | .year padded => admitsDigits (if padded then 4 else 1) 4
  | .yearOfCentury => admitsDigits 2 2
  | .month padded | .day padded | .hour padded | .clockHour padded | .minute padded
  | .second padded => admitsDigits (if padded then 2 else 1) 2
  | .monthName full | .weekday full => admitsName full
  | .fraction places => admitsDigits places places
  | .halfDay => fun text => text.map Char.toLower == ['a', 'm'] || text.map Char.toLower == ['p', 'm']

/-- Reads ASCII digits at the start of the text, at least one and at most `width`. -/
def readDigits? (width : Nat) (text : List Char) : Option (Nat × List Char) :=
  let digits := (text.take width).takeWhile Char.isDigit
  (Decimal.readCount? digits).map fun n => (n, text.drop digits.length)

/-- Reads a number behind any blanks. -/
def readNumber? (width : Nat) (text : List Char) : Option (Nat × List Char) :=
  readDigits? width (Text.trimStart text)

/-- Reads exactly `places` digits of a fraction of a second as nanoseconds. -/
def readFraction? (places : Nat) (text : List Char) : Option (Nat × List Char) :=
  let digits := text.take places
  if digits.length = places then
    (Decimal.readCount? digits).map fun n => (n * Nat.pow 10 (9 - places), text.drop places)
  else none

/-- Reads `AM` or `PM`. -/
def readHalf? (text : List Char) : Option (Nat × List Char) :=
  match Calendar.dropWord? "am" text with
  | some rest => some (0, rest)
  | none => (Calendar.dropWord? "pm" text).map ((1, ·))

/-- Reads the field at the start of the text: its number, and the text behind it. -/
def readValue? : DateField → List Char → Option (Nat × List Char)
  | .year _ => readNumber? 4
  | .yearOfCentury | .month _ | .day _ | .hour _ | .clockHour _ | .minute _ | .second _ =>
    readNumber? 2
  | .monthName full => Calendar.readName? full Calendar.months
  | .weekday full => Calendar.readName? full Calendar.weekdays
  | .fraction places => readFraction? places
  | .halfDay => readHalf?

/-- Adds the number read for the field to the parts. -/
def record? (parts : DateParts) : DateField → Nat → Option DateParts
  | .year _, n => parts.setYear? n
  | .yearOfCentury, n => parts.setYearOfCentury? n
  | .month _, n => parts.setMonth? n
  | .monthName _, n => parts.setMonth? (n + 1)
  | .day _, n => parts.setDay? n
  | .weekday _, n => parts.setWeekday? n
  | .hour _, n => parts.setHour? n
  | .clockHour _, n => parts.setClockHour? n
  | .minute _, n => parts.setMinute? n
  | .second _, n => parts.setSecond? n
  | .fraction _, n => parts.setNanosecond? n
  | .halfDay, n => parts.setHalf? n

/-- Reads the field into the parts. -/
def read? (field : DateField) (parts : DateParts) (text : List Char) :
    Option (DateParts × List Char) := do
  let (n, rest) ← field.readValue? text
  some (← record? parts field n, rest)

/-- A number with zeros in front up to a width. -/
def padded (width n : Nat) : List Char := Decimal.padLeft width (Decimal.digitsOf n)

/-- A year in four digits; one that needs more, or is negative, has a sign. -/
def yearText (year : Int) : List Char :=
  if 0 ≤ year ∧ year ≤ 9999 then padded 4 year.toNat
  else (if year < 0 then '-' else '+') :: padded 4 year.natAbs

/-- How the field is written. -/
def write (value : DateTime) : DateField → List Char
  | .year _ => yearText value.date.year
  | .yearOfCentury => padded 2 (value.date.year % 100).toNat
  | .month isPadded => padded (if isPadded then 2 else 1) value.date.month
  | .monthName full => Calendar.nameText full Calendar.months (value.date.month - 1)
  | .day isPadded => padded (if isPadded then 2 else 1) value.date.day
  | .weekday full => Calendar.nameText full Calendar.weekdays value.date.weekday
  | .hour isPadded => padded (if isPadded then 2 else 1) value.time.hour
  | .clockHour isPadded => padded (if isPadded then 2 else 1) value.time.clockHour
  | .minute isPadded => padded (if isPadded then 2 else 1) value.time.minute
  | .second isPadded => padded (if isPadded then 2 else 1) value.time.shownSecond
  | .fraction places => padded places (value.time.fraction / Nat.pow 10 (9 - places))
  | .halfDay => if value.time.hour < 12 then ['A', 'M'] else ['P', 'M']

end DateField

end DerivedFields

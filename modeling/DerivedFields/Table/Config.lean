import DerivedFields.Fault
import DerivedFields.Text.Blank
import DerivedFields.Text.Case
import DerivedFields.Text.Search

/-!
# Table configurations

The configuration of a lookup table is a text of properties, a key and a value on each line. The
last assignment of a key counts. A flag that is left out is on, and any value but `true` turns it
off.
-/

namespace DerivedFields

/-- How the rows of a table are read. Columns are counted from one. -/
structure TableConfig where
  keyColumn : Nat
  hasHeader : Bool
  trimCells : Bool
  caseSensitive : Bool
  deriving DecidableEq

namespace TableConfig

/-- The key and the value on a line; nothing for a comment or a blank line. -/
def property? (line : List Char) : Option (String × String) :=
  match Text.trimStart line with
  | [] | '#' :: _ | '!' :: _ => none
  | content =>
    match Text.cutAtChar? (fun c => c == '=' || c == ':') content with
    | some (key, value) =>
      some (String.ofList (Text.trimEnd key), String.ofList (Text.trimStart value))
    | none => some (String.ofList (Text.trimEnd content), "")

/-- The assignments of a text, the last one first. -/
def properties (text : String) : List (String × String) :=
  ((Text.lines text).filterMap property?).reverse

/-- A flag: on unless another value than `true` is assigned. -/
def flag (properties : List (String × String)) (key : String) : Bool :=
  match properties.lookup key with
  | some value => Text.equalsIgnoringCase (String.ofList (Text.trim value.toList)) "true"
  | none => true

/-- An integer of 64 bits in ASCII digits, possibly with a sign. -/
def readInteger? (text : List Char) : Option Int :=
  let value? : Option Int := match text with
    | '-' :: digits => (Decimal.readCount? digits).map fun n => -(n : Int)
    | '+' :: digits => (Decimal.readCount? digits).map fun n => (n : Int)
    | digits => (Decimal.readCount? digits).map fun n => (n : Int)
  value?.filter fun n => -0x8000000000000000 ≤ n && n < 0x8000000000000000

def parse (text : String) : Except TableFault TableConfig :=
  let assigned := properties text
  match assigned.lookup "primaryKeyColumnIndex" with
  | none => .error .missingKey
  | some value =>
    match readInteger? (Text.trim value.toList) with
    | none => .error .badColumn
    | some column =>
      if column < 1 then .error .columnTooSmall
      else .ok {
        keyColumn := column.toNat
        hasHeader := flag assigned "hasHeader"
        trimCells := flag assigned "trimCells"
        caseSensitive := flag assigned "caseSensitive" }

/-- The form in which keys are compared. -/
def normalizeKey (config : TableConfig) (key : String) : String :=
  let trimmed := if config.trimCells then Text.trim key.toList else key.toList
  String.ofList (if config.caseSensitive then trimmed else Text.lower trimmed)

end TableConfig

end DerivedFields

import DerivedFields.Json.Writer
import DerivedFields.Path

/-!
# Fields of a JSON document

Reading follows a path through objects and arrays. Writing goes through objects only and creates
the ones that are missing. JSON has no attributes: they read as members at most, and are never
written.

A write that fails keeps the objects that it created on the way.
-/

namespace DerivedFields

/-- Why a value cannot be written into a document. -/
inductive WriteFault
  | cannotDescend (segment : PathSegment)
  | parentNotObject (name : String)
  | attributeInJson (name : String)
  deriving DecidableEq

def WriteFault.message : WriteFault → String
  | .cannotDescend segment =>
    "cannot descend into '" ++ segment.toText ++ "': parent is not an object"
  | .parentNotObject name => "cannot write '" ++ name ++ "': parent is not an object"
  | .attributeInJson name => "cannot write attribute '@" ++ name ++ "' into a JSON document"

namespace Json

/-- The text that a script reads: containers as compact text, null as nothing. -/
def fieldText : Json → String
  | .null => ""
  | .boolean value => if value then "true" else "false"
  | .number value => String.ofList value.toText
  | .string text => text
  | container => container.toCompactText

/-- The index that a path segment spells: ASCII digits, possibly after a plus sign. -/
def index? (name : String) : Option Nat :=
  match name.toList with
  | '+' :: digits => Decimal.readCount? digits
  | digits => Decimal.readCount? digits

/-- One step of a path. An attribute step finds a member only when reading is lenient. -/
def step? (lenient : Bool) : PathSegment → Json → Option Json
  | .element name, .object members => member? name members
  | .element name, .array items => (index? name).bind (items[·]?)
  | .attribute name, .object members => if lenient then member? name members else none
  | _, _ => none

/-- The text at a path; nothing if a step is missing. -/
def textAt (lenient : Bool) : List PathSegment → Json → String
  | [], json => json.fieldText
  | segment :: rest, json =>
    match step? lenient segment json with
    | some next => textAt lenient rest next
    | none => ""

/-- The members to write below: those of an object, or none yet if there is nothing or null. -/
def membersBelow? : Option Json → Option (List (String × Json))
  | none | some .null => some []
  | some (.object members) => some members
  | some _ => none

/-- The fault of a path that continues below something that is no object. -/
def refusal : List PathSegment → WriteFault
  | [.attribute name] => .attributeInJson name
  | [.element name] => .parentNotObject name
  | segment :: _ => .cannotDescend segment
  | [] => .parentNotObject ""

/-- Writes text at a path below an object, and tells whether that failed. -/
def writeAt (text : String) :
    List PathSegment → List (String × Json) → List (String × Json) × Option WriteFault
  | [], members => (members, none)
  | [.element name], members => (setMember name (.string text) members, none)
  | [.attribute name], members => (members, some (.attributeInJson name))
  | parent :: next :: rest, members =>
    match membersBelow? (member? parent.name members) with
    | some inner =>
      let (written, fault) := writeAt text (next :: rest) inner
      (setMember parent.name (.object written) members, fault)
    | none => (members, some (refusal (next :: rest)))

end Json

end DerivedFields

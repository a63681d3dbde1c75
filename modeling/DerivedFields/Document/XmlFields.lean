import DerivedFields.Path
import DerivedFields.Xml.Basic

/-!
# Fields of an XML document

A path starts below the document element; a first segment that names the document element may be
there as well. Each element step takes the first child of that name. An attribute ends a path.
Every write succeeds, since missing elements are created.
-/

namespace DerivedFields.XmlElement

/-- The segments below the document element. -/
def belowRoot (root : XmlElement) : List PathSegment → List PathSegment
  | .element name :: rest => if name = root.name then rest else .element name :: rest
  | segments => segments

/-- The text of an attribute; a lenient reader also takes the child element of that name. -/
def attributeText (lenient : Bool) (name : String) (element : XmlElement) : String :=
  match element.attribute? name with
  | some value => value
  | none => if lenient then ((element.child? name).map text).getD "" else ""

/-- The text at a path below an element; nothing if a step is missing. -/
def textBelow (lenient : Bool) : List PathSegment → XmlElement → String
  | [], element => element.text
  | .element name :: rest, element =>
    match element.child? name with
    | some child => textBelow lenient rest child
    | none => ""
  | [.attribute name], element => element.attributeText lenient name
  | .attribute _ :: _ :: _, _ => ""

/-- The text at a path of the document with this document element. -/
def textAt (lenient : Bool) (segments : List PathSegment) (root : XmlElement) : String :=
  root.textBelow lenient (root.belowRoot segments)

/-- Writes text at a path below an element. -/
def writeBelow (text : String) : List PathSegment → XmlElement → XmlElement
  | [], element => element.withText text
  | [.attribute name], element => element.withAttribute name text
  | segment :: rest, element => element.withChild segment.name (writeBelow text rest)

/-- Writes text at a path of the document with this document element. -/
def writeAt (text : String) (segments : List PathSegment) (root : XmlElement) : XmlElement :=
  root.writeBelow text (root.belowRoot segments)

end DerivedFields.XmlElement

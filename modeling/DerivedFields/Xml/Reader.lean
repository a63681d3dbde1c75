import DerivedFields.Text.Blank
import DerivedFields.Xml.Basic
import DerivedFields.Xml.Markup

/-!
# Reading XML

The document element is built on a stack of open elements. Text of blanks only is dropped from an
element that has child elements, so indentation is no content. Skipped markup splits the text
around it into two nodes.
-/

namespace DerivedFields.Xml

/-- Why a text is no XML document. -/
inductive Fault
  | malformed
  | multipleRoots
  | textOutside
  | cdataOutside
  | unclosed
  | noElement
  deriving DecidableEq

/-- An element whose end has not been read; its children are in reverse. -/
structure OpenElement where
  name : List Char
  attributes : List (String × String)
  reversed : List XmlNode

/-- Text of blanks only. -/
def isIndentation : XmlNode → Bool
  | .text content => Text.allBlank content.toList
  | .element _ | .cdata _ => false

/-- Indentation is dropped beside child elements. -/
def contentOf (children : List XmlNode) : List XmlNode :=
  if children.any XmlNode.isElement then children.filter (!isIndentation ·) else children

def OpenElement.close (element : OpenElement) : XmlElement :=
  .mk (String.ofList element.name) element.attributes (contentOf element.reversed.reverse)

/-- The elements that are open, innermost first, and the document element once it is complete. -/
structure Building where
  stack : List OpenElement
  root : Option XmlElement

namespace Building

/-- Adds a node to the innermost open element; `outside` answers if there is none. -/
def add (node : XmlNode) (outside : Except Fault Building) (building : Building) :
    Except Fault Building :=
  match building.stack with
  | parent :: stack =>
    .ok { building with stack := { parent with reversed := node :: parent.reversed } :: stack }
  | [] => outside

/-- Adds a complete element. Outside all others it is the document element. -/
def addElement (element : XmlElement) (building : Building) : Except Fault Building :=
  building.add (.element element) <|
    if building.root.isSome then .error .multipleRoots
    else .ok { building with root := some element }

/-- Adds the text between two pieces of markup. -/
def addText (raw : List Char) (building : Building) : Except Fault Building :=
  if raw.isEmpty then .ok building
  else match unescape? raw with
    | none => .error .malformed
    | some text =>
      building.add (.text text) <|
        if Text.allBlank text.toList then .ok building else .error .textOutside

/-- Follows one piece of markup. -/
def addMarkup (building : Building) : Markup → Except Fault Building
  | .skipped => .ok building
  | .cdata text => building.add (.cdata (String.ofList text)) (.error .cdataOutside)
  | .opening name attributes =>
    .ok { building with stack := ⟨name, attributes, []⟩ :: building.stack }
  | .empty name attributes => building.addElement (.mk (String.ofList name) attributes [])
  | .closing name =>
    match building.stack with
    | element :: stack =>
      if element.name = name then { building with stack }.addElement element.close
      else .error .malformed
    | [] => .error .malformed

/-- The document element at the end of the text. -/
def finish (building : Building) : Except Fault XmlElement :=
  if !building.stack.isEmpty then .error .unclosed
  else match building.root with
    | some root => .ok root
    | none => .error .noElement

end Building

/-- Reads the rest of a document. -/
def readFrom (building : Building) (input : List Char) : Except Fault XmlElement :=
  match building.addText (input.takeWhile (· != '<')) with
  | .error fault => .error fault
  | .ok building =>
    match start : input.dropWhile (· != '<') with
    | [] => building.finish
    | bracket :: rest =>
      match markup : readMarkup? rest with
      | none => .error .malformed
      | some (found, behind) =>
        have shorter : behind.length < input.length :=
          calc behind.length ≤ rest.length := readMarkup?_length markup
            _ < (bracket :: rest).length := Nat.lt_succ_self _
            _ = (input.dropWhile (· != '<')).length := by rw [start]
            _ ≤ input.length := (List.dropWhile_sublist _).length_le
        match building.addMarkup found with
        | .error fault => .error fault
        | .ok building => readFrom building behind
termination_by input.length

/-- Reads a document. A byte order mark in front of it does not count. -/
def read (text : String) : Except Fault XmlElement :=
  match text.toList with
  | '\ufeff' :: rest => readFrom ⟨[], none⟩ rest
  | input => readFrom ⟨[], none⟩ input

end DerivedFields.Xml

import DerivedFields.Xml.Basic
import DerivedFields.Xml.Escape

/-!
# Writing XML

A tag goes on a line of its own, indented by two blanks for each element around it, unless text or
character data stands directly in front of it. So no line break is added beside text.
-/

namespace DerivedFields.Xml

/-- The declaration in front of a document. -/
def declaration : List Char := "<?xml version=\"1.0\" encoding=\"UTF-8\"?>".toList

def attributesText (attributes : List (String × String)) : List Char :=
  attributes.flatMap fun (key, value) => ' ' :: key.toList ++ '=' :: '"' :: escape value ++ ['"']

/-- The line break and indentation in front of a tag. -/
def lineBreak (breaks : Bool) (depth : Nat) : List Char :=
  if breaks then '\n' :: List.replicate (2 * depth) ' ' else []

mutual

/-- An element; `breaks` tells that its tag starts a line. -/
def elementText (depth : Nat) (breaks : Bool) : XmlElement → List Char
  | .mk name attributes [] =>
    lineBreak breaks depth ++ '<' :: name.toList ++ attributesText attributes ++ ['/', '>']
  | .mk name attributes children =>
    lineBreak breaks depth ++ '<' :: name.toList ++ attributesText attributes ++ '>' ::
      childrenText name depth true children

/-- The children of an element and its end tag. -/
def childrenText (name : String) (depth : Nat) (breaks : Bool) : List XmlNode → List Char
  | [] => lineBreak breaks depth ++ '<' :: '/' :: name.toList ++ ['>']
  | .element element :: rest =>
    elementText (depth + 1) breaks element ++ childrenText name depth true rest
  | .text text :: rest => escape text ++ childrenText name depth false rest
  | .cdata text :: rest =>
    "<![CDATA[".toList ++ text.toList ++ ']' :: ']' :: '>' :: childrenText name depth false rest

end

section

variable (name : String) (depth : Nat) (breaks : Bool) (attributes : List (String × String))
  (rest : List XmlNode)

theorem elementText_nil : elementText depth breaks (.mk name attributes []) =
    lineBreak breaks depth ++ '<' :: name.toList ++ attributesText attributes ++ ['/', '>'] := by
  rw [elementText]

theorem elementText_cons (node : XmlNode) :
    elementText depth breaks (.mk name attributes (node :: rest)) =
      lineBreak breaks depth ++ '<' :: name.toList ++ attributesText attributes ++ '>' ::
        childrenText name depth true (node :: rest) := by
  rw [elementText]
  exact List.cons_ne_nil node rest

theorem childrenText_nil : childrenText name depth breaks [] =
    lineBreak breaks depth ++ '<' :: '/' :: name.toList ++ ['>'] := rfl

theorem childrenText_element (element : XmlElement) :
    childrenText name depth breaks (.element element :: rest) =
      elementText (depth + 1) breaks element ++ childrenText name depth true rest := rfl

theorem childrenText_text (text : String) :
    childrenText name depth breaks (.text text :: rest) =
      escape text ++ childrenText name depth false rest := rfl

theorem childrenText_cdata (text : String) :
    childrenText name depth breaks (.cdata text :: rest) =
      "<![CDATA[".toList ++ text.toList ++
        ']' :: ']' :: '>' :: childrenText name depth false rest := rfl

end

/-- A document with its declaration. -/
def render (root : XmlElement) : String :=
  String.ofList (declaration ++ elementText 0 true root)

end DerivedFields.Xml

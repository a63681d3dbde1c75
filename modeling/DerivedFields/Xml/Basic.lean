/-!
# XML elements

An element has a name, attributes in document order and child nodes. Its own text is that of its
direct text and character data children.
-/

namespace DerivedFields

mutual

inductive XmlElement
  | mk (name : String) (attributes : List (String × String)) (children : List XmlNode)

inductive XmlNode
  | element (element : XmlElement)
  | text (text : String)
  | cdata (text : String)

end

namespace XmlElement

def name : XmlElement → String
  | .mk name _ _ => name

def attributes : XmlElement → List (String × String)
  | .mk _ attributes _ => attributes

def children : XmlElement → List XmlNode
  | .mk _ _ children => children

/-- An element with nothing in it. -/
def empty (name : String) : XmlElement := .mk name [] []

end XmlElement

/-- The element in a node, if it is one with this name. -/
def XmlNode.named? (name : String) : XmlNode → Option XmlElement
  | .element child => if child.name = name then some child else none
  | .text _ | .cdata _ => none

def XmlNode.isElement : XmlNode → Bool
  | .element _ => true
  | .text _ | .cdata _ => false

/-- The characters of a text or character data node. -/
def XmlNode.ownText : XmlNode → String
  | .element _ => ""
  | .text content | .cdata content => content

namespace XmlElement

/-- The first child element with a name. -/
def child? (name : String) (element : XmlElement) : Option XmlElement :=
  element.children.findSome? (XmlNode.named? name)

def attribute? (name : String) (element : XmlElement) : Option String :=
  element.attributes.lookup name

/-- The text of the direct text and character data children, in order. -/
def text (element : XmlElement) : String :=
  element.children.foldl (fun text node => text ++ node.ownText) ""

/-- The element with a text node as its only child. -/
def withText (text : String) : XmlElement → XmlElement
  | .mk name attributes _ => .mk name attributes [.text text]

/-- Attributes with one written: in its place if it is there, else at the end. -/
def setAttribute (name value : String) : List (String × String) → List (String × String)
  | [] => [(name, value)]
  | (key, old) :: rest =>
    if key = name then (key, value) :: rest else (key, old) :: setAttribute name value rest

def withAttribute (name value : String) : XmlElement → XmlElement
  | .mk own attributes children => .mk own (setAttribute name value attributes) children

/-- Nodes with the first element of a name replaced by its image, or the image of an empty element
of that name added at the end. -/
def updateChild (name : String) (update : XmlElement → XmlElement) : List XmlNode → List XmlNode
  | [] => [.element (update (.empty name))]
  | node :: rest =>
    match node.named? name with
    | some element => .element (update element) :: rest
    | none => node :: updateChild name update rest

def withChild (name : String) (update : XmlElement → XmlElement) : XmlElement → XmlElement
  | .mk own attributes children => .mk own attributes (updateChild name update children)

mutual

/-- Equality of trees. -/
def same : XmlElement → XmlElement → Bool
  | .mk name attributes children, .mk name' attributes' children' =>
    name == name' && attributes == attributes' && sameNodes children children'

def sameNodes : List XmlNode → List XmlNode → Bool
  | [], [] => true
  | .element a :: as, .element b :: bs => same a b && sameNodes as bs
  | .text a :: as, .text b :: bs => a == b && sameNodes as bs
  | .cdata a :: as, .cdata b :: bs => a == b && sameNodes as bs
  | _, _ => false

end

end XmlElement

end DerivedFields

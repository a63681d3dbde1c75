import DerivedFields.Text.CharRange
import DerivedFields.Xml.Reader

/-!
# Parts of an element

An element has itself, its child elements and their parts. What reading back takes is said of each
part on its own: of its name, its attributes, and the nodes directly in it.
-/

namespace DerivedFields

namespace XmlElement

/-- An element is part of another one, which is the element itself or has it in a child. -/
inductive Within (part : XmlElement) : XmlElement → Prop
  | self : Within part part
  | child {name : String} {attributes : List (String × String)} {children : List XmlNode}
    {child : XmlElement} (member : .element child ∈ children) (inner : Within part child) :
    Within part (.mk name attributes children)

variable {element part : XmlElement} {property : XmlElement → Prop} {name : String}
  {attributes : List (String × String)} {children : List XmlNode}

/-- A property holds of every part of an element. -/
def Throughout (property : XmlElement → Prop) (element : XmlElement) : Prop :=
  ∀ part, Within part element → property part

theorem throughout_mk : Throughout property (.mk name attributes children) ↔
    property (.mk name attributes children) ∧
      ∀ child, .element child ∈ children → Throughout property child := by
  constructor
  · intro throughout
    exact ⟨throughout _ .self, fun _ member _ inner => throughout _ (.child member inner)⟩
  · rintro ⟨here, below⟩ part within
    cases within with
    | self => exact here
    | child member inner => exact below _ member part inner

end XmlElement

namespace Xml

/-- Indentation is only beside child elements. -/
theorem contentOf_eq_self {children : List XmlNode} : contentOf children = children ↔
    (children.any XmlNode.isElement = true → ∀ node ∈ children, isIndentation node = false) := by
  unfold contentOf
  split
  · next beside => simp [beside, List.filter_eq_self]
  · next alone => simp [alone]

end Xml

/-! ## Names -/

namespace Xml

/-- The characters that a name may begin with. -/
def nameStartRanges : List (Nat × Nat) := [
  (0x3a, 0x3a), (0x41, 0x5a), (0x5f, 0x5f), (0x61, 0x7a), (0xc0, 0xd6), (0xd8, 0xf6),
  (0xf8, 0x2ff), (0x370, 0x37d), (0x37f, 0x1fff), (0x200c, 0x200d), (0x2070, 0x218f),
  (0x2c00, 0x2fef), (0x3001, 0xd7ff), (0xf900, 0xfdcf), (0xfdf0, 0xfffd), (0x10000, 0xeffff)]

/-- The characters that a name may go on with, beside those. -/
def nameRanges : List (Nat × Nat) := [
  (0x2d, 0x2e), (0x30, 0x39), (0xb7, 0xb7), (0x300, 0x36f), (0x203f, 0x2040)]

/-- A name of an element or attribute is well-formed. -/
def isName (name : String) : Bool :=
  match name.toList with
  | [] => false
  | first :: rest =>
    Text.inRanges nameStartRanges first && rest.all (Text.inRanges (nameStartRanges ++ nameRanges))

/-- A property of a few characters is checked for each of them. -/
theorem forall_mem_of_all {property : Char → Prop} [DecidablePred property] {characters : List Char}
    (checked : characters.all (fun c => decide (property c)) = true) :
    ∀ c ∈ characters, property c := by
  simpa using checked

/-- The characters that tags, quotes, blanks, comments and declarations are told by. -/
def syntaxChars : List Char :=
  [' ', '\r', '\n', '\t', '<', '>', '"', '\'', '/', '=', '!', '?']

theorem mem_syntaxChars_of_isSpace {c : Char} (space : isSpace c = true) : c ∈ syntaxChars := by
  simp only [isSpace, Bool.or_eq_true, beq_iff_eq] at space
  rcases space with ((rfl | rfl) | rfl) | rfl <;> decide

/-- None of them is in a name. -/
theorem notMem_syntaxChars_of_isName {name : String} (wellFormed : isName name = true) :
    ∀ c ∈ name.toList, c ∉ syntaxChars := by
  have outside : ∀ c ∈ syntaxChars,
      Text.inRanges (nameStartRanges ++ nameRanges) c = false := forall_mem_of_all (by decide)
  intro c member inSyntax
  have start {d : Char} (inside : Text.inRanges nameStartRanges d = true) :
      Text.inRanges (nameStartRanges ++ nameRanges) d = true := by
    rw [Text.inRanges, List.any_append, Bool.or_eq_true]
    exact .inl inside
  have inside : Text.inRanges (nameStartRanges ++ nameRanges) c = true := by
    rw [isName] at wellFormed
    cases split : name.toList with
    | nil => rw [split] at member; cases member
    | cons first rest =>
      simp only [split, Bool.and_eq_true, List.all_eq_true] at wellFormed member
      rcases List.mem_cons.mp member with rfl | later
      · exact start wellFormed.1
      · exact wellFormed.2 c later
  exact Bool.false_ne_true ((outside c inSyntax).symm.trans inside)

theorem ne_nil_of_isName {name : String} (wellFormed : isName name = true) : name.toList ≠ [] := by
  intro empty
  rw [isName, empty] at wellFormed
  cases wellFormed

end Xml

/-! ## What reading back takes of one element -/

/-- A node that a text can stand for: there is no text node of no characters, and character data
ends where its closing brackets are first. -/
def XmlNode.Legible : XmlNode → Prop
  | .element _ => True
  | .text content => content ≠ ""
  | .cdata content => Text.cutFirst? [']', ']', '>'] content.toList = none

namespace XmlElement

/-- What holds of an element that was read. -/
structure Sound (element : XmlElement) : Prop where
  distinct : (element.attributes.map Prod.fst).Nodup
  legible : ∀ node ∈ element.children, node.Legible
  content : Xml.contentOf element.children = element.children

/-- An element and its attributes have well-formed names. -/
structure WellNamed (element : XmlElement) : Prop where
  name : Xml.isName element.name = true
  keys : ∀ entry ∈ element.attributes, Xml.isName entry.1 = true

def beginsWithText : List XmlNode → Bool
  | .text _ :: _ => true
  | _ => false

/-- No two text nodes stand side by side. -/
def TextsApart : List XmlNode → Prop
  | [] => True
  | .text _ :: rest => beginsWithText rest = false ∧ TextsApart rest
  | .element _ :: rest | .cdata _ :: rest => TextsApart rest

/-- An element that can be read back from what is written of it. -/
structure Writable (element : XmlElement) : Prop extends Sound element, WellNamed element where
  apart : TextsApart element.children

end XmlElement

end DerivedFields

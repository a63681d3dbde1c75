import DerivedFields.Document.XmlFields
import DerivedFields.Proofs.Xml.Parts
import DerivedFields.Xml.Writer

/-!
# Joining texts

Markup that is skipped, such as a comment, splits the text around it into two nodes. No tag stands
between them when they are written, so they are read back as one. An element whose texts are joined
is written as before, and every path leads to the same text in it.
-/

namespace DerivedFields

namespace XmlElement

/-- Nodes with text in front, joined to the first node if that is text as well. -/
def joinText (text : String) : List XmlNode → List XmlNode
  | .text next :: rest => .text (text ++ next) :: rest
  | nodes => .text text :: nodes

mutual

/-- An element with each run of text nodes in it joined into one. -/
def joined : XmlElement → XmlElement
  | .mk name attributes children => .mk name attributes (joinedNodes children)

def joinedNodes : List XmlNode → List XmlNode
  | [] => []
  | .element element :: rest => .element (joined element) :: joinedNodes rest
  | .text text :: rest => joinText text (joinedNodes rest)
  | .cdata text :: rest => .cdata text :: joinedNodes rest

end

variable {element : XmlElement} {children nodes : List XmlNode} {name text : String}
  {lenient : Bool}

@[simp]
theorem name_joined (element : XmlElement) : element.joined.name = element.name := by
  cases element
  rfl

@[simp]
theorem attributes_joined (element : XmlElement) :
    element.joined.attributes = element.attributes := by
  cases element
  rfl

@[simp]
theorem children_joined (element : XmlElement) :
    element.joined.children = joinedNodes element.children := by
  cases element
  rfl

private theorem joinedNodes_ne_nil (node : XmlNode) (rest : List XmlNode) :
    joinedNodes (node :: rest) ≠ [] := by
  cases node with
  | element element => exact List.cons_ne_nil _ _
  | cdata text => exact List.cons_ne_nil _ _
  | text text =>
    rw [joinedNodes]
    unfold joinText
    split <;> exact List.cons_ne_nil _ _

/-! ## Writing -/

private theorem childrenText_joinText (name : String) (depth : Nat) (breaks : Bool) (text : String)
    (nodes : List XmlNode) :
    Xml.childrenText name depth breaks (joinText text nodes) =
      Xml.escape text ++ Xml.childrenText name depth false nodes := by
  unfold joinText
  split
  · rw [Xml.childrenText_text, Xml.childrenText_text, Xml.escape, String.toList_append,
      List.flatMap_append, List.append_assoc]
    rfl
  · rw [Xml.childrenText_text]

mutual

private theorem elementText_joined : ∀ (element : XmlElement) (depth : Nat) (breaks : Bool),
    Xml.elementText depth breaks element.joined = Xml.elementText depth breaks element
  | .mk name attributes [], _, _ => rfl
  | .mk name attributes (node :: rest), depth, breaks => by
    have inner := childrenText_joinedNodes (node :: rest) name depth true
    obtain ⟨first, others, split⟩ := List.exists_cons_of_ne_nil (joinedNodes_ne_nil node rest)
    rw [split] at inner
    rw [joined, split, Xml.elementText_cons, Xml.elementText_cons, inner]

private theorem childrenText_joinedNodes : ∀ (children : List XmlNode) (name : String) (depth : Nat)
    (breaks : Bool),
    Xml.childrenText name depth breaks (joinedNodes children) =
      Xml.childrenText name depth breaks children
  | [], _, _, _ => rfl
  | .element element :: rest, name, depth, breaks => by
    rw [joinedNodes, Xml.childrenText_element, Xml.childrenText_element, elementText_joined element,
      childrenText_joinedNodes rest]
  | .text text :: rest, name, depth, breaks => by
    rw [joinedNodes, childrenText_joinText, Xml.childrenText_text, childrenText_joinedNodes rest]
  | .cdata text :: rest, name, depth, breaks => by
    rw [joinedNodes, Xml.childrenText_cdata, Xml.childrenText_cdata, childrenText_joinedNodes rest]

end

/-- Joining texts does not change what is written. -/
theorem render_joined (element : XmlElement) : Xml.render element.joined = Xml.render element := by
  rw [Xml.render, elementText_joined, Xml.render]

/-! ## Paths -/

/-- The element whose text is read at a path below an element; none if an attribute is read, or
nothing. -/
def elementBelow? (lenient : Bool) : List PathSegment → XmlElement → Option XmlElement
  | [], element => some element
  | .element name :: rest, element => (element.child? name).bind (elementBelow? lenient rest)
  | [.attribute name], element =>
    if lenient && (element.attribute? name).isNone then element.child? name else none
  | .attribute _ :: _ :: _, _ => none

/-- The element whose text is read at a path of the document with this document element. -/
def elementAt? (lenient : Bool) (segments : List PathSegment) (root : XmlElement) :
    Option XmlElement :=
  root.elementBelow? lenient (root.belowRoot segments)

/-- A change that leaves the names and attributes of elements, and changes each child element like
the element around it. -/
structure Uniform (change : XmlElement → XmlElement) : Prop where
  name : ∀ element, (change element).name = element.name
  attributes : ∀ element, (change element).attributes = element.attributes
  child : ∀ name element, (change element).child? name = (element.child? name).map change

namespace Uniform

variable {change : XmlElement → XmlElement} (uniform : Uniform change)

private theorem self : Uniform fun element => element where
  name _ := rfl
  attributes _ := rfl
  child _ _ := Option.map_id'.symm

include uniform

theorem comp {other : XmlElement → XmlElement} (inner : Uniform other) :
    Uniform fun element => change (other element) where
  name element := (uniform.name _).trans (inner.name element)
  attributes element := (uniform.attributes _).trans (inner.attributes element)
  child name element := by
    rw [uniform.child, inner.child, Option.map_map]
    rfl

/-- What is read at a path is text of an element that was changed, or else is what it was. -/
theorem textBelow_eq (lenient : Bool) (path : List PathSegment) (element : XmlElement) :
    (change element).textBelow lenient path =
      ((element.elementBelow? lenient path).map fun part => (change part).text).getD
        (element.textBelow lenient path) := by
  induction path generalizing element with
  | nil => rfl
  | cons segment rest ih =>
    cases segment with
    | element name =>
      simp only [textBelow, elementBelow?, uniform.child]
      cases element.child? name with
      | none => rfl
      | some child => exact ih child
    | «attribute» name =>
      cases rest with
      | nil =>
        have same : (change element).attribute? name = element.attribute? name :=
          congrArg (List.lookup name) (uniform.attributes element)
        simp only [textBelow, elementBelow?, attributeText, same, uniform.child]
        cases element.attribute? name with
        | some value => cases lenient <;> rfl
        | none =>
          cases lenient with
          | false => rfl
          | true => cases element.child? name <;> rfl
      | cons => rfl

theorem textAt_eq (lenient : Bool) (path : List PathSegment) (root : XmlElement) :
    (change root).textAt lenient path =
      ((root.elementAt? lenient path).map fun part => (change part).text).getD
        (root.textAt lenient path) := by
  have below : (change root).belowRoot path = root.belowRoot path := by
    simp only [belowRoot, uniform.name]
  rw [textAt, below, uniform.textBelow_eq, elementAt?, textAt]

end Uniform

/-- The text at a path that leads to an element is the text of that element. -/
theorem textAt_of_elementAt? {lenient : Bool} {path : List PathSegment} {root part : XmlElement}
    (leads : root.elementAt? lenient path = some part) : root.textAt lenient path = part.text := by
  have whole := Uniform.self.textAt_eq lenient path root
  rwa [leads] at whole

private theorem findSome?_joinText (name text : String) (nodes : List XmlNode) :
    (joinText text nodes).findSome? (XmlNode.named? name) =
      nodes.findSome? (XmlNode.named? name) := by
  unfold joinText
  split <;> rfl

/-- The first child of a name is the same element, its texts joined. -/
theorem findSome?_joinedNodes (name : String) (children : List XmlNode) :
    (joinedNodes children).findSome? (XmlNode.named? name) =
      (children.findSome? (XmlNode.named? name)).map joined := by
  induction children with
  | nil => rfl
  | cons node rest ih =>
    cases node with
    | element element =>
      by_cases same : element.name = name
      · simp [joinedNodes, XmlNode.named?, same]
      · simp [joinedNodes, XmlNode.named?, same, ih]
    | text text => rw [joinedNodes, findSome?_joinText, ih]; rfl
    | cdata text => exact ih

theorem uniform_joined : Uniform joined where
  name := name_joined
  attributes := attributes_joined
  child name element := by rw [child?, children_joined, findSome?_joinedNodes, child?]

private theorem foldl_joinText (before text : String) (nodes : List XmlNode) :
    (joinText text nodes).foldl (fun text node => text ++ node.ownText) before =
      nodes.foldl (fun text node => text ++ node.ownText) (before ++ text) := by
  unfold joinText
  split
  · simp only [List.foldl_cons, XmlNode.ownText, String.append_assoc]
  · rfl

private theorem foldl_joinedNodes (children : List XmlNode) (before : String) :
    (joinedNodes children).foldl (fun text node => text ++ node.ownText) before =
      children.foldl (fun text node => text ++ node.ownText) before := by
  induction children generalizing before with
  | nil => rfl
  | cons node rest ih =>
    cases node with
    | element element => exact ih _
    | text text => rw [joinedNodes, foldl_joinText, ih]; rfl
    | cdata text => exact ih _

theorem text_joined (element : XmlElement) : element.joined.text = element.text := by
  rw [text, children_joined, foldl_joinedNodes, text]

/-- Every path leads to the same text. -/
theorem textAt_joined (lenient : Bool) (path : List PathSegment) (root : XmlElement) :
    root.joined.textAt lenient path = root.textAt lenient path := by
  rw [uniform_joined.textAt_eq]
  cases leads : root.elementAt? lenient path with
  | none => rfl
  | some part => exact (text_joined part).trans (textAt_of_elementAt? leads).symm

/-! ## What reading back takes -/

private theorem textsApart_joinText (text : String) {nodes : List XmlNode} (apart : TextsApart nodes) :
    TextsApart (joinText text nodes) := by
  unfold joinText
  split
  · exact apart
  · next nodes other =>
    refine ⟨?_, apart⟩
    unfold beginsWithText
    split
    · exact absurd rfl (other _ _)
    · rfl

theorem textsApart_joinedNodes (children : List XmlNode) : TextsApart (joinedNodes children) := by
  induction children with
  | nil => exact trivial
  | cons node rest ih =>
    cases node with
    | element element => exact ih
    | text text => exact textsApart_joinText text ih
    | cdata text => exact ih

/-- A node that another one may become: an element is joined, to a text others are joined. -/
def Becomes : XmlNode → XmlNode → Prop
  | .element element, node => node = .element element.joined
  | .text text, node => ∃ more, node = .text (text ++ more)
  | .cdata text, node => node = .cdata text

private theorem mem_joinText {node : XmlNode} {text : String} {nodes : List XmlNode}
    (member : node ∈ joinText text nodes) : node ∈ nodes ∨ Becomes (.text text) node := by
  unfold joinText at member
  split at member
  · rcases List.mem_cons.mp member with rfl | later
    · exact .inr ⟨_, rfl⟩
    · exact .inl (List.mem_cons_of_mem _ later)
  · rcases List.mem_cons.mp member with rfl | later
    · exact .inr ⟨"", by rw [String.append_empty]⟩
    · exact .inl later

theorem mem_joinedNodes {node : XmlNode} {children : List XmlNode}
    (member : node ∈ joinedNodes children) : ∃ original ∈ children, Becomes original node := by
  induction children with
  | nil => cases member
  | cons first rest ih =>
    have split : node ∈ joinedNodes rest ∨ Becomes first node := by
      cases first with
      | element element => exact (List.mem_cons.mp member).symm
      | text text => exact mem_joinText member
      | cdata text => exact (List.mem_cons.mp member).symm
    rcases split with later | here
    · obtain ⟨original, present, becomes⟩ := ih later
      exact ⟨original, List.mem_cons_of_mem _ present, becomes⟩
    · exact ⟨first, List.mem_cons_self, here⟩

private theorem legible_of_becomes {original node : XmlNode} (becomes : Becomes original node)
    (legible : original.Legible) : node.Legible := by
  cases original with
  | element element =>
    obtain rfl := becomes
    trivial
  | text text =>
    obtain ⟨more, rfl⟩ := becomes
    intro empty
    exact legible (String.append_eq_empty_iff.mp empty).1
  | cdata text =>
    obtain rfl := becomes
    exact legible

private theorem isElement_of_becomes {original node : XmlNode} (becomes : Becomes original node) :
    node.isElement = original.isElement := by
  cases original with
  | element element =>
    obtain rfl := becomes
    rfl
  | text text =>
    obtain ⟨more, rfl⟩ := becomes
    rfl
  | cdata text =>
    obtain rfl := becomes
    rfl

/-- Blanks only come of blanks only. -/
theorem isIndentation_of_becomes {original node : XmlNode} (becomes : Becomes original node)
    (indentation : Xml.isIndentation node = true) : Xml.isIndentation original = true := by
  cases original with
  | element element =>
    obtain rfl := becomes
    cases indentation
  | text text =>
    obtain ⟨more, rfl⟩ := becomes
    rw [Xml.isIndentation, String.toList_append, Text.allBlank, List.all_append,
      Bool.and_eq_true] at indentation
    exact indentation.1
  | cdata text =>
    obtain rfl := becomes
    cases indentation

private theorem contentOf_joinedNodes {children : List XmlNode}
    (content : Xml.contentOf children = children) :
    Xml.contentOf (joinedNodes children) = joinedNodes children := by
  rw [Xml.contentOf_eq_self] at content ⊢
  intro beside node member
  have elements : children.any XmlNode.isElement = true := by
    obtain ⟨child, present, isElement⟩ := List.any_eq_true.mp beside
    obtain ⟨original, there, becomes⟩ := mem_joinedNodes present
    exact List.any_eq_true.mpr ⟨original, there, (isElement_of_becomes becomes).symm.trans isElement⟩
  obtain ⟨original, there, becomes⟩ := mem_joinedNodes member
  have noBlanks := content elements original there
  exact Bool.eq_false_iff.mpr fun blanks =>
    Bool.eq_false_iff.mp noBlanks (isIndentation_of_becomes becomes blanks)

/-- The parts of a joined element are the parts of the element, joined. -/
theorem within_joined {part element : XmlElement} (within : Within part element.joined) :
    ∃ original, Within original element ∧ part = original.joined := by
  generalize whole : element.joined = result at within
  induction within generalizing element with
  | self => exact ⟨element, .self, whole.symm⟩
  | child member _ ih =>
    obtain ⟨name, attributes, children⟩ := element
    cases whole
    obtain ⟨original, present, becomes⟩ := mem_joinedNodes member
    cases original with
    | element child =>
      cases becomes
      obtain ⟨part, inner, rfl⟩ := ih rfl
      exact ⟨part, .child present inner, rfl⟩
    | text => exact absurd becomes.choose_spec nofun
    | cdata => cases becomes

/-- An element that was read and whose names are well-formed can be read back once its texts are
joined. -/
theorem writable_joined {root : XmlElement} (sound : Throughout Sound root)
    (named : Throughout WellNamed root) : Throughout Writable root.joined := by
  intro part within
  obtain ⟨original, inside, rfl⟩ := within_joined within
  obtain ⟨distinct, legible, content⟩ := sound original inside
  obtain ⟨name, keys⟩ := named original inside
  constructor
  · constructor
    · rwa [attributes_joined]
    · rw [children_joined]
      intro node member
      obtain ⟨before, there, becomes⟩ := mem_joinedNodes member
      exact legible_of_becomes becomes (legible before there)
    · rw [children_joined]
      exact contentOf_joinedNodes content
  · constructor
    · rwa [name_joined]
    · rwa [attributes_joined]
  · rw [children_joined]
    exact textsApart_joinedNodes _

end XmlElement

end DerivedFields

import DerivedFields.Proofs.Xml.Joining

/-!
# Elements as they are read back

A write leaves nodes that no text stands for as they are: a text node of no characters, or blank
text beside a child element. Such an element can be written, but it is read back without them. What
it is read back as differs from it in its texts only, and only in elements that have both child
elements and blank text.
-/

namespace DerivedFields.XmlElement

mutual

/-- An element without text nodes of no characters, and without indentation beside child
elements. -/
def settled : XmlElement → XmlElement
  | .mk name attributes children => .mk name attributes (Xml.contentOf (settledNodes children))

def settledNodes : List XmlNode → List XmlNode
  | [] => []
  | .element element :: rest => .element (settled element) :: settledNodes rest
  | .text text :: rest => if text = "" then settledNodes rest else .text text :: settledNodes rest
  | .cdata text :: rest => .cdata text :: settledNodes rest

end

variable {element : XmlElement} {children nodes : List XmlNode} {name text : String}

@[simp]
private theorem name_settled (element : XmlElement) : element.settled.name = element.name := by
  cases element
  rfl

@[simp]
private theorem attributes_settled (element : XmlElement) :
    element.settled.attributes = element.attributes := by
  cases element
  rfl

@[simp]
private theorem children_settled (element : XmlElement) :
    element.settled.children = Xml.contentOf (settledNodes element.children) := by
  cases element
  rfl

/-! ## What can be written -/

/-- An element that can be written so that it is read again: its names are well-formed, its keys
distinct, and character data ends where it should. -/
structure Printable (element : XmlElement) : Prop extends WellNamed element where
  distinct : (element.attributes.map Prod.fst).Nodup
  cdata : ∀ content, .cdata content ∈ element.children → (XmlNode.cdata content).Legible

/-- A printable element whose nodes can be told from their text, since no two text nodes stand side
by side. -/
structure Readable (element : XmlElement) : Prop extends Printable element where
  apart : TextsApart element.children

theorem Writable.readable (writable : element.Writable) : element.Readable where
  toWellNamed := writable.toWellNamed
  distinct := writable.distinct
  cdata _ member := writable.legible _ member
  apart := writable.apart

/-- An element that was read and whose names are well-formed can be written. -/
theorem printable_of_sound (sound : Throughout Sound element)
    (named : Throughout WellNamed element) : Throughout Printable element := fun part within => {
  toWellNamed := named part within
  distinct := (sound part within).distinct
  cdata := fun _ member => (sound part within).legible _ member }

theorem readable_joined (printable : Throughout Printable element) :
    Throughout Readable element.joined := by
  intro part within
  obtain ⟨original, inside, rfl⟩ := within_joined within
  obtain ⟨⟨name, keys⟩, distinct, cdata⟩ := printable original inside
  refine ⟨⟨⟨?_, ?_⟩, ?_, ?_⟩, ?_⟩
  · rwa [name_joined]
  · rwa [attributes_joined]
  · rwa [attributes_joined]
  · intro content member
    rw [children_joined] at member
    obtain ⟨before, there, becomes⟩ := mem_joinedNodes member
    cases before with
    | element child => cases becomes
    | text text => exact absurd becomes.choose_spec nofun
    | cdata text =>
      cases becomes
      exact cdata _ there
  · rw [children_joined]
    exact textsApart_joinedNodes _

mutual

/-- What was read is settled. -/
theorem settled_eq_self : ∀ {element : XmlElement}, Throughout Sound element →
    element.settled = element
  | .mk name attributes children, sound => by
    obtain ⟨here, below⟩ := throughout_mk.mp sound
    have legible : ∀ node ∈ children, node.Legible := here.legible
    have content : Xml.contentOf children = children := here.content
    rw [settled, settledNodes_eq_self legible below, content]

theorem settledNodes_eq_self : ∀ {children : List XmlNode}, (∀ node ∈ children, node.Legible) →
    (∀ child, .element child ∈ children → Throughout Sound child) → settledNodes children = children
  | [], _, _ => rfl
  | .element child :: rest, legible, below => by
    rw [settledNodes, settled_eq_self (below child List.mem_cons_self),
      settledNodes_eq_self (fun node member => legible node (List.mem_cons_of_mem _ member))
        fun other member => below other (List.mem_cons_of_mem _ member)]
  | .text text :: rest, legible, below => by
    have written : text ≠ "" := legible _ List.mem_cons_self
    rw [settledNodes, if_neg written,
      settledNodes_eq_self (fun node member => legible node (List.mem_cons_of_mem _ member))
        fun other member => below other (List.mem_cons_of_mem _ member)]
  | .cdata text :: rest, legible, below => by
    rw [settledNodes,
      settledNodes_eq_self (fun node member => legible node (List.mem_cons_of_mem _ member))
        fun other member => below other (List.mem_cons_of_mem _ member)]

end

/-! ## Paths -/

private theorem findSome?_filter (name : String) (nodes : List XmlNode) :
    (nodes.filter (!Xml.isIndentation ·)).findSome? (XmlNode.named? name) =
      nodes.findSome? (XmlNode.named? name) := by
  induction nodes with
  | nil => rfl
  | cons node rest ih =>
    cases node with
    | element element =>
      rw [List.filter_cons_of_pos rfl, List.findSome?_cons, List.findSome?_cons, ih]
    | text text =>
      rw [List.filter_cons]
      split <;> exact ih
    | cdata text => exact ih

/-- Indentation is no child element, so the first child of a name stays. -/
theorem findSome?_contentOf (name : String) (nodes : List XmlNode) :
    (Xml.contentOf nodes).findSome? (XmlNode.named? name) =
      nodes.findSome? (XmlNode.named? name) := by
  unfold Xml.contentOf
  split
  · exact findSome?_filter name nodes
  · rfl

private theorem findSome?_settledNodes (name : String) (children : List XmlNode) :
    (settledNodes children).findSome? (XmlNode.named? name) =
      (children.findSome? (XmlNode.named? name)).map settled := by
  induction children with
  | nil => rfl
  | cons node rest ih =>
    cases node with
    | element element =>
      by_cases same : element.name = name
      · simp [settledNodes, XmlNode.named?, same]
      · simp [settledNodes, XmlNode.named?, same, ih]
    | text text =>
      rw [settledNodes]
      split <;> exact ih
    | cdata text => exact ih

theorem uniform_settled : Uniform settled where
  name := name_settled
  attributes := attributes_settled
  child name element := by
    rw [child?, children_settled, findSome?_contentOf, findSome?_settledNodes, child?]

/-! ## Texts -/

/-- The texts of nodes, one after the other. -/
def textOf (nodes : List XmlNode) : List Char := nodes.flatMap fun node => node.ownText.toList

private theorem toList_foldl_ownText (nodes : List XmlNode) (before : String) :
    (nodes.foldl (fun text node => text ++ node.ownText) before).toList =
      before.toList ++ textOf nodes := by
  induction nodes generalizing before with
  | nil => simp [textOf]
  | cons node rest ih =>
    rw [List.foldl_cons, ih, String.toList_append, List.append_assoc]
    rfl

private theorem toList_text (element : XmlElement) : element.text.toList = textOf element.children := by
  rw [text, toList_foldl_ownText]
  rfl

theorem textOf_cons (node : XmlNode) (nodes : List XmlNode) :
    textOf (node :: nodes) = node.ownText.toList ++ textOf nodes := rfl

private theorem length_textOf_filter_le (keep : XmlNode → Bool) (nodes : List XmlNode) :
    (textOf (nodes.filter keep)).length ≤ (textOf nodes).length := by
  induction nodes with
  | nil => exact Nat.le_refl _
  | cons node rest ih =>
    rw [List.filter_cons, textOf_cons]
    split
    · rw [textOf_cons, List.length_append, List.length_append]
      exact Nat.add_le_add_left ih _
    · rw [List.length_append]
      exact Nat.le_add_left_of_le ih

/-- Nodes that are left out are missed in the text just if they have some. -/
theorem textOf_filter_eq_iff (keep : XmlNode → Bool) (nodes : List XmlNode) :
    textOf (nodes.filter keep) = textOf nodes ↔
      ∀ node ∈ nodes, keep node = false → node.ownText = "" := by
  induction nodes with
  | nil => simp
  | cons node rest ih =>
    rw [List.forall_mem_cons, ← ih, List.filter_cons, textOf_cons]
    cases kept : keep node with
    | true => simp [textOf_cons]
    | false =>
      have shorter := length_textOf_filter_le keep rest
      simp only [Bool.false_eq_true, if_false, true_imp_iff]
      constructor
      · intro same
        have length := congrArg List.length same
        rw [List.length_append] at length
        have none : node.ownText.toList = [] := List.length_eq_zero_iff.mp (by omega)
        rw [none] at same
        exact ⟨String.toList_eq_nil_iff.mp none, same⟩
      · rintro ⟨none, same⟩
        rw [none, same]
        rfl

private theorem any_settledNodes (children : List XmlNode) :
    (settledNodes children).any XmlNode.isElement = children.any XmlNode.isElement := by
  induction children with
  | nil => rfl
  | cons node rest ih =>
    cases node with
    | element element => rfl
    | text text =>
      rw [settledNodes]
      split <;> exact ih
    | cdata text => exact ih

private theorem any_joinText (text : String) (nodes : List XmlNode) :
    (joinText text nodes).any XmlNode.isElement = nodes.any XmlNode.isElement := by
  unfold joinText
  split <;> rfl

private theorem any_joinedNodes (children : List XmlNode) :
    (joinedNodes children).any XmlNode.isElement = children.any XmlNode.isElement := by
  induction children with
  | nil => rfl
  | cons node rest ih =>
    cases node with
    | element element => rfl
    | text text => rw [joinedNodes, any_joinText, ih]; rfl
    | cdata text => exact ih

private theorem textOf_filter_settledNodes (children : List XmlNode) :
    textOf ((settledNodes children).filter (!Xml.isIndentation ·)) =
      textOf (children.filter (!Xml.isIndentation ·)) := by
  induction children with
  | nil => rfl
  | cons node rest ih =>
    cases node with
    | element element => exact ih
    | text text =>
      rw [settledNodes]
      by_cases empty : text = ""
      · subst empty
        rw [if_pos rfl, List.filter_cons_of_neg (by decide), ih]
      · rw [if_neg empty, List.filter_cons, List.filter_cons]
        split
        · rw [textOf_cons, textOf_cons, ih]
        · exact ih
    | cdata text => exact congrArg (text.toList ++ ·) ih

private theorem textOf_settledNodes (children : List XmlNode) :
    textOf (settledNodes children) = textOf children := by
  induction children with
  | nil => rfl
  | cons node rest ih =>
    cases node with
    | element element => exact ih
    | text text =>
      rw [settledNodes]
      split
      · next empty => rw [ih, textOf_cons, empty]; rfl
      · rw [textOf_cons, textOf_cons, ih]
    | cdata text => rw [settledNodes, textOf_cons, textOf_cons, ih]

private theorem textOf_contentOf_settledNodes (children : List XmlNode) :
    textOf (Xml.contentOf (settledNodes children)) = textOf (Xml.contentOf children) := by
  rw [Xml.contentOf, Xml.contentOf, any_settledNodes]
  split
  · exact textOf_filter_settledNodes children
  · exact textOf_settledNodes children

/-- A run of text nodes in an element with child elements is blank, and not empty. -/
def Indented (element : XmlElement) : Prop :=
  element.children.any XmlNode.isElement = true ∧
    ∃ text, .text text ∈ joinedNodes element.children ∧ text ≠ "" ∧
      Text.allBlank text.toList = true

/-- The text of an element, without blank runs of text nodes if it has child elements. -/
def keptText (element : XmlElement) : String :=
  String.ofList (textOf (Xml.contentOf (joinedNodes element.children)))

theorem text_settled_joined (element : XmlElement) :
    element.joined.settled.text = element.keptText := by
  rw [keptText, ← textOf_contentOf_settledNodes, ← children_joined, ← children_settled,
    ← toList_text, String.ofList_toList]

/-- All text is kept just if no blank run is beside child elements. -/
theorem keptText_eq_text_iff (element : XmlElement) :
    element.keptText = element.text ↔ ¬element.Indented := by
  have whole : textOf (joinedNodes element.children) = element.text.toList := by
    rw [← children_joined, ← toList_text, text_joined]
  rw [keptText, ← String.toList_inj, String.toList_ofList, ← whole, Xml.contentOf, any_joinedNodes]
  split
  · next beside =>
    rw [textOf_filter_eq_iff]
    constructor
    · rintro lost ⟨-, text, member, written, blank⟩
      exact written (lost _ member (by rw [Xml.isIndentation, blank]; rfl))
    · intro flat node member dropped
      cases node with
      | element element => rfl
      | cdata text => cases dropped
      | text text =>
        have blank : Text.allBlank text.toList = true := by simpa [Xml.isIndentation] using dropped
        exact Classical.byContradiction fun written =>
          flat ⟨beside, text, member, written, blank⟩
  · next alone => exact iff_of_true rfl fun indented => alone indented.1

end DerivedFields.XmlElement

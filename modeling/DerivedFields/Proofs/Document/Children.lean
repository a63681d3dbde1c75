import DerivedFields.Document.XmlFields
import DerivedFields.Proofs.Document.Places
import DerivedFields.Proofs.Entries

/-!
# Writing below XML elements

A write changes the text of an element, one of its attributes, or the first child of a name, which
is there afterwards if it was not before. All else about the element stays, so a write leaves the
text at every place apart from its own as it was.
-/

namespace DerivedFields.XmlElement

variable {name other : String} {element : XmlElement}

theorem eq_element_of_named? {node : XmlNode} (found : node.named? name = some element) :
    node = .element element ∧ element.name = name := by
  cases node with
  | element child =>
    simp only [XmlNode.named?] at found
    split at found
    · rename_i same
      cases found
      exact ⟨rfl, same⟩
    · cases found
  | text | cdata => cases found

section

variable {update : XmlElement → XmlElement}
  (keeps : ∀ element, (update element).name = element.name)

include keeps

private theorem findSome?_updateChild_self (name : String) (nodes : List XmlNode) :
    (updateChild name update nodes).findSome? (XmlNode.named? name) =
      some (update ((nodes.findSome? (XmlNode.named? name)).getD (.empty name))) := by
  have here (element : XmlElement) (same : element.name = name) :
      XmlNode.named? name (.element (update element)) = some (update element) :=
    if_pos ((keeps element).trans same)
  induction nodes with
  | nil =>
    rw [updateChild, List.findSome?_cons, here (.empty name) rfl]
    rfl
  | cons node rest ih =>
    rw [updateChild, List.findSome?_cons]
    cases found : node.named? name with
    | none => simp only [List.findSome?_cons, found, ih]
    | some element =>
      have named := (eq_element_of_named? found).2
      simp only [List.findSome?_cons, here element named, Option.getD_some]

private theorem findSome?_updateChild_ne (different : other ≠ name) (nodes : List XmlNode) :
    (updateChild name update nodes).findSome? (XmlNode.named? other) =
      nodes.findSome? (XmlNode.named? other) := by
  have elsewhere (element : XmlElement) (same : element.name = name) :
      XmlNode.named? other (.element element) = none :=
    if_neg fun also => different (also.symm.trans same)
  induction nodes with
  | nil => rw [updateChild, List.findSome?_cons, elsewhere _ (keeps (.empty name))]
  | cons node rest ih =>
    rw [updateChild]
    cases found : node.named? name with
    | none => simp only [List.findSome?_cons, ih]
    | some element =>
      obtain ⟨rfl, named⟩ := eq_element_of_named? found
      simp only [List.findSome?_cons, elsewhere _ named, elsewhere _ ((keeps element).trans named)]

end

/-- Child elements have no part in the text of an element. -/
theorem foldl_updateChild (name : String) (update : XmlElement → XmlElement) (nodes : List XmlNode)
    (text : String) :
    (updateChild name update nodes).foldl (fun text node => text ++ node.ownText) text =
      nodes.foldl (fun text node => text ++ node.ownText) text := by
  induction nodes generalizing text with
  | nil => exact String.append_empty
  | cons node rest ih =>
    rw [updateChild]
    cases found : node.named? name with
    | none => simp only [List.foldl_cons, ih]
    | some element =>
      obtain ⟨rfl, -⟩ := eq_element_of_named? found
      rfl

/-- What an element has under a name. -/
def slot (name : String) (element : XmlElement) : Option XmlElement × Option String :=
  (element.child? name, element.attribute? name)

/-- A path continues at what the element has under the name that it begins with. -/
theorem textBelow_congr {left right : XmlElement} {segment : PathSegment}
    (same : left.slot segment.name = right.slot segment.name) (lenient : Bool)
    (rest : List PathSegment) :
    left.textBelow lenient (segment :: rest) = right.textBelow lenient (segment :: rest) := by
  obtain ⟨child, value⟩ := Prod.mk.inj same
  rcases segment with name | name
  · simp only [PathSegment.name] at child
    rw [textBelow, textBelow, child]
  · simp only [PathSegment.name] at child value
    cases rest with
    | nil => rw [textBelow, textBelow, attributeText, attributeText, child, value]
    | cons next rest => rw [textBelow, textBelow]

theorem textBelow_element (lenient : Bool) (name : String) (rest : List PathSegment)
    (element : XmlElement) :
    element.textBelow lenient (.element name :: rest) =
      ((element.child? name).map (textBelow lenient rest)).getD "" := by
  rw [textBelow]
  cases element.child? name <;> rfl

private theorem textBelow_empty (lenient : Bool) (name : String) (segment : PathSegment)
    (rest : List PathSegment) : (empty name).textBelow lenient (segment :: rest) = "" := by
  rcases segment with key | key
  · rfl
  · cases rest with
    | nil => cases lenient <;> rfl
    | cons next rest => rfl

variable {text : String}

theorem name_writeBelow (text : String) (path : List PathSegment) (element : XmlElement) :
    (element.writeBelow text path).name = element.name := by
  obtain ⟨name, attributes, children⟩ := element
  unfold writeBelow
  split <;> rfl

/-- A path that ends at an attribute of an element, or goes on to a child. -/
theorem writeBelow_cons (text : String) (segment : PathSegment) (rest : List PathSegment)
    (element : XmlElement) :
    element.writeBelow text (segment :: rest) =
      if segment.isAttribute && rest.isEmpty then element.withAttribute segment.name text
      else element.withChild segment.name (writeBelow text rest) := by
  rcases segment with name | name
  · rfl
  · cases rest <;> rfl

theorem writeBelow_through (text : String) (segment next : PathSegment) (rest : List PathSegment)
    (element : XmlElement) :
    element.writeBelow text (segment :: next :: rest) =
      element.withChild segment.name (writeBelow text (next :: rest)) := by
  rw [writeBelow_cons, List.isEmpty_cons, Bool.and_false, if_neg Bool.false_ne_true]

section

variable (name : String) (path : List PathSegment) (element : XmlElement)

theorem child?_withChild_self :
    (element.withChild name (writeBelow text path)).child? name =
      some (((element.child? name).getD (.empty name)).writeBelow text path) := by
  obtain ⟨own, attributes, children⟩ := element
  exact findSome?_updateChild_self (name_writeBelow text path) name children

theorem child?_withChild_ne (different : other ≠ name) :
    (element.withChild name (writeBelow text path)).child? other = element.child? other := by
  obtain ⟨own, attributes, children⟩ := element
  exact findSome?_updateChild_ne (name_writeBelow text path) different children

theorem attribute?_withChild (update : XmlElement → XmlElement) :
    (element.withChild name update).attribute? other = element.attribute? other := by
  cases element
  rfl

theorem text_withChild (update : XmlElement → XmlElement) :
    (element.withChild name update).text = element.text := by
  obtain ⟨own, attributes, children⟩ := element
  exact foldl_updateChild name update children ""

theorem child?_withText (text : String) : (element.withText text).child? name = none := by
  cases element
  rfl

theorem attribute?_withText (text : String) :
    (element.withText text).attribute? name = element.attribute? name := by
  cases element
  rfl

theorem text_withText (text : String) : (element.withText text).text = text := by
  cases element
  exact String.empty_append

theorem child?_withAttribute (value : String) :
    (element.withAttribute name value).child? other = element.child? other := by
  cases element
  rfl

private theorem text_withAttribute (value : String) :
    (element.withAttribute name value).text = element.text := by
  cases element
  rfl

theorem attribute?_withAttribute_self (value : String) :
    (element.withAttribute name value).attribute? name = some value := by
  obtain ⟨own, attributes, children⟩ := element
  rw [withAttribute, attribute?, setAttribute_eq_writeEntry]
  exact lookup_writeEntry_self name value attributes

theorem attribute?_withAttribute_ne (different : other ≠ name) (value : String) :
    (element.withAttribute name value).attribute? other = element.attribute? other := by
  obtain ⟨own, attributes, children⟩ := element
  rw [withAttribute, attribute?, setAttribute_eq_writeEntry]
  exact lookup_writeEntry_ne different value attributes

end

section

variable {segment : PathSegment} {rest : List PathSegment}

theorem text_writeBelow_cons : (element.writeBelow text (segment :: rest)).text = element.text := by
  rw [writeBelow_cons]
  split
  · exact text_withAttribute _ _ text
  · exact text_withChild _ _ _

/-- A write changes nothing under the names that its path does not begin with. -/
theorem slot_writeBelow_ne (different : other ≠ segment.name) :
    (element.writeBelow text (segment :: rest)).slot other = element.slot other := by
  rw [writeBelow_cons]
  split
  · exact Prod.ext (child?_withAttribute _ _ text) (attribute?_withAttribute_ne _ _ different text)
  · exact Prod.ext (child?_withChild_ne _ _ _ different) (attribute?_withChild _ _ _)

/-- What a write makes of the name that its path begins with depends on nothing else. -/
theorem slot_writeBelow_congr {left right : XmlElement}
    (same : left.slot segment.name = right.slot segment.name) :
    (left.writeBelow text (segment :: rest)).slot segment.name =
      (right.writeBelow text (segment :: rest)).slot segment.name := by
  obtain ⟨child, value⟩ := Prod.mk.inj same
  rw [writeBelow_cons, writeBelow_cons]
  split
  · simp only [slot, child?_withAttribute, attribute?_withAttribute_self, child]
  · simp only [slot, child?_withChild_self, attribute?_withChild, child, value]

end

/-- A write leaves the text at every place apart from its own. -/
theorem textBelow_writeBelow_apart {segments path : List PathSegment}
    (apart : Apart (PathSegment.names path) (PathSegment.names segments)) (lenient : Bool) :
    (element.writeBelow text segments).textBelow lenient path = element.textBelow lenient path := by
  induction segments generalizing path element with
  | nil => exact absurd rfl apart.right_ne_nil
  | cons segment rest ih =>
    cases path with
    | nil => exact absurd rfl apart.left_ne_nil
    | cons first path =>
      by_cases same : first.name = segment.name
      · simp only [PathSegment.names, List.map_cons, same] at apart
        have inner := apart.of_cons
        cases rest with
        | nil => exact absurd rfl inner.right_ne_nil
        | cons next rest =>
          cases path with
          | nil => exact absurd rfl inner.left_ne_nil
          | cons second path =>
            rw [writeBelow_through]
            rcases first with name | name
            · rw [textBelow_element, textBelow_element, show name = segment.name from same,
                child?_withChild_self, Option.map_some, Option.getD_some, ih inner]
              cases element.child? segment.name with
              | none => exact textBelow_empty lenient _ second path
              | some child => rfl
            · rfl
      · exact textBelow_congr (slot_writeBelow_ne same) lenient path

end DerivedFields.XmlElement

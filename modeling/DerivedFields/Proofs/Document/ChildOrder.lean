import DerivedFields.Proofs.Document.Children
import DerivedFields.Proofs.Results

/-!
# The order of child elements and attributes

Two elements look alike if at the end of every way there is nothing below either of them, or
elements with the same text and the same attributes. Readers see no more than that: all texts of
elements that look alike are the same, and so are those of what the same writes leave of them. In
this sense the order of two writes apart from each other does not matter at all.
-/

namespace DerivedFields.XmlElement

/-- The element at the end of a way through first children. -/
def descendant? : List String → XmlElement → Option XmlElement
  | [], element => some element
  | name :: names, element => (element.child? name).bind (descendant? names)

/-- What can be read at an element itself. -/
def look (element : XmlElement) : String × String × (String → Option String) :=
  (element.name, element.text, fun name => element.attribute? name)

/-- The same can be read at the end of every way. -/
def Alike (first second : XmlElement) : Prop :=
  ∀ names, (first.descendant? names).map look = (second.descendant? names).map look

variable {first second : XmlElement}

private theorem Alike.refl (element : XmlElement) : Alike element element := fun _ => rfl

/-- Elements look alike if they do themselves and their children do. -/
theorem alike_iff :
    Alike first second ↔
      first.look = second.look ∧
        ∀ name, Option.Rel Alike (first.child? name) (second.child? name) := by
  constructor
  · intro alike
    refine ⟨Option.some.inj (alike []), fun name => ?_⟩
    have onward (names : List String) := alike (name :: names)
    simp only [descendant?] at onward
    cases inFirst : first.child? name with
    | none =>
      cases inSecond : second.child? name with
      | none => exact .none
      | some child =>
        rw [inFirst, inSecond] at onward
        cases onward []
    | some child =>
      cases inSecond : second.child? name with
      | none =>
        rw [inFirst, inSecond] at onward
        cases onward []
      | some other =>
        rw [inFirst, inSecond] at onward
        exact .some onward
  · rintro ⟨same, children⟩ names
    cases names with
    | nil => exact congrArg some same
    | cons name names =>
      have related := children name
      simp only [descendant?]
      generalize first.child? name = left, second.child? name = right at related ⊢
      cases related with
      | none => rfl
      | some alike => exact alike names

/-- Elements that look alike have the same text at every place. -/
theorem Alike.textBelow_eq (alike : Alike first second) (lenient : Bool) (path : List PathSegment) :
    first.textBelow lenient path = second.textBelow lenient path := by
  induction path generalizing first second with
  | nil =>
    obtain ⟨same, -⟩ := alike_iff.mp alike
    exact congrArg (·.2.1) same
  | cons segment rest ih =>
    obtain ⟨same, children⟩ := alike_iff.mp alike
    have related := children segment.name
    rcases segment with name | name
    · rw [textBelow_element, textBelow_element]
      simp only [PathSegment.name] at related
      generalize first.child? name = left, second.child? name = right at related ⊢
      cases related with
      | none => rfl
      | some inner => exact ih inner
    · cases rest with
      | cons next rest => rfl
      | nil =>
        have value : first.attribute? name = second.attribute? name :=
          congrFun (congrArg (·.2.2) same) name
        have text : (first.child? name).map XmlElement.text =
            (second.child? name).map XmlElement.text := by
          simp only [PathSegment.name] at related
          generalize first.child? name = left, second.child? name = right at related ⊢
          cases related with
          | none => rfl
          | some inner => exact congrArg some (congrArg (·.2.1) (alike_iff.mp inner).1)
        rw [textBelow, textBelow, attributeText, attributeText, value, text]

private theorem look_eq_iff :
    first.look = second.look ↔
      first.name = second.name ∧ first.text = second.text ∧
        ∀ name, first.attribute? name = second.attribute? name := by
  simp only [look, Prod.mk.injEq, funext_iff]

theorem Alike.name_eq (alike : Alike first second) : first.name = second.name :=
  (look_eq_iff.mp (alike_iff.mp alike).1).1

/-- Elements with the same text that have the same under every name look alike. -/
theorem alike_of_slots (name : first.name = second.name) (text : first.text = second.text)
    (same : ∀ name, first.slot name = second.slot name) : Alike first second := by
  refine alike_iff.mpr ⟨look_eq_iff.mpr ⟨name, text, fun key => ?_⟩, fun key => ?_⟩
  · exact (Prod.mk.inj (same key)).2
  · rw [(Prod.mk.inj (same key)).1]
    exact rel_of_eq Alike.refl _

private theorem look_withChild (name text : String) (path : List PathSegment) (element : XmlElement) :
    (element.withChild name (writeBelow text path)).look = element.look := by
  simp only [look, text_withChild, attribute?_withChild]
  cases element
  rfl

variable {text other : String}

/-- Elements that look alike still do after the same write. -/
theorem Alike.writeBelow {path : List PathSegment} (alike : Alike first second) :
    Alike (first.writeBelow text path) (second.writeBelow text path) := by
  induction path generalizing first second with
  | nil =>
    obtain ⟨same, -⟩ := alike_iff.mp alike
    obtain ⟨name, -, attributes⟩ := look_eq_iff.mp same
    refine alike_iff.mpr ⟨look_eq_iff.mpr ⟨?_, ?_, fun key => ?_⟩, fun key => ?_⟩
    · rw [name_writeBelow, name_writeBelow, name]
    · rw [XmlElement.writeBelow, XmlElement.writeBelow, text_withText, text_withText]
    · rw [XmlElement.writeBelow, XmlElement.writeBelow, attribute?_withText, attribute?_withText,
        attributes]
    · rw [XmlElement.writeBelow, XmlElement.writeBelow, child?_withText, child?_withText]
      exact .none
  | cons segment rest ih =>
    obtain ⟨same, children⟩ := alike_iff.mp alike
    obtain ⟨name, shown, attributes⟩ := look_eq_iff.mp same
    refine alike_iff.mpr ⟨look_eq_iff.mpr ⟨?_, ?_, fun key => ?_⟩, fun key => ?_⟩
    · rw [name_writeBelow, name_writeBelow, name]
    · rw [text_writeBelow_cons, text_writeBelow_cons, shown]
    · rw [writeBelow_cons, writeBelow_cons]
      split
      · by_cases here : key = segment.name
        · rw [here, attribute?_withAttribute_self, attribute?_withAttribute_self]
        · rw [attribute?_withAttribute_ne _ _ here, attribute?_withAttribute_ne _ _ here,
            attributes]
      · rw [attribute?_withChild, attribute?_withChild, attributes]
    · rw [writeBelow_cons, writeBelow_cons]
      split
      · rw [child?_withAttribute, child?_withAttribute]
        exact children key
      · by_cases here : key = segment.name
        · rw [here, child?_withChild_self, child?_withChild_self]
          exact .some (ih (rel_getD (children segment.name) (.refl _)))
        · rw [child?_withChild_ne _ _ _ here, child?_withChild_ne _ _ _ here]
          exact children key

/-- Two writes apart from each other come to the same in either order. -/
theorem writeBelow_comm {path place : List PathSegment}
    (apart : Apart (PathSegment.names path) (PathSegment.names place)) (element : XmlElement) :
    Alike ((element.writeBelow text path).writeBelow other place)
      ((element.writeBelow other place).writeBelow text path) := by
  induction path generalizing place element with
  | nil => exact absurd rfl apart.left_ne_nil
  | cons segment rest ih =>
    cases place with
    | nil => exact absurd rfl apart.right_ne_nil
    | cons first place =>
      simp only [PathSegment.names, List.map_cons] at apart
      by_cases same : first.name = segment.name
      · rw [same] at apart
        have deeper := apart.of_cons
        cases rest with
        | nil => exact absurd rfl deeper.left_ne_nil
        | cons next rest =>
          cases place with
          | nil => exact absurd rfl deeper.right_ne_nil
          | cons second place =>
            simp only [writeBelow_through]
            refine alike_iff.mpr ⟨?_, fun key => ?_⟩
            · simp only [look_withChild]
            · rw [same]
              by_cases here : key = segment.name
              · rw [here]
                simp only [child?_withChild_self, Option.getD_some]
                exact .some (ih deeper _)
              · simp only [child?_withChild_ne _ _ _ here]
                exact rel_of_eq Alike.refl _
      · refine alike_of_slots ?_ ?_ fun key => ?_
        · simp only [name_writeBelow]
        · simp only [text_writeBelow_cons]
        · by_cases here : key = first.name
          · subst here
            rw [slot_writeBelow_congr (slot_writeBelow_ne same), slot_writeBelow_ne same]
          · rw [slot_writeBelow_ne here]
            by_cases there : key = segment.name
            · subst there
              exact (slot_writeBelow_congr (slot_writeBelow_ne here)).symm
            · rw [slot_writeBelow_ne there, slot_writeBelow_ne there, slot_writeBelow_ne here]

end DerivedFields.XmlElement

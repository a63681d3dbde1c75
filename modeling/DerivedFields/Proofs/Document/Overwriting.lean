import DerivedFields.Proofs.Document.Target

/-!
# Reading and writing again what was written

The text at a place is the one that was last written to it, and nothing else remains of the texts
that were written there before: neither a member, an attribute or a child, nor a trace in their
order. Readers and writers take the same steps, so both follow from what a write makes of the name
that its path begins with.
-/

namespace DerivedFields

open PathSegment (Descends descends_cons descends_tail descends_belowRoot)

variable {text other : String} {path : List PathSegment}

namespace Json

/-- A member that text is written to lies on a way through elements, and readers find it there. -/
theorem textAt_of_write?_self {members written : List (String × Json)} (nonempty : path ≠ [])
    (descends : Descends path) (success : write? text path members = some written)
    (lenient : Bool) : textAt lenient path (.object written) = text := by
  induction path generalizing members written with
  | nil => exact absurd rfl nonempty
  | cons segment rest ih =>
    rw [write?_cons] at success
    obtain ⟨value, replaced, rfl⟩ := Option.map_eq_some_iff.mp success
    rw [textAt_cons_object, member?_setMember_self, Option.map_some, Option.getD_some]
    cases rest with
    | nil =>
      simp only [replacement?] at replaced
      split at replaced
      · cases replaced
      · rename_i element
        cases replaced
        rw [Bool.not_eq_true] at element
        rw [element, Bool.false_and, if_neg Bool.false_ne_true]
        rfl
    | cons next rest =>
      obtain ⟨element, deeper⟩ := descends_cons.mp descends
      obtain ⟨inner, -, replaced⟩ := Option.bind_eq_some_iff.mp replaced
      obtain ⟨below, wrote, rfl⟩ := Option.map_eq_some_iff.mp replaced
      rw [element, Bool.false_and, if_neg Bool.false_ne_true]
      exact ih (List.cons_ne_nil _ _) deeper wrote

/-- Of two texts written at a place the second stays. -/
theorem write?_bind_write?_self (members : List (String × Json)) :
    (write? text path members).bind (write? other path) = write? other path members := by
  induction path generalizing members with
  | nil => rfl
  | cons segment rest ih =>
    cases rest with
    | nil =>
      rw [write?_cons, write?_cons]
      simp only [replacement?]
      split
      · rfl
      · rename_i element
        simp only [Option.map_some, Option.bind_some]
        rw [write?_cons, replacement?, if_neg element, Option.map_some, setMember_setMember]
    | cons next rest =>
      rw [write?_bind_write?_through rfl, write?_cons, replacement?]
      simp only [ih]
      cases membersBelow? (member? segment.name members) with
      | none => rfl
      | some inner =>
        simp only [Option.bind_some, Option.map_map]
        rfl

end Json

namespace XmlElement

/-- Readers take the children that a write goes through, and end where it ends. -/
theorem textBelow_writeBelow_self (descends : Descends path) (element : XmlElement)
    (lenient : Bool) : (element.writeBelow text path).textBelow lenient path = text := by
  induction path generalizing element with
  | nil => exact text_withText element text
  | cons segment rest ih =>
    rcases segment with name | name
    · rw [writeBelow_cons, PathSegment.isAttribute, Bool.false_and, if_neg Bool.false_ne_true,
        textBelow_element]
      simp only [PathSegment.name]
      rw [child?_withChild_self, Option.map_some, Option.getD_some]
      exact ih (descends_tail descends) _
    · cases rest with
      | nil =>
        rw [writeBelow, textBelow, attributeText, attribute?_withAttribute_self]
      | cons next rest => cases (descends_cons.mp descends).1

/-- A child is found again by its name, so two changes to it are one. -/
theorem updateChild_updateChild (name : String) {first second : XmlElement → XmlElement}
    (keeps : ∀ element, (first element).name = element.name) (nodes : List XmlNode) :
    updateChild name second (updateChild name first nodes) =
      updateChild name (fun element => second (first element)) nodes := by
  have here (element : XmlElement) (named : element.name = name) :
      XmlNode.named? name (.element (first element)) = some (first element) :=
    if_pos ((keeps element).trans named)
  induction nodes with
  | nil => simp only [updateChild, here (.empty name) rfl]
  | cons node rest ih =>
    cases found : node.named? name with
    | none => simp only [updateChild, found, ih]
    | some element => simp only [updateChild, found, here element (eq_element_of_named? found).2]

private theorem withChild_withChild (name : String) {first second : XmlElement → XmlElement}
    (keeps : ∀ element, (first element).name = element.name) (element : XmlElement) :
    (element.withChild name first).withChild name second =
      element.withChild name fun child => second (first child) := by
  obtain ⟨own, attributes, children⟩ := element
  simp only [withChild, updateChild_updateChild name keeps]

/-- Of two texts written at a place the second stays. -/
theorem writeBelow_writeBelow (element : XmlElement) :
    (element.writeBelow text path).writeBelow other path = element.writeBelow other path := by
  induction path generalizing element with
  | nil =>
    cases element
    rfl
  | cons segment rest ih =>
    rw [writeBelow_cons, writeBelow_cons, writeBelow_cons]
    split
    · obtain ⟨own, attributes, children⟩ := element
      simp only [withAttribute, setAttribute_eq_writeEntry, writeEntry_writeEntry]
    · rw [withChild_withChild segment.name (name_writeBelow text rest)]
      simp only [ih]

end XmlElement

namespace Document

variable {document written : Document} {target : Path}

/-- The text at a place is the one written to it, for strict and lenient readers. -/
theorem resolve_of_write?_self (nonempty : target.segments ≠ [])
    (descends : Descends target.segments) (success : document.write? target text = some written)
    (lenient : Bool) : written.resolve target lenient = text := by
  cases document with
  | json members =>
    rw [write?_json] at success
    obtain ⟨_, wrote, rfl⟩ := Option.map_eq_some_iff.mp success
    exact Json.textAt_of_write?_self nonempty descends wrote lenient
  | xml root =>
    rw [write?_xml] at success
    cases success
    have same := XmlElement.name_writeBelow text (root.belowRoot target.segments) root
    simp only [resolve, XmlElement.textAt, XmlElement.belowRoot_congr same]
    exact XmlElement.textBelow_writeBelow_self (descends_belowRoot descends root) root lenient

/-- Of two texts written at a place the second stays. -/
theorem write?_bind_write?_self (document : Document) (target : Path) (text other : String) :
    (document.write? target text).bind (·.write? target other) = document.write? target other := by
  cases document with
  | json members =>
    rw [write?_json_bind_write?, write?_json, Json.write?_bind_write?_self]
  | xml root =>
    have same := XmlElement.name_writeBelow text (root.belowRoot target.segments) root
    simp only [write?_xml, Option.bind_some, XmlElement.belowRoot_congr same,
      XmlElement.writeBelow_writeBelow]

/-- Text written to a target is the text there, and a later write leaves what it would have left
without the first. An XML document takes text at every target. -/
theorem set_read_back :
    (∀ (document written : Document) (path text : String),
      document.set path text = (written, .ok ()) →
        (∀ lenient, written.resolve (Path.parse path) lenient = text) ∧
          ∀ other, ∃ again, document.set path other = (again, .ok ()) ∧
            written.set path other = (again, .ok ())) ∧
      ∀ (root : XmlElement) (path text : String),
        (∃ target, Path.parseTarget path = .ok target) →
          ∃ written, (xml root).set path text = (written, .ok ()) := by
  constructor
  · intro document written path text success
    obtain ⟨target, parsed, wrote⟩ := set_eq_ok_iff.mp success
    obtain ⟨spelled, nonempty, -, descends⟩ := Path.parseTarget_eq_ok_iff.mp parsed
    constructor
    · intro lenient
      rw [← spelled]
      exact resolve_of_write?_self nonempty descends wrote lenient
    · intro other
      have settled := document.write?_bind_write?_self target text other
      have undone := document.write?_bind_write?_self target other text
      rw [wrote] at settled undone
      obtain ⟨again, rewrote, -⟩ := Option.bind_eq_some_iff.mp undone
      refine ⟨again, set_eq_ok_iff.mpr ⟨target, parsed, rewrote⟩, ?_⟩
      exact set_eq_ok_iff.mpr ⟨target, parsed, settled.trans rewrote⟩
  · rintro root path text ⟨target, parsed⟩
    exact ⟨_, set_eq_ok_iff.mpr ⟨target, parsed, write?_xml root target text⟩⟩

/-- A null is no obstacle to a JSON document, nor is a child of the same name to an attribute. -/
theorem set_read_back_below_null :
    (json [("x", .null), ("y", .null)]).set "x/b" "1" =
        (json [("x", .object [("b", .string "1")]), ("y", .null)], .ok ()) ∧
      ((∀ lenient, (json [("x", .object [("b", .string "1")]), ("y", .null)]).resolve
          (Path.parse "x/b") lenient = "1") ∧
        ∀ other, ∃ again,
          (json [("x", .null), ("y", .null)]).set "x/b" other = (again, .ok ()) ∧
            (json [("x", .object [("b", .string "1")]), ("y", .null)]).set "x/b" other =
              (again, .ok ())) ∧
      Path.parseTarget "r/@k" = .ok ⟨[.element "r", .attribute "k"]⟩ ∧
      ∃ written, (xml (.mk "r" [] [.element (.mk "k" [] [.text "child"])])).set "r/@k" "2" =
        (written, .ok ()) := by
  have success : (json [("x", .null), ("y", .null)]).set "x/b" "1" =
      (json [("x", .object [("b", .string "1")]), ("y", .null)], .ok ()) := by
    have parsed : Path.parseTarget "x/b" = .ok ⟨[.element "x", .element "b"]⟩ := by cbv
    rw [set, parsed]
    rfl
  have parsed : Path.parseTarget "r/@k" = .ok ⟨[.element "r", .attribute "k"]⟩ := by cbv
  refine ⟨success, ?_, parsed, ?_⟩
  · exact set_read_back.1 _ _ _ _ success
  · exact set_read_back.2 _ _ _ ⟨_, parsed⟩

end Document

end DerivedFields

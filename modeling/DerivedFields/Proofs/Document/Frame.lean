import DerivedFields.Proofs.Document.Target

/-!
# What a write leaves alone

At each object or element on its way a write changes the one entry that its path names next, or adds
that entry behind all others. `Placed` states this of a list of entries, `ChangedAlong` of a whole
tree: all other members, attributes and children are the same and stand in the same order. Readers
of a place apart from the one written to see no change at all.
-/

namespace DerivedFields

open PathSegment (Descends descends_cons descends_tail descends_belowRoot)

variable {text : String} {path : List PathSegment}

namespace Json

variable {members written : List (String × Json)}

private theorem placed_setMember (key : String) (value : Json) (members : List (String × Json)) :
    Placed (fun member => member.1 = key) (key, value) ((member? key members).map fun old => (key, old))
      members (setMember key value members) := by
  rw [setMember_eq_writeEntry]
  exact placed_writeEntry key value members

/-- Objects on a way are changed in the one member that the way goes through. Where there is
nothing or a null, the way goes through an object that was empty. `atEnd` says what happens to the
last object for the last step. -/
inductive ChangedAlong
    (atEnd : PathSegment → List (String × Json) → List (String × Json) → Prop) :
    List PathSegment → List (String × Json) → List (String × Json) → Prop
  | last {segment : PathSegment} {members written : List (String × Json)}
    (done : atEnd segment members written) : ChangedAlong atEnd [segment] members written
  | through {name : String} {next : PathSegment} {rest : List PathSegment}
    {members written inner deeper : List (String × Json)} {old : Option Json}
    (placed : Placed (fun member => member.1 = name) (name, .object deeper)
      (old.map fun value => (name, value)) members written)
    (below : membersBelow? old = some inner)
    (onward : ChangedAlong atEnd (next :: rest) inner deeper) :
    ChangedAlong atEnd (.element name :: next :: rest) members written

/-- A change below a member is written back to it. -/
theorem changedAlong_setMember
    {atEnd : PathSegment → List (String × Json) → List (String × Json) → Prop}
    {segment next : PathSegment} {rest : List PathSegment} {inner deeper : List (String × Json)}
    (element : segment.isAttribute = false)
    (below : membersBelow? (member? segment.name members) = some inner)
    (onward : ChangedAlong atEnd (next :: rest) inner deeper) :
    ChangedAlong atEnd (segment :: next :: rest) members
      (setMember segment.name (.object deeper) members) := by
  rcases segment with name | name
  · exact .through (placed_setMember name (.object deeper) members) below onward
  · cases element

/-- The last object of a way has text in the member that the last step names. -/
def Receives (text : String) (segment : PathSegment) (members written : List (String × Json)) :
    Prop :=
  ∃ name old, segment = .element name ∧
    Placed (fun member => member.1 = name) (name, .string text) old members written

/-- A write changes the objects on its way in one member each. -/
theorem changedAlong_of_write? (nonempty : path ≠ []) (descends : Descends path)
    (success : write? text path members = some written) :
    ChangedAlong (Receives text) path members written := by
  induction path generalizing members written with
  | nil => exact absurd rfl nonempty
  | cons segment rest ih =>
    rw [write?_cons] at success
    obtain ⟨value, replaced, rfl⟩ := Option.map_eq_some_iff.mp success
    cases rest with
    | nil =>
      rcases segment with name | name
      · cases replaced
        exact .last ⟨name, _, rfl, placed_setMember name (.string text) members⟩
      · cases replaced
    | cons next rest =>
      obtain ⟨element, deeper⟩ := descends_cons.mp descends
      obtain ⟨inner, below, replaced⟩ := Option.bind_eq_some_iff.mp replaced
      obtain ⟨changed, wrote, rfl⟩ := Option.map_eq_some_iff.mp replaced
      exact changedAlong_setMember element below (ih (List.cons_ne_nil _ _) deeper wrote)

end Json

namespace XmlElement

private theorem placed_updateChild (name : String) (update : XmlElement → XmlElement)
    (nodes : List XmlNode) :
    Placed (fun node => (node.named? name).isSome = true)
      (.element (update ((nodes.findSome? (XmlNode.named? name)).getD (.empty name))))
      ((nodes.findSome? (XmlNode.named? name)).map .element) nodes
      (updateChild name update nodes) := by
  induction nodes with
  | nil => exact .nil
  | cons node rest ih =>
    rw [updateChild, List.findSome?_cons]
    cases found : node.named? name with
    | none =>
      refine ih.cons ?_
      rw [found]
      exact Bool.false_ne_true
    | some element =>
      obtain ⟨rfl, -⟩ := eq_element_of_named? found
      refine .here ?_ rest
      rw [found]
      rfl

/-- Elements on a way are changed in the one child that the way goes through, which is an empty
element if there was none, and the last element in its text or in one attribute. -/
inductive ChangedAlong (text : String) : List PathSegment → XmlElement → XmlElement → Prop
  | content {name : String} {attributes : List (String × String)} {children : List XmlNode} :
    ChangedAlong text [] (.mk name attributes children) (.mk name attributes [.text text])
  | attribute {key name : String} {old : Option (String × String)}
    {attributes written : List (String × String)} {children : List XmlNode}
    (placed : Placed (fun entry => entry.1 = key) (key, text) old attributes written) :
    ChangedAlong text [.attribute key] (.mk name attributes children) (.mk name written children)
  | child {key name : String} {rest : List PathSegment} {attributes : List (String × String)}
    {children written : List XmlNode} {old : Option XmlElement} {deeper : XmlElement}
    (placed : Placed (fun node => (node.named? key).isSome = true) (.element deeper)
      (old.map .element) children written)
    (onward : ChangedAlong text rest (old.getD (.empty key)) deeper) :
    ChangedAlong text (.element key :: rest) (.mk name attributes children)
      (.mk name attributes written)

/-- A write changes the elements on its way in one attribute or child each. -/
theorem changedAlong_writeBelow (descends : Descends path) (element : XmlElement) :
    ChangedAlong text path element (element.writeBelow text path) := by
  induction path generalizing element with
  | nil =>
    cases element
    exact .content
  | cons segment rest ih =>
    obtain ⟨own, attributes, children⟩ := element
    rcases segment with key | key
    · exact .child (placed_updateChild key (writeBelow text rest) children)
        (ih (descends_tail descends) _)
    · cases rest with
      | nil =>
        rw [writeBelow, withAttribute, setAttribute_eq_writeEntry]
        exact .attribute (placed_writeEntry key text attributes)
      | cons next rest => cases (descends_cons.mp descends).1

end XmlElement

namespace Document

variable {document written : Document}

/-- Nothing in a document is changed but what lies on the way to a place, and there one entry at
each step. -/
inductive ChangedAlong (path : Path) (text : String) : Document → Document → Prop
  | json {members written : List (String × Json)}
    (changed : Json.ChangedAlong (Json.Receives text) path.segments members written) :
    ChangedAlong path text (.json members) (.json written)
  | xml {root written : XmlElement}
    (changed : root.ChangedAlong text (root.belowRoot path.segments) written) :
    ChangedAlong path text (.xml root) (.xml written)

/-- A write changes a document along its way only. -/
theorem changedAlong_of_write? {target : Path} (nonempty : target.segments ≠ [])
    (descends : Descends target.segments) (success : document.write? target text = some written) :
    ChangedAlong target text document written := by
  cases document with
  | json members =>
    rw [write?_json] at success
    obtain ⟨_, wrote, rfl⟩ := Option.map_eq_some_iff.mp success
    exact .json (Json.changedAlong_of_write? nonempty descends wrote)
  | xml root =>
    rw [write?_xml] at success
    cases success
    exact .xml (XmlElement.changedAlong_writeBelow (descends_belowRoot descends root) root)

/-- After text is written to a target, strict and lenient readers find what they found before at
every place apart from it. Each object or element on the way keeps its other members, attributes
and children as they were and where they were, and has at most one more, behind them. -/
theorem set_frame {path : String} (success : document.set path text = (written, .ok ())) :
    (∀ place, Apart (document.names place) (document.names (Path.parse path)) →
      ∀ lenient, written.resolve place lenient = document.resolve place lenient) ∧
    ChangedAlong (Path.parse path) text document written := by
  obtain ⟨target, parsed, wrote⟩ := set_eq_ok_iff.mp success
  obtain ⟨rfl, nonempty, -, descends⟩ := Path.parseTarget_eq_ok_iff.mp parsed
  constructor
  · intro place apart lenient
    exact resolve_of_write?_apart apart wrote lenient
  · exact changedAlong_of_write? nonempty descends wrote

/-- The second child of a name is neither written to nor moved. -/
theorem set_frame_second_child :
    let before := xml (.mk "r" [] [.text "t", .element (.mk "a" [] []),
      .element (.mk "a" [("k", "2")] [])])
    let after := xml (.mk "r" [] [.text "t", .element (.mk "a" [("k", "1")] []),
      .element (.mk "a" [("k", "2")] [])])
    before.set "r/a/@k" "1" = (after, .ok ()) ∧
      Apart (before.names ⟨[.element "r", .element "b"]⟩) (before.names (Path.parse "r/a/@k")) ∧
      (∀ lenient, after.resolve ⟨[.element "r", .element "b"]⟩ lenient =
        before.resolve ⟨[.element "r", .element "b"]⟩ lenient) ∧
      ChangedAlong (Path.parse "r/a/@k") "1" before after := by
  intro before after
  have success : before.set "r/a/@k" "1" = (after, .ok ()) := by cbv
  have onA : Path.parse "r/a/@k" = ⟨[.element "r", .element "a", .attribute "k"]⟩ := by cbv
  have apart : Apart (before.names ⟨[.element "r", .element "b"]⟩)
      (before.names (Path.parse "r/a/@k")) := by
    rw [onA]
    constructor <;> decide
  obtain ⟨elsewhere, changed⟩ := set_frame success
  exact ⟨success, apart, elsewhere _ apart, changed⟩

end Document

end DerivedFields

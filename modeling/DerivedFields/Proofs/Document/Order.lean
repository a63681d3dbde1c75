import DerivedFields.Document.Basic
import DerivedFields.Proofs.Document.ChildOrder
import DerivedFields.Proofs.Document.MemberOrder

/-!
# The order of writes to a document

Two writes to places apart from each other both succeed in one order if and only if they do in the
other, and leave documents that have the same texts everywhere, except that a JSON object on the way
to both places may show its members in another order.
-/

namespace DerivedFields

theorem XmlElement.belowRoot_congr {first second : XmlElement} (same : first.name = second.name) :
    first.belowRoot = second.belowRoot := by
  funext segments
  unfold belowRoot
  rw [same]

namespace Document

/-- The names on the way to a place in a document; a first one for the document element of an XML
document does not count. -/
def names (document : Document) (path : Path) : List String :=
  match document with
  | .json _ => PathSegment.names path.segments
  | .xml root => PathSegment.names (root.belowRoot path.segments)

/-- The document with text written at a parsed path, if nothing prevents it. -/
def write? (document : Document) (path : Path) (text : String) : Option Document :=
  match document.write path text with
  | (written, none) => some written
  | (_, some _) => none

theorem write?_json (members : List (String × Json)) (path : Path) (text : String) :
    (json members).write? path text = (Json.write? text path.segments members).map json := by
  simp only [write?, write, Json.write?]
  rcases Json.writeAt text path.segments members with ⟨written, _ | fault⟩ <;> rfl

/-- Two writes to a JSON document are two writes to its members. -/
theorem write?_json_bind_write? (members : List (String × Json)) (path place : Path)
    (text other : String) :
    ((json members).write? path text).bind (·.write? place other) =
      ((Json.write? text path.segments members).bind (Json.write? other place.segments)).map
        json := by
  rw [write?_json]
  cases Json.write? text path.segments members with
  | none => rfl
  | some written => exact write?_json written place other

theorem write?_xml (root : XmlElement) (path : Path) (text : String) :
    (xml root).write? path text =
      some (.xml (root.writeBelow text (root.belowRoot path.segments))) := rfl

/-- Documents that differ at most on a way, in the order of members or in what was made of that. -/
inductive Alike : List String → Document → Document → Prop
  | json {names : List String} {first second : List (String × Json)}
    (alike : Json.Alike names (.object first) (.object second)) :
    Alike names (.json first) (.json second)
  | xml {names : List String} {first second : XmlElement} (alike : first.Alike second) :
    Alike names (.xml first) (.xml second)

variable {document first second written : Document} {path place : Path} {text other : String}
  {shared : List String}

/-- Documents that are alike have the same texts, except those of JSON objects on the way. -/
theorem Alike.resolve_eq (alike : Alike shared first second)
    (outside : first.format = .json → ¬first.names path <+: shared) (lenient : Bool) :
    first.resolve path lenient = second.resolve path lenient := by
  cases alike with
  | json alike => exact alike.textAt_eq (outside rfl) lenient
  | xml alike =>
    simp only [resolve, XmlElement.textAt, XmlElement.belowRoot_congr alike.name_eq]
    exact alike.textBelow_eq lenient _

/-- A write keeps documents alike, and fails in both of them or in neither. -/
theorem Alike.write? (alike : Alike shared first second)
    (texts : text = other ∨ first.format = .json ∧ first.names path <+: shared) :
    Option.Rel (Alike shared) (first.write? path text) (second.write? path other) := by
  cases alike with
  | json alike =>
    rw [write?_json, write?_json]
    exact rel_map (alike.write? (texts.imp_right (·.2))) fun _ _ alike => .json alike
  | xml alike =>
    have texts : text = other := texts.resolve_right fun ⟨isJson, _⟩ => Format.noConfusion isJson
    rw [write?_xml, write?_xml, texts, XmlElement.belowRoot_congr alike.name_eq]
    exact .some (.xml alike.writeBelow)

/-- A write leaves the ways in a document as they are. -/
theorem names_of_write? (success : document.write? path text = some written) :
    written.names = document.names ∧ written.format = document.format := by
  cases document with
  | json members =>
    rw [write?_json] at success
    obtain ⟨_, -, rfl⟩ := Option.map_eq_some_iff.mp success
    exact ⟨rfl, rfl⟩
  | xml root =>
    rw [write?_xml] at success
    cases success
    have same := XmlElement.name_writeBelow text (root.belowRoot path.segments) root
    refine ⟨?_, rfl⟩
    funext path
    simp only [names, XmlElement.belowRoot_congr same]

/-- A write leaves the text at every place apart from its own. -/
theorem resolve_of_write?_apart (apart : Apart (document.names place) (document.names path))
    (success : document.write? path text = some written) (lenient : Bool) :
    written.resolve place lenient = document.resolve place lenient := by
  cases document with
  | json members =>
    rw [write?_json] at success
    obtain ⟨_, wrote, rfl⟩ := Option.map_eq_some_iff.mp success
    exact Json.textAt_of_write?_apart apart wrote lenient
  | xml root =>
    rw [write?_xml] at success
    cases success
    have same := XmlElement.name_writeBelow text (root.belowRoot path.segments) root
    simp only [resolve, XmlElement.textAt, XmlElement.belowRoot_congr same]
    exact XmlElement.textBelow_writeBelow_apart apart lenient

/-- Two writes apart from each other come to the same in either order. -/
theorem write?_comm (apart : Apart (document.names path) (document.names place)) :
    Option.Rel (Alike (sharedNames (document.names path) (document.names place)))
      ((document.write? path text).bind (·.write? place other))
      ((document.write? place other).bind (·.write? path text)) := by
  cases document with
  | json members =>
    rw [write?_json_bind_write?, write?_json_bind_write?]
    exact rel_map (Json.write?_comm members apart) fun _ _ alike => .json alike
  | xml root =>
    have keeps (text : String) (path : List PathSegment) :=
      XmlElement.belowRoot_congr (XmlElement.name_writeBelow text path root)
    simp only [write?_xml, Option.bind_some, keeps]
    exact .some (.xml (XmlElement.writeBelow_comm apart root))

end Document

end DerivedFields

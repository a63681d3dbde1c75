import DerivedFields.Document.Basic
import DerivedFields.Proofs.Json.RoundTrip

/-!
# Reading back a rendered document

A JSON document is read back from its rendering, and an object or array inside it from the compact
text that a path leads to. What a path leads to is part of the document, and so has everything that
reading back takes.
-/

namespace DerivedFields

namespace Json

variable {json part : Json} {lenient : Bool}

def isContainer : Json → Bool
  | .array _ | .object _ => true
  | _ => false

private theorem fieldText_of_isContainer (container : json.isContainer = true) :
    json.fieldText = json.toCompactText := by
  cases json with
  | array | object => rfl
  | null | boolean | number | string => cases container

/-- The value at a path, if no step is missing. -/
def valueAt? (lenient : Bool) : List PathSegment → Json → Option Json
  | [], json => some json
  | segment :: rest, json => (step? lenient segment json).bind (valueAt? lenient rest)

/-- Readers get the text of the value that a path leads to. -/
theorem textAt_of_valueAt? {path : List PathSegment}
    (found : valueAt? lenient path json = some part) :
    textAt lenient path json = part.fieldText := by
  induction path generalizing json with
  | nil =>
    obtain rfl := Option.some.inj found
    rfl
  | cons segment rest ih =>
    rw [valueAt?] at found
    obtain ⟨next, stepped, onward⟩ := Option.bind_eq_some_iff.mp found
    simp only [textAt, stepped]
    exact ih onward

/-- A step leads to an item or a member. -/
theorem within_of_step? {segment : PathSegment} (stepped : step? lenient segment json = some part) :
    Within part json := by
  have ofMember {key : String} {members : List (String × Json)}
      (found : member? key members = some part) : Within part (.object members) := by
    obtain ⟨front, back, split, -⟩ := List.lookup_eq_some_iff.mp found
    have present : (key, part) ∈ members := by
      rw [split]
      exact List.mem_append_right _ (List.mem_cons_self ..)
    exact .member present .self
  cases json with
  | object members =>
    rcases segment with name | name
    · exact ofMember stepped
    · cases lenient with
      | true => exact ofMember stepped
      | false => cases stepped
  | array items =>
    rcases segment with name | name
    · obtain ⟨index, -, found⟩ := Option.bind_eq_some_iff.mp stepped
      exact .item (List.mem_of_getElem? found) .self
    · cases stepped
  | null | boolean | number | string => rcases segment with name | name <;> cases stepped

/-- A path leads to a part of the value that it begins at. -/
theorem within_of_valueAt? {path : List PathSegment}
    (found : valueAt? lenient path json = some part) : Within part json := by
  induction path generalizing json with
  | nil =>
    obtain rfl := Option.some.inj found
    exact .self
  | cons segment rest ih =>
    rw [valueAt?] at found
    obtain ⟨next, stepped, onward⟩ := Option.bind_eq_some_iff.mp found
    exact (ih onward).trans (within_of_step? stepped)

end Json

namespace Document

open Json (Within Integral DistinctKeys nesting valueAt?)

variable {members : List (String × Json)}

/-- A JSON document of integers is read back from its rendering, and each of its objects and arrays
from its compact text. Containers may stand 127 deep. -/
theorem parse_render_json (integral : Integral (.object members))
    (distinct : DistinctKeys (.object members)) (shallow : nesting (.object members) ≤ 127) :
    parse (render (.json members)) .json = .ok (.json members) ∧
      (∀ part, Within part (.object members) → Json.read? part.toCompactText = some part) ∧
      ∀ path lenient part, valueAt? lenient path.segments (.object members) = some part →
        part.isContainer = true →
          resolve (.json members) path lenient = part.toCompactText ∧
            Json.read? (resolve (.json members) path lenient) = some part := by
  have below {part : Json} (within : Within part (.object members)) :
      nesting part < Json.depthLimit := by
    have deepest := within.nesting_le
    rw [Json.depthLimit]
    omega
  have readPart {part : Json} (within : Within part (.object members)) :
      Json.read? part.toCompactText = some part :=
    Json.read?_toCompactText (integral.within within) (distinct.within within) (below within)
  refine ⟨?_, fun _ within => readPart within, ?_⟩
  · have back := Json.read?_toPrettyText integral distinct (below .self)
    rw [parse, parseJson, render, back]
  · intro path lenient part found container
    have text : resolve (.json members) path lenient = part.toCompactText := by
      rw [resolve, Json.textAt_of_valueAt? found, Json.fieldText_of_isContainer container]
    rw [text]
    exact ⟨rfl, readPart (Json.within_of_valueAt? found)⟩

/-- The least and the greatest integer, characters of each kind and empty containers. -/
def corners : List (String × Json) :=
  [("numbers", .array [.number (.integer (-9223372036854775808)),
      .number (.integer 18446744073709551615), .number (.integer 0)]),
    ("a\"/\\\n\x1f", .string "é\x00😀"),
    ("inner", .object [("", .object []), ("list", .array [.array [], .null, .boolean true])])]

/-- The corner cases are read back, at the root and below. -/
theorem parse_render_json_corners :
    (Integral (.object corners) ∧ DistinctKeys (.object corners) ∧
      nesting (.object corners) ≤ 127) ∧
    parse (render (.json corners)) .json = .ok (.json corners) ∧
    Json.read? (resolve (.json corners) (Path.parse "inner/list") false) =
      some (.array [.array [], .null, .boolean true]) := by
  have integral : Integral (.object corners) := by
    simp [Integral, corners, Json.throughout_object, Json.throughout_array, Json.throughout_atom,
      Json.Fits]
  have distinct : DistinctKeys (.object corners) := by
    simp [DistinctKeys, corners, Json.throughout_object, Json.throughout_array,
      Json.throughout_atom]
  have shallow : nesting (.object corners) ≤ 127 := by decide
  have parsed : Path.parse "inner/list" = ⟨[.element "inner", .element "list"]⟩ := by cbv
  have leads : valueAt? false (Path.parse "inner/list").segments (.object corners) =
      some (.array [.array [], .null, .boolean true]) := by
    rw [parsed]
    rfl
  refine ⟨⟨integral, distinct, shallow⟩, (parse_render_json integral distinct shallow).1, ?_⟩
  exact ((parse_render_json integral distinct shallow).2.2 _ _ _ leads rfl).2

end Document

end DerivedFields

import DerivedFields.Document.JsonFields
import DerivedFields.Proofs.Document.Places
import DerivedFields.Proofs.Entries

/-!
# Writing below JSON objects

A write takes one member of an object, makes another value of it and puts that in its place, or
fails. What it makes of the member depends on nothing else, so a write leaves the text at every
place apart from its own as it was.
-/

namespace DerivedFields.Json

variable {key other : String} {value old : Json} {members : List (String × Json)}

theorem member?_setMember_self (key : String) (value : Json) (members : List (String × Json)) :
    member? key (setMember key value members) = some value := by
  rw [setMember_eq_writeEntry]
  exact lookup_writeEntry_self key value members

theorem member?_setMember_ne (different : other ≠ key) (value : Json)
    (members : List (String × Json)) :
    member? other (setMember key value members) = member? other members := by
  rw [setMember_eq_writeEntry]
  exact lookup_writeEntry_ne different value members

/-- The members with text written at a path, if nothing prevents it. -/
def write? (text : String) (segments : List PathSegment) (members : List (String × Json)) :
    Option (List (String × Json)) :=
  match writeAt text segments members with
  | (written, none) => some written
  | (_, some _) => none

/-- What a write makes of the member that its path begins with. -/
def replacement? (text : String) (segment : PathSegment) (rest : List PathSegment)
    (old : Option Json) : Option Json :=
  match rest with
  | [] => if segment.isAttribute then none else some (.string text)
  | next :: rest =>
    (membersBelow? old).bind fun inner => (write? text (next :: rest) inner).map Json.object

theorem write?_cons (text : String) (segment : PathSegment) (rest : List PathSegment)
    (members : List (String × Json)) :
    write? text (segment :: rest) members =
      (replacement? text segment rest (member? segment.name members)).map
        fun value => setMember segment.name value members := by
  cases rest with
  | nil => cases segment <;> rfl
  | cons next rest =>
    simp only [write?, replacement?, writeAt]
    cases membersBelow? (member? segment.name members) with
    | none => rfl
    | some inner =>
      simp only [Option.bind_some]
      rcases writeAt text (next :: rest) inner with ⟨written, _ | fault⟩ <;> rfl

/-- What objects have under a key they still have in common after the same write. -/
theorem member?_setMember_congr {first second : List (String × Json)}
    (same : member? other first = member? other second) (key : String) (value : Json) :
    member? other (setMember key value first) = member? other (setMember key value second) := by
  by_cases here : other = key
  · rw [here, member?_setMember_self, member?_setMember_self]
  · rw [member?_setMember_ne here, member?_setMember_ne here, same]

/-- Of two values written under a key the second stays. -/
theorem setMember_setMember (key : String) (value old : Json) (members : List (String × Json)) :
    setMember key value (setMember key old members) = setMember key value members := by
  simp only [setMember_eq_writeEntry, writeEntry_writeEntry]

/-- A path continues at the member that it names, unless that would be an attribute. -/
theorem textAt_cons_object (lenient : Bool) (segment : PathSegment) (rest : List PathSegment)
    (members : List (String × Json)) :
    textAt lenient (segment :: rest) (.object members) =
      if segment.isAttribute && !lenient then ""
      else ((member? segment.name members).map (textAt lenient rest)).getD "" := by
  have goesOn : textAt lenient (segment :: rest) (.object members) =
      ((step? lenient segment (.object members)).map (textAt lenient rest)).getD "" := by
    rw [textAt]
    cases step? lenient segment (.object members) <;> rfl
  rw [goesOn]
  rcases segment with name | name
  · rfl
  · cases lenient <;> rfl

/-- The members to write below have the texts that there are below. -/
theorem textAt_of_membersBelow? {old : Option Json} (below : membersBelow? old = some members)
    (lenient : Bool) (segment : PathSegment) (rest : List PathSegment) :
    textAt lenient (segment :: rest) (.object members) =
      (old.map (textAt lenient (segment :: rest))).getD "" := by
  have nothing : textAt lenient (segment :: rest) (.object []) = "" := by
    rw [textAt_cons_object]
    exact ite_self _
  unfold membersBelow? at below
  split at below
  · cases below
    exact nothing
  · cases below
    rw [nothing]
    cases segment <;> rfl
  · cases below
    rfl
  · cases below

/-- A write leaves the text at every place apart from its own. -/
theorem textAt_of_write?_apart {text : String} {segments path : List PathSegment}
    {written : List (String × Json)}
    (apart : Apart (PathSegment.names path) (PathSegment.names segments))
    (success : write? text segments members = some written) (lenient : Bool) :
    textAt lenient path (.object written) = textAt lenient path (.object members) := by
  induction segments generalizing path members written with
  | nil => exact absurd rfl apart.right_ne_nil
  | cons segment rest ih =>
    cases path with
    | nil => exact absurd rfl apart.left_ne_nil
    | cons first path =>
      rw [write?_cons] at success
      obtain ⟨value, replaced, rfl⟩ := Option.map_eq_some_iff.mp success
      rw [textAt_cons_object, textAt_cons_object]
      by_cases same : first.name = segment.name
      · simp only [PathSegment.names, List.map_cons, same] at apart
        have inner := apart.of_cons
        cases rest with
        | nil => exact absurd rfl inner.right_ne_nil
        | cons next rest =>
          cases path with
          | nil => exact absurd rfl inner.left_ne_nil
          | cons second path =>
            obtain ⟨below, found, replaced⟩ := Option.bind_eq_some_iff.mp replaced
            obtain ⟨deeper, wrote, rfl⟩ := Option.map_eq_some_iff.mp replaced
            rw [same, member?_setMember_self, Option.map_some, Option.getD_some, ih inner wrote,
              textAt_of_membersBelow? found]
      · rw [member?_setMember_ne same]

end DerivedFields.Json

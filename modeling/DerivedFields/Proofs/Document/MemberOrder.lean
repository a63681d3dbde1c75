import DerivedFields.Proofs.Document.Members
import DerivedFields.Proofs.Results

/-!
# The order of members

Two writes apart from each other leave the same members in either order, except that the members of
the last object on their common way may come in another order. Only the text of an object shows
that, and the text of what is written in its place, so two such trees have the same texts at all
places that are not on the common way.
-/

namespace DerivedFields.Json

/-- Trees that differ at most on a way: in the order of members where it ends, or in a text that
stands there instead of an object. -/
inductive Alike : List String → Json → Json → Prop
  | refl (names : List String) (json : Json) : Alike names json json
  | strings (names : List String) (first second : String) :
    Alike names (.string first) (.string second)
  | reordered {first second : List (String × Json)}
    (same : ∀ key, member? key first = member? key second) :
    Alike [] (.object first) (.object second)
  | inside {name : String} {names : List String} {first second : List (String × Json)}
    {inFirst inSecond : Json}
    (same : ∀ key, key ≠ name → member? key first = member? key second)
    (onFirst : member? name first = some inFirst) (onSecond : member? name second = some inSecond)
    (inner : Alike names inFirst inSecond) :
    Alike (name :: names) (.object first) (.object second)

variable {names : List String} {first second : List (String × Json)}

/-- Trees that are alike have the same texts at all places that are not on the way. -/
theorem Alike.textAt_eq {left right : Json} (alike : Alike names left right)
    {path : List PathSegment} (outside : ¬PathSegment.names path <+: names) (lenient : Bool) :
    textAt lenient path left = textAt lenient path right := by
  induction alike generalizing path with
  | refl => rfl
  | strings =>
    cases path with
    | nil => exact absurd List.nil_prefix outside
    | cons segment rest => cases segment <;> rfl
  | reordered same =>
    cases path with
    | nil => exact absurd List.nil_prefix outside
    | cons segment rest => rw [textAt_cons_object, textAt_cons_object, same]
  | inside same onFirst onSecond inner ih =>
    rename_i name names first second inFirst inSecond
    cases path with
    | nil => exact absurd List.nil_prefix outside
    | cons segment rest =>
      rw [textAt_cons_object, textAt_cons_object]
      by_cases here : segment.name = name
      · have deeper : ¬PathSegment.names rest <+: names := by
          intro begins
          exact outside (List.cons_prefix_cons.mpr ⟨here, begins⟩)
        rw [here, onFirst, onSecond, Option.map_some, Option.map_some, ih deeper]
      · rw [same segment.name here]

/-- The members to write below are alike where the values are. -/
theorem membersBelow?_alike {left right : Option Json}
    (alike : Option.Rel (Alike names) left right) :
    Option.Rel (fun first second => Alike names (.object first) (.object second))
      (membersBelow? left) (membersBelow? right) := by
  cases alike with
  | none => exact .some (.refl names _)
  | some alike =>
    cases alike with
    | refl =>
      rename_i json
      cases json with
      | object members => exact .some (.refl names _)
      | null => exact .some (.refl names _)
      | _ => exact .none
    | strings => exact .none
    | reordered same => exact .some (.reordered same)
    | inside same onFirst onSecond inner => exact .some (.inside same onFirst onSecond inner)

variable {text other : String}

private theorem alike_setMember {key : String} {left right : Json} (alike : Alike names left right)
    (same : ∀ other, other ≠ key → member? other first = member? other second) :
    Alike (key :: names) (.object (setMember key left first))
      (.object (setMember key right second)) := by
  refine .inside (fun other different => ?_) (member?_setMember_self key left first)
    (member?_setMember_self key right second) alike
  rw [member?_setMember_ne different, member?_setMember_ne different]
  exact same other different

/-- What becomes of alike members below a write is alike. -/
theorem replacement?_alike (segment : PathSegment) {rest : List PathSegment}
    {left right : Option Json} (alike : Option.Rel (Alike names) left right)
    (deeper : ∀ {first second}, Alike names (.object first) (.object second) →
      Option.Rel (fun left right => Alike names (.object left) (.object right))
        (write? text rest first) (write? other rest second)) :
    Option.Rel (Alike names) (replacement? text segment rest left)
      (replacement? other segment rest right) := by
  cases rest with
  | nil =>
    simp only [replacement?]
    split
    · exact .none
    · exact .some (.strings names text other)
  | cons next rest =>
    exact rel_bind (membersBelow?_alike alike) fun first second alike =>
      rel_map (deeper alike) fun _ _ written => written

/-- A write keeps trees alike, and fails in both of them or in neither. It may write different texts
where it ends on the way. -/
theorem Alike.write? {path : List PathSegment}
    (alike : Alike names (.object first) (.object second))
    (texts : text = other ∨ PathSegment.names path <+: names) :
    Option.Rel (fun left right => Alike names (.object left) (.object right))
      (write? text path first) (write? other path second) := by
  induction path generalizing names first second with
  | nil => exact .some alike
  | cons segment rest ih =>
    rw [write?_cons, write?_cons]
    cases alike with
    | refl =>
      rcases texts with rfl | onWay
      · exact rel_of_eq (fun members => .refl names (.object members)) _
      · cases names with
        | nil => exact absurd (List.prefix_nil.mp onWay) (List.cons_ne_nil _ _)
        | cons name names =>
          obtain ⟨rfl, deeper⟩ := List.cons_prefix_cons.mp onWay
          have replaced := replacement?_alike segment
            (rel_of_eq (.refl names) (member? segment.name first)) fun alike => ih alike (.inr deeper)
          exact rel_map replaced fun left right alike => alike_setMember alike fun _ _ => rfl
    | reordered same =>
      have texts : text = other := texts.resolve_right fun onWay =>
        List.cons_ne_nil _ _ (List.prefix_nil.mp onWay)
      rw [texts, same]
      cases replacement? other segment rest (member? segment.name second) with
      | none => exact .none
      | some value => exact .some (.reordered fun key => member?_setMember_congr (same key) _ _)
    | inside same onFirst onSecond inner =>
      rename_i name names inFirst inSecond
      by_cases here : segment.name = name
      · subst here
        rw [onFirst, onSecond]
        have replaced := replacement?_alike segment (.some inner) fun alike => ih alike
          (texts.imp_right fun onWay => (List.cons_prefix_cons.mp onWay).2)
        exact rel_map replaced fun left right alike => alike_setMember alike same
      · have texts : text = other := texts.resolve_right fun onWay =>
          here (List.cons_prefix_cons.mp onWay).1
        rw [texts, same segment.name here]
        cases replacement? other segment rest (member? segment.name second) with
        | none => exact .none
        | some value =>
          have elsewhere : name ≠ segment.name := Ne.symm here
          refine .some (.inside (fun key different => ?_) ?_ ?_ inner)
          · exact member?_setMember_congr (same key different) _ _
          · rw [member?_setMember_ne elsewhere, onFirst]
          · rw [member?_setMember_ne elsewhere, onSecond]

/-- Two writes through the same member are two writes below it. -/
theorem write?_bind_write?_through {segment first next second : PathSegment}
    {rest place : List PathSegment} (same : first.name = segment.name)
    (members : List (String × Json)) :
    (Json.write? text (segment :: next :: rest) members).bind
        (Json.write? other (first :: second :: place)) =
      (membersBelow? (member? segment.name members)).bind fun inner =>
        ((Json.write? text (next :: rest) inner).bind (Json.write? other (second :: place))).map
          fun written => setMember segment.name (.object written) members := by
  rw [write?_cons text segment]
  simp only [replacement?]
  cases membersBelow? (member? segment.name members) with
  | none => rfl
  | some inner =>
    simp only [Option.bind_some]
    cases Json.write? text (next :: rest) inner with
    | none => rfl
    | some written =>
      simp only [Option.bind_some, Option.map_some]
      rw [write?_cons, same, member?_setMember_self]
      simp only [replacement?, membersBelow?, Option.bind_some, setMember_setMember]
      cases Json.write? other (second :: place) written <;> rfl

/-- Writes to different members do not see each other. -/
theorem write?_bind_write?_beside {segment first : PathSegment} {rest place : List PathSegment}
    (different : first.name ≠ segment.name) (members : List (String × Json)) :
    (Json.write? text (segment :: rest) members).bind (Json.write? other (first :: place)) =
      (replacement? text segment rest (member? segment.name members)).bind fun value =>
        (replacement? other first place (member? first.name members)).map fun old =>
          setMember first.name old (setMember segment.name value members) := by
  rw [write?_cons]
  cases replacement? text segment rest (member? segment.name members) with
  | none => rfl
  | some value =>
    simp only [Option.map_some, Option.bind_some]
    rw [write?_cons, member?_setMember_ne different]

/-- Two writes apart from each other come to the same in either order, up to the order of members
where their ways part. -/
theorem write?_comm {path place : List PathSegment} (members : List (String × Json))
    (apart : Apart (PathSegment.names path) (PathSegment.names place)) :
    Option.Rel
      (fun left right => Alike (sharedNames (PathSegment.names path) (PathSegment.names place))
        (.object left) (.object right))
      ((Json.write? text path members).bind (Json.write? other place))
      ((Json.write? other place members).bind (Json.write? text path)) := by
  induction path generalizing place members with
  | nil => exact absurd rfl apart.left_ne_nil
  | cons segment rest ih =>
    cases place with
    | nil => exact absurd rfl apart.right_ne_nil
    | cons first place =>
      simp only [PathSegment.names, List.map_cons] at apart ⊢
      by_cases same : first.name = segment.name
      · rw [same] at apart ⊢
        have deeper := apart.of_cons
        cases rest with
        | nil => exact absurd rfl deeper.left_ne_nil
        | cons next rest =>
          cases place with
          | nil => exact absurd rfl deeper.right_ne_nil
          | cons second place =>
            rw [write?_bind_write?_through same, write?_bind_write?_through same.symm, same,
              sharedNames_cons_self]
            refine rel_bind (rel_of_eq (fun _ => rfl) _) ?_
            rintro inner _ rfl
            exact rel_map (ih inner deeper) fun left right alike =>
              alike_setMember alike fun _ _ => rfl
      · rw [write?_bind_write?_beside same, write?_bind_write?_beside (Ne.symm same),
          sharedNames_cons_ne (Ne.symm same)]
        cases replacement? text segment rest (member? segment.name members) with
        | none =>
          cases replacement? other first place (member? first.name members) <;> exact .none
        | some value =>
          cases replacement? other first place (member? first.name members) with
          | none => exact .none
          | some old =>
            refine .some (.reordered fun key => ?_)
            by_cases here : key = first.name
            · rw [here, member?_setMember_self, member?_setMember_ne same, member?_setMember_self]
            · rw [member?_setMember_ne here]
              exact member?_setMember_congr (member?_setMember_ne here _ _).symm _ _

end DerivedFields.Json

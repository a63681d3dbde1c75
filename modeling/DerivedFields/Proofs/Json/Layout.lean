import DerivedFields.Proofs.Json.Parts

/-!
# Layouts of a value

A value can be laid out with gaps in front of its items, its members and its closing brackets, and
behind the colon of a member. The compact text of a value has none of these gaps and the pretty text
has all of them; what they have in common is that they are layouts.
-/

namespace DerivedFields.Json

/-- Nothing but characters between tokens. -/
def Blank (gap : List Char) : Prop := ∀ c ∈ gap, isGap c = true

theorem blank_nil : Blank [] := fun _ member => absurd member List.not_mem_nil

private theorem blank_space : Blank [' '] := by
  intro c member
  obtain rfl := List.mem_singleton.mp member
  rfl

private theorem blank_newLine (depth : Nat) : Blank (newLine depth) := by
  intro c member
  rcases List.mem_cons.mp member with rfl | member
  · rfl
  · obtain rfl := (List.mem_replicate.mp member).2
    rfl

mutual

/-- A text spells a value whose numbers are integers of 64 bits. -/
inductive Layout : Json → List Char → Prop
  | null : Layout .null (atomText .null)
  | boolean (value : Bool) : Layout (.boolean value) (atomText (.boolean value))
  | integer {n : Int} (fits : Fits n) : Layout (.number (.integer n)) (JsonNumber.integerText n)
  | string (text : String) : Layout (.string text) (quoted text)
  | array {items : List Json} {body gap : List Char} (inner : LayoutItems items body)
    (blank : Blank gap) : Layout (.array items) ('[' :: body ++ gap ++ [']'])
  | object {members : List (String × Json)} {body gap : List Char}
    (inner : LayoutMembers members body) (blank : Blank gap) :
    Layout (.object members) ('\x7b' :: body ++ gap ++ ['\x7d'])

/-- A text spells items with commas between them. -/
inductive LayoutItems : List Json → List Char → Prop
  | empty : LayoutItems [] []
  | last {item : Json} {gap text : List Char} (blank : Blank gap) (inner : Layout item text) :
    LayoutItems [item] (gap ++ text)
  | more {item next : Json} {items : List Json} {gap text rest : List Char} (blank : Blank gap)
    (inner : Layout item text) (onward : LayoutItems (next :: items) rest) :
    LayoutItems (item :: next :: items) (gap ++ text ++ ',' :: rest)

/-- A text spells members with commas between them. -/
inductive LayoutMembers : List (String × Json) → List Char → Prop
  | empty : LayoutMembers [] []
  | last {key : String} {value : Json} {gap after text : List Char} (blank : Blank gap)
    (blankAfter : Blank after) (inner : Layout value text) :
    LayoutMembers [(key, value)] (gap ++ quoted key ++ ':' :: (after ++ text))
  | more {key : String} {value : Json} {next : String × Json} {members : List (String × Json)}
    {gap after text rest : List Char} (blank : Blank gap) (blankAfter : Blank after)
    (inner : Layout value text) (onward : LayoutMembers (next :: members) rest) :
    LayoutMembers ((key, value) :: next :: members)
      (gap ++ quoted key ++ ':' :: (after ++ text) ++ ',' :: rest)

end

mutual

/-- The compact text of a value is a layout. -/
theorem layout_compact : ∀ json, Integral json → Layout json (compact json)
  | .null, _ => .null
  | .boolean value, _ => .boolean value
  | .number value, integral => by
    obtain ⟨n, rfl, fits⟩ := integral _ .self value rfl
    exact .integer fits
  | .string text, _ => .string text
  | .array items, integral => by
    have body := layout_compactItems items integral.item
    have layout := Layout.array body blank_nil
    rw [List.append_nil] at layout
    exact layout
  | .object members, integral => by
    have body := layout_compactMembers members integral.member
    have layout := Layout.object body blank_nil
    rw [List.append_nil] at layout
    exact layout

theorem layout_compactItems :
    ∀ items, (∀ item ∈ items, Integral item) → LayoutItems items (compactItems items)
  | [], _ => .empty
  | [item], integral => .last blank_nil (layout_compact item (integral item (by simp)))
  | item :: next :: items, integral => by
    have first := layout_compact item (integral item (by simp))
    have others := layout_compactItems (next :: items) fun other member =>
      integral other (List.mem_cons_of_mem _ member)
    exact .more blank_nil first others

theorem layout_compactMembers :
    ∀ members, (∀ member ∈ members, Integral member.2) →
      LayoutMembers members (compactMembers members)
  | [], _ => .empty
  | [(key, value)], integral =>
    .last blank_nil blank_nil (layout_compact value (integral (key, value) (by simp)))
  | (key, value) :: next :: members, integral => by
    have first := layout_compact value (integral (key, value) (by simp))
    have others := layout_compactMembers (next :: members) fun other member =>
      integral other (List.mem_cons_of_mem _ member)
    exact .more blank_nil blank_nil first others

end

mutual

/-- The pretty text of a value is a layout. -/
theorem layout_pretty : ∀ depth json, Integral json → Layout json (pretty depth json)
  | _, .null, _ => .null
  | _, .boolean value, _ => .boolean value
  | _, .number value, integral => by
    obtain ⟨n, rfl, fits⟩ := integral _ .self value rfl
    exact .integer fits
  | _, .string text, _ => .string text
  | depth, .array [], _ => .array .empty blank_nil
  | depth, .array (item :: items), integral => by
    have body := layout_prettyItems (depth + 1) (item :: items) integral.item
    exact .array body (blank_newLine depth)
  | depth, .object [], _ => .object .empty blank_nil
  | depth, .object (member :: members), integral => by
    have body := layout_prettyMembers (depth + 1) (member :: members) integral.member
    exact .object body (blank_newLine depth)

theorem layout_prettyItems :
    ∀ depth items, (∀ item ∈ items, Integral item) → LayoutItems items (prettyItems depth items)
  | _, [], _ => .empty
  | depth, [item], integral =>
    .last (blank_newLine depth) (layout_pretty depth item (integral item (by simp)))
  | depth, item :: next :: items, integral => by
    have first := layout_pretty depth item (integral item (by simp))
    have others := layout_prettyItems depth (next :: items) fun other member =>
      integral other (List.mem_cons_of_mem _ member)
    exact .more (blank_newLine depth) first others

theorem layout_prettyMembers :
    ∀ depth members, (∀ member ∈ members, Integral member.2) →
      LayoutMembers members (prettyMembers depth members)
  | _, [], _ => .empty
  | depth, [(key, value)], integral => by
    have inner := layout_pretty depth value (integral (key, value) (by simp))
    exact .last (blank_newLine depth) blank_space inner
  | depth, (key, value) :: next :: members, integral => by
    have first := layout_pretty depth value (integral (key, value) (by simp))
    have others := layout_prettyMembers depth (next :: members) fun other member =>
      integral other (List.mem_cons_of_mem _ member)
    exact .more (blank_newLine depth) blank_space first others

end

end DerivedFields.Json

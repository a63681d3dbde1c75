import DerivedFields.Proofs.Entries
import DerivedFields.Proofs.Json.Reading

/-!
# Reading back a value

The value is taken of a text as a whole: an object merges the members of one key, and containers may
be nested up to a limit only. A value whose objects have distinct keys and whose containers stay
below the limit is taken as it stands, so it is read back from every layout.
-/

namespace DerivedFields.Json

variable {json : Json} {text : List Char}

/-! ## Values of what is written -/

private theorem foldl_setMember {merged others : List (String × Json)}
    (distinct : ((merged ++ others).map Prod.fst).Nodup) :
    others.foldl (fun merged member => setMember member.1 member.2 merged) merged =
      merged ++ others := by
  induction others generalizing merged with
  | nil => exact (List.append_nil merged).symm
  | cons member others ih =>
    have absent : member.1 ∉ merged.map Prod.fst := by
      rw [List.map_append, List.map_cons] at distinct
      intro present
      exact (List.nodup_append.mp distinct).2.2 member.1 present member.1 (List.mem_cons_self ..) rfl
    rw [List.append_cons] at distinct
    rw [List.foldl_cons, setMember_eq_writeEntry, writeEntry_of_notMem absent, ih distinct,
      ← List.append_cons]

/-- Members of distinct keys are merged as they stand. -/
theorem mergeMembers_of_nodup {members : List (String × Json)}
    (distinct : (members.map Prod.fst).Nodup) : mergeMembers members = members :=
  foldl_setMember (by rwa [List.nil_append])

mutual

/-- A value is taken of what it is written as, unless it is nested too deep. -/
theorem toJson?_asWritten : ∀ (json : Json) (depth : Nat), DistinctKeys json →
    nesting json < depth → json.asWritten.toJson? depth = some json
  | .null, _, _, _ => rfl
  | .boolean _, _, _, _ => rfl
  | .number _, _, _, _ => rfl
  | .string _, _, _, _ => rfl
  | .array items, depth, distinct, shallow => by
    rw [nesting] at shallow
    have inner := itemsToJson?_asWritten items (depth - 1) distinct.item
      (by omega)
    rw [asWritten, Written.toJson?, if_neg (by omega), inner, Option.map_some]
  | .object members, depth, distinct, shallow => by
    rw [nesting] at shallow
    have inner := membersToJson?_asWritten members (depth - 1) distinct.member
      (by omega)
    have merged := mergeMembers_of_nodup (distinct _ .self members rfl)
    rw [asWritten, Written.toJson?, if_neg (by omega), inner, Option.map_some, merged]

theorem itemsToJson?_asWritten : ∀ (items : List Json) (depth : Nat),
    (∀ item ∈ items, DistinctKeys item) → nestingOfItems items < depth →
      Written.itemsToJson? depth (itemsAsWritten items) = some items
  | [], _, _, _ => rfl
  | item :: items, depth, distinct, shallow => by
    rw [nestingOfItems] at shallow
    have first := toJson?_asWritten item depth (distinct item (List.mem_cons_self ..)) (by omega)
    have others := itemsToJson?_asWritten items depth
      (fun other member => distinct other (List.mem_cons_of_mem _ member)) (by omega)
    simp only [itemsAsWritten, Written.itemsToJson?, first, others, Option.bind_eq_bind,
      Option.bind_some]

theorem membersToJson?_asWritten : ∀ (members : List (String × Json)) (depth : Nat),
    (∀ member ∈ members, DistinctKeys member.2) → nestingOfMembers members < depth →
      Written.membersToJson? depth (membersAsWritten members) = some members
  | [], _, _, _ => rfl
  | (key, value) :: members, depth, distinct, shallow => by
    rw [nestingOfMembers] at shallow
    have first := toJson?_asWritten value depth
      (distinct (key, value) (List.mem_cons_self ..)) (by omega)
    have others := membersToJson?_asWritten members depth
      (fun other present => distinct other (List.mem_cons_of_mem _ present)) (by omega)
    simp only [membersAsWritten, Written.membersToJson?, first, others, Option.bind_eq_bind,
      Option.bind_some]

end

/-! ## Texts -/

/-- A layout is a text that holds one value and nothing else. -/
theorem written_of_layout (layout : Layout json text) :
    Written.read? (String.ofList text) = some json.asWritten := by
  obtain ⟨source, spelled, same⟩ := layout.spells
  have read := (SpellsText.mk blank_nil spelled blank_nil).read
  rwa [List.nil_append, List.append_nil, same] at read

/-- A value is read back from its layouts. -/
theorem read?_of_layout (layout : Layout json text) (distinct : DistinctKeys json)
    (shallow : nesting json < depthLimit) : read? (String.ofList text) = some json := by
  rw [read?, written_of_layout layout, Option.bind_some]
  exact toJson?_asWritten json depthLimit distinct shallow

section

variable (integral : Integral json) (distinct : DistinctKeys json)
  (shallow : nesting json < depthLimit)

include integral distinct shallow

theorem read?_toCompactText : read? json.toCompactText = some json :=
  read?_of_layout (layout_compact json integral) distinct shallow

theorem read?_toPrettyText : read? json.toPrettyText = some json :=
  read?_of_layout (layout_pretty 0 json integral) distinct shallow

end

end DerivedFields.Json

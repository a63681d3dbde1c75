import DerivedFields.Document.JsonFields
import DerivedFields.Proofs.Entries
import DerivedFields.Proofs.Json.Reading

/-!
# Places in a text

A path leads through what a text spells as it leads through the value of the text: of the members of
one key the last one counts. So the value at a path is that of what the text spells there.
-/

namespace DerivedFields.Json

namespace Source

/-- The last member of a key. -/
def member? (key : String) (members : List (Option String × Source)) : Option Source :=
  members.reverse.lookup (some key)

/-- One step of a path through what a text spells. -/
def step? (lenient : Bool) : PathSegment → Source → Option Source
  | .element name, .object members => member? name members
  | .element name, .array items => (index? name).bind (items[·]?)
  | .attribute name, .object members => if lenient then member? name members else none
  | _, _ => none

/-- What a text spells at a path. -/
def at? (lenient : Bool) : List PathSegment → Source → Option Source
  | [], source => some source
  | segment :: rest, source => (step? lenient segment source).bind (at? lenient rest)

end Source

variable {source inner : Source} {lenient : Bool} {text : List Char}

/-! ## Texts of parts -/

private theorem SpellsItems.exists_text {items : List Source} {body : List Char}
    (spelled : SpellsItems items body) {item : Source} (member : item ∈ items) :
    ∃ text, Spells item text := by
  match spelled with
  | .last _ inner _ =>
    obtain rfl := List.mem_singleton.mp member
    exact ⟨_, inner⟩
  | .more _ inner _ onward =>
    rcases List.mem_cons.mp member with rfl | later
    · exact ⟨_, inner⟩
    · exact onward.exists_text later

private theorem SpellsMembers.exists_text {members : List (Option String × Source)} {body : List Char}
    (spelled : SpellsMembers members body) {member : Option String × Source}
    (present : member ∈ members) : ∃ text, Spells member.2 text := by
  match spelled with
  | .last _ _ _ _ inner _ =>
    obtain rfl := List.mem_singleton.mp present
    exact ⟨_, inner⟩
  | .more _ _ _ _ inner _ onward =>
    rcases List.mem_cons.mp present with rfl | later
    · exact ⟨_, inner⟩
    · exact onward.exists_text later

private theorem mem_of_member? {key : String} {members : List (Option String × Source)}
    (found : Source.member? key members = some inner) : (some key, inner) ∈ members := by
  obtain ⟨front, back, split, -⟩ := List.lookup_eq_some_iff.mp found
  rw [← List.mem_reverse, split]
  exact List.mem_append_right _ List.mem_cons_self

/-- What stands at a step has a text of its own. -/
theorem Spells.exists_text {segment : PathSegment} (spelled : Spells source text)
    (stepped : Source.step? lenient segment source = some inner) : ∃ text, Spells inner text := by
  have ofMember {key : String} {members : List (Option String × Source)}
      (spelled : Spells (.object members) text)
      (found : Source.member? key members = some inner) : ∃ text, Spells inner text := by
    cases spelled with
    | emptyObject => cases found
    | object body => exact body.exists_text (mem_of_member? found)
  cases source with
  | object members =>
    rcases segment with name | name
    · exact ofMember spelled stepped
    · cases lenient with
      | true => exact ofMember spelled stepped
      | false => cases stepped
  | array items =>
    rcases segment with name | name
    · obtain ⟨index, -, found⟩ := Option.bind_eq_some_iff.mp stepped
      cases spelled with
      | emptyArray => cases found
      | array body => exact body.exists_text (List.mem_of_getElem? found)
    · cases stepped
  | null | boolean | number | string => rcases segment with name | name <;> cases stepped

theorem Spells.exists_text_at {path : List PathSegment} (spelled : Spells source text)
    (reached : source.at? lenient path = some inner) : ∃ text, Spells inner text := by
  induction path generalizing source text with
  | nil =>
    obtain rfl := Option.some.inj reached
    exact ⟨text, spelled⟩
  | cons segment rest ih =>
    rw [Source.at?] at reached
    obtain ⟨next, stepped, onward⟩ := Option.bind_eq_some_iff.mp reached
    obtain ⟨_, spelled⟩ := spelled.exists_text stepped
    exact ih spelled onward

/-! ## Values of parts -/

/-- Members written one after the other are found in place of those written before. -/
theorem lookup_foldl_setMember (key : String) (others merged : List (String × Json)) :
    (others.foldl (fun merged member => setMember member.1 member.2 merged) merged).lookup key =
      (others.reverse.lookup key).or (merged.lookup key) := by
  induction others generalizing merged with
  | nil => rfl
  | cons member others ih =>
    obtain ⟨name, value⟩ := member
    rw [List.foldl_cons, ih, List.reverse_cons, List.lookup_append, Option.or_assoc,
      setMember_eq_writeEntry]
    by_cases same : key = name
    · subst same
      rw [lookup_writeEntry_self, List.lookup_cons_self, Option.some_or]
    · rw [lookup_writeEntry_ne same, List.lookup_cons, beq_false_of_ne same, List.lookup_nil,
        Option.none_or]

/-- Of the members of one key the last one is found. -/
theorem member?_mergeMembers (key : String) (members : List (String × Json)) :
    member? key (mergeMembers members) = members.reverse.lookup key := by
  have found := lookup_foldl_setMember key members []
  rwa [List.lookup_nil, Option.or_none] at found

/-- Items have values one by one. -/
theorem getElem?_itemsToJson? {items : List Source} {values : List Json} {depth index : Nat}
    (taken : Written.itemsToJson? depth (sourcesToWritten items) = some values)
    (found : items[index]? = some inner) :
    ∃ value, values[index]? = some value ∧ inner.toWritten.toJson? depth = some value := by
  induction items generalizing values index with
  | nil => cases found
  | cons item items ih =>
    simp only [sourcesToWritten, Written.itemsToJson?, Option.bind_eq_bind, Option.bind_eq_some_iff,
      Option.some.injEq] at taken
    obtain ⟨first, firstTaken, others, othersTaken, rfl⟩ := taken
    cases index with
    | zero =>
      obtain rfl := Option.some.inj found
      exact ⟨first, rfl, firstTaken⟩
    | succ index =>
      obtain ⟨value, held, part⟩ := ih othersTaken found
      exact ⟨value, held, part⟩

/-- The last member of a key has the value that is found under the key. -/
theorem lookup_membersToJson? {members : List (Option String × Source)}
    {values : List (String × Json)} {depth : Nat}
    (taken : Written.membersToJson? depth (sourceMembersToWritten members) = some values)
    (key : String) :
    Source.member? key members = none ∧ values.reverse.lookup key = none ∨
      ∃ inner value, Source.member? key members = some inner ∧
        values.reverse.lookup key = some value ∧ inner.toWritten.toJson? depth = some value := by
  induction members generalizing values with
  | nil =>
    obtain rfl := Option.some.inj taken
    exact .inl ⟨rfl, rfl⟩
  | cons member members ih =>
    obtain ⟨name, source⟩ := member
    simp only [sourceMembersToWritten, Written.membersToJson?, Option.bind_eq_bind,
      Option.bind_eq_some_iff, Option.some.injEq] at taken
    obtain ⟨name, rfl, first, firstTaken, others, othersTaken, rfl⟩ := taken
    rw [Source.member?, List.reverse_cons, List.reverse_cons, List.lookup_append,
      List.lookup_append]
    rcases ih othersTaken with ⟨noMember, noValue⟩ | ⟨inner, value, found, taken, later⟩
    · rw [Source.member?] at noMember
      rw [noMember, noValue, Option.none_or, Option.none_or]
      by_cases same : key = name
      · subst same
        exact .inr ⟨source, first, List.lookup_cons_self, List.lookup_cons_self, firstTaken⟩
      · have other : some key ≠ some name := fun equal => same (Option.some.inj equal)
        refine .inl ⟨?_, ?_⟩
        · rw [List.lookup_cons, beq_false_of_ne other, List.lookup_nil]
        · rw [List.lookup_cons, beq_false_of_ne same, List.lookup_nil]
    · rw [Source.member?] at found
      rw [found, taken, Option.some_or, Option.some_or]
      exact .inr ⟨inner, value, rfl, rfl, later⟩

/-- A step leads to the value of what the text spells there. -/
theorem exists_step?_of_toJson? {json : Json} {depth : Nat} {segment : PathSegment}
    (taken : source.toWritten.toJson? depth = some json)
    (stepped : source.step? lenient segment = some inner) :
    ∃ part deeper, Json.step? lenient segment json = some part ∧
      inner.toWritten.toJson? deeper = some part := by
  have ofMember {key : String} {members : List (Option String × Source)}
      {values : List (String × Json)}
      (taken : Written.membersToJson? (depth - 1) (sourceMembersToWritten members) = some values)
      (found : Source.member? key members = some inner) :
      ∃ part deeper, member? key (mergeMembers values) = some part ∧
        inner.toWritten.toJson? deeper = some part := by
    rw [member?_mergeMembers]
    rcases lookup_membersToJson? taken key with ⟨none, -⟩ | ⟨other, value, present, held, part⟩
    · cases none.symm.trans found
    · obtain rfl := Option.some.inj (present.symm.trans found)
      exact ⟨value, depth - 1, held, part⟩
  cases source with
  | object members =>
    rw [Source.toWritten, Written.toJson?] at taken
    split at taken
    · cases taken
    obtain ⟨values, membersTaken, rfl⟩ := Option.map_eq_some_iff.mp taken
    rcases segment with name | name
    · exact ofMember membersTaken stepped
    · cases lenient with
      | true => exact ofMember membersTaken stepped
      | false => cases stepped
  | array items =>
    rw [Source.toWritten, Written.toJson?] at taken
    split at taken
    · cases taken
    obtain ⟨values, itemsTaken, rfl⟩ := Option.map_eq_some_iff.mp taken
    rcases segment with name | name
    · obtain ⟨index, numbered, found⟩ := Option.bind_eq_some_iff.mp stepped
      obtain ⟨value, held, part⟩ := getElem?_itemsToJson? itemsTaken found
      refine ⟨value, depth - 1, ?_, part⟩
      rw [step?, numbered, Option.bind_some, held]
    · cases stepped
  | null | boolean | number | string => rcases segment with name | name <;> cases stepped

end DerivedFields.Json

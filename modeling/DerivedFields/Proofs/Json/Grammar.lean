import DerivedFields.Proofs.Json.Layout

/-!
# The grammar of JSON

What a text spells, with its number literals and whatever gaps it has between the tokens. Keys may
be repeated, and numbers and strings need not have a value. The layouts of a value spell it.
-/

namespace DerivedFields.Json

/-- What a text spells. The text of a string is missing if its codes make no characters. -/
inductive Source
  | null
  | boolean (value : Bool)
  | number (literal : JsonNumber.Literal)
  | string (text : Option String)
  | array (items : List Source)
  | object (members : List (Option String × Source))

mutual

/-- A source with the values of its numbers. -/
def Source.toWritten : Source → Written
  | .null => .null
  | .boolean value => .boolean value
  | .number literal => .number literal.toNumber?
  | .string text => .string text
  | .array items => .array (sourcesToWritten items)
  | .object members => .object (sourceMembersToWritten members)

def sourcesToWritten : List Source → List Written
  | [] => []
  | item :: items => item.toWritten :: sourcesToWritten items

def sourceMembersToWritten : List (Option String × Source) → List (Option String × Written)
  | [] => []
  | (key, value) :: members => (key, value.toWritten) :: sourceMembersToWritten members

end

/-- A text spells a string in quotes. -/
inductive SpellsString : Option String → List Char → Prop
  | mk {codes : List Nat} {body : List Char} (spelled : SpellsCodes codes body) :
    SpellsString (textOf? codes) ('"' :: (body ++ ['"']))

mutual

/-- A text spells a source. -/
inductive Spells : Source → List Char → Prop
  | null : Spells .null (atomText .null)
  | boolean (value : Bool) : Spells (.boolean value) (atomText (.boolean value))
  | number {literal : JsonNumber.Literal} {text : List Char}
    (spelled : SpellsLiteral literal text) :
    Spells (.number literal) text
  | string {content : Option String} {text : List Char} (spelled : SpellsString content text) :
    Spells (.string content) text
  | emptyArray {gap : List Char} (blank : Blank gap) : Spells (.array []) ('[' :: (gap ++ [']']))
  | array {items : List Source} {body : List Char} (inner : SpellsItems items body) :
    Spells (.array items) ('[' :: (body ++ [']']))
  | emptyObject {gap : List Char} (blank : Blank gap) :
    Spells (.object []) ('\x7b' :: (gap ++ ['\x7d']))
  | object {members : List (Option String × Source)} {body : List Char}
    (inner : SpellsMembers members body) : Spells (.object members) ('\x7b' :: (body ++ ['\x7d']))

/-- A text spells items with commas between them and gaps around each. -/
inductive SpellsItems : List Source → List Char → Prop
  | last {item : Source} {before text after : List Char} (blankBefore : Blank before)
    (inner : Spells item text) (blankAfter : Blank after) :
    SpellsItems [item] (before ++ text ++ after)
  | more {item : Source} {items : List Source} {before text after rest : List Char}
    (blankBefore : Blank before) (inner : Spells item text) (blankAfter : Blank after)
    (onward : SpellsItems items rest) :
    SpellsItems (item :: items) (before ++ text ++ after ++ ',' :: rest)

/-- A text spells members with commas between them and gaps around each key and value. -/
inductive SpellsMembers : List (Option String × Source) → List Char → Prop
  | last {key : Option String} {value : Source} {before name between after text behind : List Char}
    (blankBefore : Blank before) (named : SpellsString key name) (blankBetween : Blank between)
    (blankAfter : Blank after) (inner : Spells value text) (blankBehind : Blank behind) :
    SpellsMembers [(key, value)]
      (before ++ name ++ (between ++ ':' :: (after ++ text ++ behind)))
  | more {key : Option String} {value : Source} {members : List (Option String × Source)}
    {before name between after text behind rest : List Char} (blankBefore : Blank before)
    (named : SpellsString key name) (blankBetween : Blank between) (blankAfter : Blank after)
    (inner : Spells value text) (blankBehind : Blank behind) (onward : SpellsMembers members rest) :
    SpellsMembers ((key, value) :: members)
      (before ++ name ++ (between ++ ':' :: (after ++ text ++ behind ++ ',' :: rest)))

end

/-- A text spells one source and nothing else. -/
inductive SpellsText : Source → List Char → Prop
  | mk {source : Source} {before text after : List Char} (blankBefore : Blank before)
    (inner : Spells source text) (blankAfter : Blank after) :
    SpellsText source (before ++ text ++ after)

/-! ## Layouts -/

theorem spellsString_quoted (key : String) : SpellsString (some key) (quoted key) := by
  have spelled := SpellsString.mk (spellsCodes_escaped key.toList)
  rwa [textOf?_codes] at spelled

mutual

/-- A layout of a value spells it. -/
theorem Layout.spells {json : Json} {text : List Char} (layout : Layout json text) :
    ∃ source, Spells source text ∧ source.toWritten = json.asWritten := by
  match layout with
  | .null => exact ⟨.null, .null, rfl⟩
  | .boolean value => exact ⟨.boolean value, .boolean value, rfl⟩
  | .integer fits =>
    refine ⟨.number (literalOf _), .number (spellsLiteral_integerText _), ?_⟩
    rw [Source.toWritten, toNumber?_literalOf fits, asWritten]
  | .string text => exact ⟨.string (some text), .string (spellsString_quoted text), rfl⟩
  | @Layout.array items body gap inner blank =>
    have shape : '[' :: body ++ gap ++ [']'] = '[' :: ((body ++ gap) ++ [']']) := by
      simp only [List.cons_append]
    rw [shape]
    cases items with
    | nil =>
      cases inner
      exact ⟨.array [], .emptyArray blank, rfl⟩
    | cons item items =>
      obtain ⟨sources, spelled, same⟩ := inner.spells (List.cons_ne_nil _ _) blank
      exact ⟨.array sources, .array spelled, by rw [Source.toWritten, same, asWritten]⟩
  | @Layout.object members body gap inner blank =>
    have shape : '\x7b' :: body ++ gap ++ ['\x7d'] = '\x7b' :: ((body ++ gap) ++ ['\x7d']) := by
      simp only [List.cons_append]
    rw [shape]
    cases members with
    | nil =>
      cases inner
      exact ⟨.object [], .emptyObject blank, rfl⟩
    | cons member members =>
      obtain ⟨sources, spelled, same⟩ := inner.spells (List.cons_ne_nil _ _) blank
      exact ⟨.object sources, .object spelled, by rw [Source.toWritten, same, asWritten]⟩

theorem LayoutItems.spells {items : List Json} {body gap : List Char}
    (layout : LayoutItems items body) (nonempty : items ≠ []) (blank : Blank gap) :
    ∃ sources, SpellsItems sources (body ++ gap) ∧
      sourcesToWritten sources = itemsAsWritten items := by
  match layout with
  | .empty => exact absurd rfl nonempty
  | .last blankBefore inner =>
    obtain ⟨source, spelled, same⟩ := inner.spells
    refine ⟨[source], .last blankBefore spelled blank, ?_⟩
    rw [sourcesToWritten, same, sourcesToWritten, itemsAsWritten, itemsAsWritten]
  | @LayoutItems.more item next items before text tail blankBefore inner onward =>
    obtain ⟨source, spelled, same⟩ := inner.spells
    obtain ⟨sources, others, sameOthers⟩ := onward.spells (List.cons_ne_nil _ _) blank
    have body := SpellsItems.more blankBefore spelled blank_nil others
    rw [List.append_nil, ← List.cons_append, ← List.append_assoc] at body
    exact ⟨source :: sources, body, by rw [sourcesToWritten, same, sameOthers]; rfl⟩

theorem LayoutMembers.spells {members : List (String × Json)} {body gap : List Char}
    (layout : LayoutMembers members body) (nonempty : members ≠ []) (blank : Blank gap) :
    ∃ sources, SpellsMembers sources (body ++ gap) ∧
      sourceMembersToWritten sources = membersAsWritten members := by
  match layout with
  | .empty => exact absurd rfl nonempty
  | @LayoutMembers.last key value before after text blankBefore blankAfter inner =>
    obtain ⟨source, spelled, same⟩ := inner.spells
    have body :=
      SpellsMembers.last blankBefore (spellsString_quoted key) blank_nil blankAfter spelled blank
    rw [List.nil_append, ← List.cons_append, ← List.append_assoc] at body
    exact ⟨[(some key, source)], body, by rw [sourceMembersToWritten, same]; rfl⟩
  | @LayoutMembers.more key value next members before after text tail blankBefore blankAfter inner
      onward =>
    obtain ⟨source, spelled, same⟩ := inner.spells
    obtain ⟨sources, others, sameOthers⟩ := onward.spells (List.cons_ne_nil _ _) blank
    have shape : before ++ quoted key ++ ':' :: (after ++ text) ++ ',' :: tail ++ gap =
        before ++ quoted key ++ ([] ++ ':' :: (after ++ text ++ [] ++ ',' :: (tail ++ gap))) := by
      simp only [List.append_assoc, List.cons_append, List.nil_append]
    rw [shape]
    exact ⟨(some key, source) :: sources, .more blankBefore (spellsString_quoted key) blank_nil
      blankAfter spelled blank_nil others, by rw [sourceMembersToWritten, same, sameOthers]; rfl⟩

end

end DerivedFields.Json

import DerivedFields.Proofs.Stateful
import DerivedFields.Proofs.Xml.Parts

/-!
# What is read

An element that was read has attributes of distinct keys, no text node of no characters, character
data that ends at its first closing brackets, and no blank text beside child elements. The invariant
says so of the elements that are open and of the document element.
-/

namespace DerivedFields.Xml

open Stateful

/-! ## Texts and tags -/

/-- Text that is not empty is not decoded to nothing. -/
theorem unescapeFrom?_ne_nil {reading : Option (List Char)} {text decoded : List Char}
    (success : unescapeFrom? reading text = some decoded)
    (started : reading.isSome = true ∨ text ≠ []) : decoded ≠ [] := by
  fun_induction unescapeFrom? reading text generalizing decoded with
  | case1 => cases success
  | case2 reading empty =>
    rcases started with reads | written
    · exact absurd reads empty
    · exact absurd rfl written
  | case3 rest ih => exact ih success (.inl rfl)
  | case4 c rest other ih =>
    obtain ⟨_, -, rfl⟩ := Option.map_eq_some_iff.mp success
    exact List.cons_ne_nil _ _
  | case5 => cases success
  | case6 reversed rest other ih =>
    obtain ⟨c, -, onward⟩ := Option.bind_eq_some_iff.mp success
    obtain ⟨_, -, rfl⟩ := Option.map_eq_some_iff.mp onward
    exact List.cons_ne_nil _ _
  | case7 c reversed rest other noEnd ih => exact ih success (.inl rfl)

private theorem ne_empty_of_unescape? {raw : List Char} {text : String} (written : raw ≠ [])
    (success : unescape? raw = some text) : text ≠ "" := by
  obtain ⟨decoded, read, rfl⟩ := Option.map_eq_some_iff.mp success
  intro empty
  exact unescapeFrom?_ne_nil read (.inr written) (String.ofList_eq_empty_iff.mp empty)

/-- Attributes that are read have distinct keys, none of which was there before. -/
theorem nodup_of_readAttributes? {keys : List String} {input : List Char}
    {attributes : List (String × String)} (success : readAttributes? keys input = some attributes) :
    (attributes.map Prod.fst).Nodup ∧ ∀ entry ∈ attributes, entry.1 ∉ keys := by
  fun_induction readAttributes? keys input generalizing attributes with
  | case1 =>
    cases success
    exact ⟨List.nodup_nil, fun _ member => absurd member List.not_mem_nil⟩
  | case5 =>
    rename_i absent _ _ _ _ _ _ _ _ _ _ _ _ ih
    obtain ⟨others, read, rfl⟩ := Option.map_eq_some_iff.mp success
    obtain ⟨distinct, fresh⟩ := ih read
    constructor
    · rw [List.map_cons, List.nodup_cons]
      refine ⟨fun again => ?_, distinct⟩
      obtain ⟨entry, member, same⟩ := List.mem_map.mp again
      exact fresh entry member (same ▸ List.mem_cons_self)
    · intro entry member
      rcases List.mem_cons.mp member with rfl | later
      · simpa using absent
      · exact fun there => fresh entry later (List.mem_cons_of_mem _ there)
  | case2 | case3 | case4 | case6 | case7 | case8 => cases success

private theorem nodup_of_readTag? {content name : List Char} {attributes : List (String × String)}
    (success : readTag? content = some (name, attributes)) : (attributes.map Prod.fst).Nodup := by
  obtain ⟨read, found, same⟩ := Option.map_eq_some_iff.mp success
  cases same
  exact (nodup_of_readAttributes? found).1

/-- A text that begins with a pattern goes on beginning with it. -/
theorem dropPrefix?_append {pattern text rest : List Char}
    (found : Text.dropPrefix? pattern text = some rest) (more : List Char) :
    Text.dropPrefix? pattern (text ++ more) = some (rest ++ more) := by
  fun_induction Text.dropPrefix? pattern text with
  | case1 text =>
    cases found
    rw [Text.dropPrefix?]
  | case2 p pattern text ih =>
    rw [List.cons_append, Text.dropPrefix?, if_pos rfl]
    exact ih found
  | case3 => cases found
  | case4 => cases found

/-- A pattern is not in the text before its first occurrence. -/
theorem cutFirst?_before {p : Char} {others text before after : List Char}
    (found : Text.cutFirst? (p :: others) text = some (before, after)) :
    Text.cutFirst? (p :: others) before = none := by
  induction text generalizing before after with
  | nil => cases found
  | cons c text ih =>
    have whole := Text.cutFirst?_eq_some found
    rw [Text.cutFirst?] at found
    split at found
    · cases found
      rfl
    · next start =>
      obtain ⟨⟨front, back⟩, inner, same⟩ := Option.map_eq_some_iff.mp found
      cases same
      have elsewhere : Text.dropPrefix? (p :: others) (c :: front) = none := by
        cases present : Text.dropPrefix? (p :: others) (c :: front) with
        | none => rfl
        | some rest =>
          have earlier := dropPrefix?_append present (p :: others ++ after)
          rw [← List.append_assoc, ← whole, start] at earlier
          cases earlier
      rw [Text.cutFirst?, elsewhere]
      simp only [ih inner, Option.map_none]

/-- A pattern that is not in a text is not in its end. -/
theorem cutFirst?_suffix {pattern : List Char} (front : List Char) {text : List Char}
    (absent : Text.cutFirst? pattern (front ++ text) = none) :
    Text.cutFirst? pattern text = none := by
  induction front with
  | nil => exact absent
  | cons c front ih =>
    rw [List.cons_append, Text.cutFirst?] at absent
    split at absent
    · cases absent
    · exact ih (Option.map_eq_none_iff.mp absent)

/-- What holds of markup that was read. -/
def SoundMarkup : Markup → Prop
  | .opening _ attributes | .empty _ attributes => (attributes.map Prod.fst).Nodup
  | .cdata text => Text.cutFirst? [']', ']', '>'] text = none
  | .closing _ | .skipped => True

private theorem soundMarkup_of_openingMarkup? {content : List Char} {markup : Markup}
    (success : openingMarkup? content = some markup) : SoundMarkup markup := by
  unfold openingMarkup? at success
  split at success
  all_goals
    obtain ⟨⟨name, attributes⟩, read, rfl⟩ := Option.map_eq_some_iff.mp success
    exact nodup_of_readTag? read

private theorem soundMarkup_of_readMarkup? {text behind : List Char} {markup : Markup}
    (success : readMarkup? text = some (markup, behind)) : SoundMarkup markup := by
  rcases readMarkup?_cases success with ⟨rest, before, content, -, found, dropped, rfl⟩ | ⟨rfl, -⟩ |
    ⟨rest, content, -, -, rfl⟩ | ⟨content, -, opened⟩
  · -- The section ends at the first end mark, so there is none in its content.
    have absent := cutFirst?_before found
    rw [Text.dropPrefix?_eq_some dropped] at absent
    exact cutFirst?_suffix _ absent
  · trivial
  · trivial
  · exact soundMarkup_of_openingMarkup? opened

/-! ## The invariant -/

/-- What holds of a node that was read. -/
structure SoundNode (node : XmlNode) : Prop where
  legible : node.Legible
  below : ∀ child, node = .element child → XmlElement.Throughout XmlElement.Sound child

structure OpenElement.Sound (element : OpenElement) : Prop where
  distinct : (element.attributes.map Prod.fst).Nodup
  nodes : ∀ node ∈ element.reversed, SoundNode node

structure Building.Sound (building : Building) : Prop where
  stack : ∀ element ∈ building.stack, element.Sound
  root : ∀ element, building.root = some element → XmlElement.Throughout XmlElement.Sound element

private theorem soundNode_element {element : XmlElement}
    (sound : XmlElement.Throughout XmlElement.Sound element) : SoundNode (.element element) := by
  refine ⟨trivial, ?_⟩
  rintro _ ⟨⟩
  exact sound

private theorem soundNode_text {text : String} (written : text ≠ "") : SoundNode (.text text) := by
  refine ⟨written, ?_⟩
  rintro _ ⟨⟩

private theorem soundNode_cdata {text : List Char}
    (legible : Text.cutFirst? [']', ']', '>'] text = none) :
    SoundNode (.cdata (String.ofList text)) := by
  refine ⟨by rwa [XmlNode.Legible, String.toList_ofList], ?_⟩
  rintro _ ⟨⟩

private theorem mem_of_mem_contentOf {node : XmlNode} {children : List XmlNode}
    (member : node ∈ contentOf children) : node ∈ children := by
  unfold contentOf at member
  split at member
  · exact (List.mem_filter.mp member).1
  · exact member

/-- What is left without indentation has none. -/
theorem contentOf_contentOf (children : List XmlNode) :
    contentOf (contentOf children) = contentOf children := by
  rw [contentOf_eq_self]
  intro beside node member
  unfold contentOf at beside member
  split at member
  · simpa using (List.mem_filter.mp member).2
  · next alone =>
    rw [if_neg alone] at beside
    exact absurd beside alone

/-- An element is closed as what holds of its nodes says. -/
theorem OpenElement.Sound.close {element : OpenElement} (sound : element.Sound) :
    XmlElement.Throughout XmlElement.Sound element.close := by
  have inside : ∀ node ∈ contentOf element.reversed.reverse, SoundNode node := fun node member =>
    sound.nodes node (List.mem_reverse.mp (mem_of_mem_contentOf member))
  rw [OpenElement.close, XmlElement.throughout_mk]
  refine ⟨⟨sound.distinct, fun node member => (inside node member).legible, ?_⟩, ?_⟩
  · exact contentOf_contentOf _
  · exact fun child member => (inside _ member).below child rfl

namespace Building.Sound

variable {building after : Building}

private theorem add {node : XmlNode} {outside : Except Fault Building} (sound : building.Sound)
    (soundNode : SoundNode node) (otherwise : outside = .ok after → after.Sound)
    (success : building.add node outside = .ok after) : after.Sound := by
  unfold Building.add at success
  split at success
  · next parent stack split =>
    cases success
    have inner := sound.stack
    rw [split] at inner
    refine ⟨fun element member => ?_, sound.root⟩
    rcases List.mem_cons.mp member with rfl | later
    · have here := inner parent List.mem_cons_self
      refine ⟨here.distinct, fun other present => ?_⟩
      rcases List.mem_cons.mp present with rfl | there
      · exact soundNode
      · exact here.nodes other there
    · exact inner element (List.mem_cons_of_mem _ later)
  · exact otherwise success

private theorem addElement {element : XmlElement} (sound : building.Sound)
    (complete : XmlElement.Throughout XmlElement.Sound element)
    (success : building.addElement element = .ok after) : after.Sound := by
  refine sound.add (soundNode_element complete) (fun outside => ?_) success
  split at outside
  · cases outside
  · cases outside
    refine ⟨sound.stack, ?_⟩
    rintro _ ⟨⟩
    exact complete

private theorem addText {raw : List Char} (sound : building.Sound)
    (success : building.addText raw = .ok after) : after.Sound := by
  unfold Building.addText at success
  split at success
  · cases success
    exact sound
  · next written =>
    split at success
    · cases success
    · next text unescaped =>
      have nonempty : raw ≠ [] := fun empty => written (List.isEmpty_iff.mpr empty)
      refine sound.add (soundNode_text (ne_empty_of_unescape? nonempty unescaped))
        (fun outside => ?_) success
      split at outside
      · cases outside
        exact sound
      · cases outside

private theorem addMarkup {markup : Markup} (sound : building.Sound) (read : SoundMarkup markup)
    (success : building.addMarkup markup = .ok after) : after.Sound := by
  cases markup with
  | skipped =>
    cases success
    exact sound
  | cdata text =>
    have outside : Except.error Fault.cdataOutside = .ok after → after.Sound := nofun
    exact sound.add (soundNode_cdata read) outside success
  | opening name attributes =>
    cases success
    refine ⟨fun element member => ?_, sound.root⟩
    rcases List.mem_cons.mp member with rfl | later
    · exact ⟨read, nofun⟩
    · exact sound.stack element later
  | empty name attributes =>
    have complete : XmlElement.Throughout XmlElement.Sound
        (.mk (String.ofList name) attributes []) :=
      XmlElement.throughout_mk.mpr ⟨⟨read, nofun, rfl⟩, nofun⟩
    exact sound.addElement complete success
  | closing name =>
    rw [Building.addMarkup] at success
    split at success
    · next element stack split =>
      have inner := sound.stack
      rw [split] at inner
      split at success
      · have outer : Building.Sound { building with stack } :=
          ⟨fun other member => inner other (List.mem_cons_of_mem _ member), sound.root⟩
        exact outer.addElement (inner element List.mem_cons_self).close success
      · cases success
    · cases success

private theorem finish {element : XmlElement} (sound : building.Sound)
    (success : building.finish = .ok element) : XmlElement.Throughout XmlElement.Sound element := by
  unfold Building.finish at success
  split at success
  · cases success
  · split at success
    · next root present =>
      cases success
      exact sound.root _ present
    · cases success

/-- The invariant is kept up to the end of the text. -/
theorem readFrom {input : List Char} {element : XmlElement} (sound : building.Sound)
    (success : Xml.readFrom building input = .ok element) :
    XmlElement.Throughout XmlElement.Sound element := by
  fun_induction Xml.readFrom building input with
  | case2 building input added text => exact (sound.addText text).finish success
  | case5 =>
    rename_i text _ _ _ _ _ markup _ _ added ih
    exact ih ((sound.addText text).addMarkup (soundMarkup_of_readMarkup? markup) added) success
  | case1 | case3 | case4 => cases success

end Building.Sound

/-- What holds of an element that was read holds throughout. -/
theorem sound_of_read {text : String} {element : XmlElement} (success : read text = .ok element) :
    XmlElement.Throughout XmlElement.Sound element := by
  have sound : Building.Sound ⟨[], none⟩ := ⟨nofun, nofun⟩
  unfold read at success
  split at success <;> exact sound.readFrom success

end DerivedFields.Xml

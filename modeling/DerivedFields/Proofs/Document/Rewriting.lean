import DerivedFields.Proofs.Document.Target
import DerivedFields.Proofs.Document.XmlRoundTrip

/-!
# Reading back a document that was written to

A write may leave what no text stands for: an empty text, or child elements beside a blank one. But
names stay well-formed, keys distinct and character data as it was read. So after any history of
writes a document can be rendered and parsed, and what comes back is the document once it is
settled. The texts that paths lead to are the same, except for blank ones beside child elements.
-/

namespace DerivedFields

namespace XmlElement

variable {element : XmlElement} {name text : String} {update : XmlElement → XmlElement}

private theorem printable_empty (named : Xml.isName name = true) : Throughout Printable (empty name) :=
  throughout_mk.mpr ⟨⟨⟨named, nofun⟩, List.nodup_nil, nofun⟩, nofun⟩

/-- A text has no child elements and no character data. -/
theorem printable_withText (text : String) (printable : Throughout Printable element) :
    Throughout Printable (element.withText text) := by
  obtain ⟨own, attributes, children⟩ := element
  obtain ⟨⟨named, distinct, -⟩, -⟩ := throughout_mk.mp printable
  refine throughout_mk.mpr ⟨⟨⟨named.name, named.keys⟩, distinct, ?_⟩, ?_⟩
  · intro content member
    cases List.mem_singleton.mp member
  · intro child member
    cases List.mem_singleton.mp member

private theorem printable_withAttribute (named : Xml.isName name = true) (text : String)
    (printable : Throughout Printable element) :
    Throughout Printable (element.withAttribute name text) := by
  obtain ⟨own, attributes, children⟩ := element
  obtain ⟨⟨ownNamed, distinct, cdata⟩, below⟩ := throughout_mk.mp printable
  have keys := keys_writeEntry name text attributes
  rw [← setAttribute_eq_writeEntry] at keys
  refine throughout_mk.mpr ⟨⟨⟨ownNamed.name, ?_⟩, ?_, cdata⟩, below⟩
  · intro entry member
    have key : entry.1 ∈ (setAttribute name text attributes).map Prod.fst :=
      List.mem_map_of_mem member
    have known (old : entry.1 ∈ attributes.map Prod.fst) : Xml.isName entry.1 = true := by
      obtain ⟨other, present, same⟩ := List.mem_map.mp old
      exact same ▸ ownNamed.keys other present
    rw [keys] at key
    split at key
    · exact known key
    · rcases List.mem_append.mp key with old | new
      · exact known old
      · rwa [List.mem_singleton.mp new]
  · change ((setAttribute name text attributes).map Prod.fst).Nodup
    rw [keys]
    split
    · exact distinct
    · next absent =>
      refine List.nodup_append.mpr ⟨distinct, by simp, ?_⟩
      rintro key present other last rfl
      exact absent (List.mem_singleton.mp last ▸ present)

/-- The children are those that were there, and one that was changed or is new. -/
theorem mem_updateChild {node : XmlNode} {nodes : List XmlNode}
    (member : node ∈ updateChild name update nodes) :
    node ∈ nodes ∨
      ∃ child, (child = empty name ∨ .element child ∈ nodes) ∧ node = .element (update child) := by
  induction nodes with
  | nil => exact .inr ⟨_, .inl rfl, List.mem_singleton.mp member⟩
  | cons first rest ih =>
    rw [updateChild] at member
    cases found : first.named? name with
    | some child =>
      rw [found] at member
      rcases List.mem_cons.mp member with rfl | later
      · have here : .element child ∈ first :: rest :=
          (eq_element_of_named? found).1 ▸ List.mem_cons_self
        exact .inr ⟨child, .inr here, rfl⟩
      · exact .inl (List.mem_cons_of_mem _ later)
    | none =>
      rw [found] at member
      rcases List.mem_cons.mp member with rfl | later
      · exact .inl List.mem_cons_self
      · rcases ih later with old | ⟨child, origin, rfl⟩
        · exact .inl (List.mem_cons_of_mem _ old)
        · exact .inr ⟨child, origin.imp_right (List.mem_cons_of_mem _), rfl⟩

private theorem printable_withChild (named : Xml.isName name = true)
    (kept : ∀ {child}, Throughout Printable child → Throughout Printable (update child))
    (printable : Throughout Printable element) :
    Throughout Printable (element.withChild name update) := by
  obtain ⟨own, attributes, children⟩ := element
  obtain ⟨⟨ownNamed, distinct, cdata⟩, below⟩ := throughout_mk.mp printable
  refine throughout_mk.mpr ⟨⟨⟨ownNamed.name, ownNamed.keys⟩, distinct, ?_⟩, ?_⟩
  · intro content member
    rcases mem_updateChild member with old | ⟨child, -, other⟩
    · exact cdata content old
    · cases other
  · intro part member
    rcases mem_updateChild member with old | ⟨child, origin, new⟩
    · exact below part old
    · cases new
      rcases origin with rfl | old
      · exact kept (printable_empty named)
      · exact kept (below child old)

/-- Writes at well-formed names keep elements printable. The induction is on the path: each step
changes one child of an element. -/
theorem printable_writeBelow {path : List PathSegment}
    (named : ∀ segment ∈ path, Xml.isName segment.name = true) (text : String)
    (printable : Throughout Printable element) :
    Throughout Printable (element.writeBelow text path) := by
  induction path generalizing element with
  | nil => exact printable_withText text printable
  | cons segment rest ih =>
    have here := named segment List.mem_cons_self
    have below : ∀ segment ∈ rest, Xml.isName segment.name = true :=
      fun other member => named other (List.mem_cons_of_mem _ member)
    rw [writeBelow_cons]
    split
    · exact printable_withAttribute here text printable
    · exact printable_withChild here (ih below) printable

private theorem mem_belowRoot {root : XmlElement} {segments : List PathSegment} {segment : PathSegment}
    (member : segment ∈ root.belowRoot segments) : segment ∈ segments := by
  unfold belowRoot at member
  split at member
  · split at member
    · exact List.mem_cons_of_mem _ member
    · exact member
  · exact member

end XmlElement

namespace Document

open XmlElement

/-- What a document becomes by writes at paths of well-formed names, none of which fails. -/
inductive Rewritten (document : Document) : Document → Prop
  | start : Rewritten document document
  | set {before after : Document} {path text : String} (earlier : Rewritten document before)
    (named : ∀ segment ∈ (Path.parse path).segments, Xml.isName segment.name = true)
    (success : before.set path text = (after, .ok ())) : Rewritten document after

/-- No history of writes leaves the elements that can be written. -/
theorem Rewritten.printable {root : XmlElement} {document : Document}
    (history : Rewritten (.xml root) document) (printable : Throughout Printable root) :
    ∃ last, document = .xml last ∧ Throughout Printable last := by
  induction history with
  | start => exact ⟨root, rfl, printable⟩
  | set _ named success ih =>
    obtain ⟨last, rfl, inside⟩ := ih
    obtain ⟨target, parsed, written⟩ := set_eq_ok_iff.mp success
    obtain rfl := Path.eq_parse_of_parseTarget parsed
    rw [write?_xml] at written
    cases written
    exact ⟨_, rfl, printable_writeBelow (fun segment member => named segment (mem_belowRoot member))
      _ inside⟩

/-- A document that was read and written to is read back from its rendering, settled. -/
theorem Rewritten.parse_render {text : String} {root : XmlElement} {document : Document}
    (history : Rewritten (.xml root) document) (parsed : parse text .xml = .ok (.xml root))
    (named : root.Throughout WellNamed) :
    ∃ last, document = .xml last ∧
      parse (render document) .xml = .ok (.xml last.joined.settled) := by
  have sound := Xml.sound_of_read (read_of_parse parsed)
  obtain ⟨last, rfl, printable⟩ := history.printable (printable_of_sound sound named)
  have back := Xml.read_render_settled (readable_joined printable)
  refine ⟨last, rfl, ?_⟩
  rw [render, ← render_joined, parse, parseXml, back]

/-- Whatever was written to an XML document with well-formed names, as long as the names on the
paths are well-formed, it is read back from its rendering, and every path leads to the same text.
Only where a path reads an element that has child elements, the blank runs of text nodes in it are
missing. -/
theorem parse_render_rewritten {text : String} {root : XmlElement} {written : Document}
    (parsed : parse text .xml = .ok (.xml root)) (named : root.Throughout WellNamed)
    (history : Rewritten (.xml root) written) :
    ∃ last back, written = .xml last ∧ parse (render written) .xml = .ok back ∧
      ∀ path lenient,
        ((∀ element, last.elementAt? lenient path.segments = some element → ¬element.Indented) →
          back.resolve path lenient = written.resolve path lenient) ∧
        ∀ element, last.elementAt? lenient path.segments = some element → element.Indented →
          back.resolve path lenient = element.keptText ∧
            back.resolve path lenient ≠ written.resolve path lenient := by
  obtain ⟨last, rfl, back⟩ := history.parse_render parsed named
  refine ⟨last, _, rfl, back, fun path lenient => ?_⟩
  have texts := (uniform_settled.comp uniform_joined).textAt_eq lenient path.segments last
  simp only [resolve]
  rw [texts]
  cases leads : last.elementAt? lenient path.segments with
  | none =>
    refine ⟨fun _ => rfl, ?_⟩
    rintro _ ⟨⟩
  | some element =>
    have before := textAt_of_elementAt? leads
    have after := text_settled_joined element
    have kept := keptText_eq_text_iff element
    simp only [Option.map_some, Option.getD_some, before, after]
    constructor
    · exact fun flat => kept.mpr (flat element rfl)
    · rintro _ ⟨⟩ indented
      exact ⟨rfl, fun same => kept.mp same indented⟩

/-- A document with an element that holds a blank. -/
def blank : XmlElement := .mk "r" [] [.element (.mk "a" [] [.text " "])]

/-- The same document with an element written beside the blank. -/
def crowded : XmlElement :=
  .mk "r" [] [.element (.mk "a" [] [.text " ", .element (.mk "b" [] [.text "x"])])]

private theorem parse_blank : parse "<r><a> </a></r>" .xml = .ok (.xml blank) := by
  have outer := @Xml.readMarkup?_opening "r" [] (by decide) nofun List.nodup_nil
    "<a> </a></r>".toList
  have inner := @Xml.readMarkup?_opening "a" [] (by decide) nofun List.nodup_nil " </a></r>".toList
  have innerEnd := @Xml.readMarkup?_closing "a" (by decide) "</r>".toList
  have outerEnd := @Xml.readMarkup?_closing "r" (by decide) []
  have read : Xml.read "<r><a> </a></r>" = .ok blank := by
    change Xml.readFrom ⟨[], none⟩ ('<' :: ("r".toList ++ Xml.attributesText [] ++
      '>' :: "<a> </a></r>".toList)) = _
    rw [Xml.readFrom_bracket outer]
    change Xml.readFrom _ ('<' :: ("a".toList ++ Xml.attributesText [] ++
      '>' :: " </a></r>".toList)) = _
    rw [Xml.readFrom_bracket inner]
    change Xml.readFrom _ (" ".toList ++ '<' :: '/' :: ("a".toList ++ '>' :: "</r>".toList)) = _
    rw [Xml.readFrom_append (Xml.forall_mem_of_all (by decide))]
    change Xml.readFrom _ ('<' :: '/' :: ("a".toList ++ '>' :: "</r>".toList)) = _
    rw [Xml.readFrom_bracket innerEnd]
    change Xml.readFrom _ ('<' :: '/' :: ("r".toList ++ '>' :: [])) = _
    rw [Xml.readFrom_bracket outerEnd]
    change Xml.readFrom _ [] = _
    rw [Xml.readFrom_nil]
    rfl
  rw [parse, parseXml, read]

private theorem wellNamed_blank : blank.Throughout WellNamed := by
  have leaf : (XmlElement.mk "a" [] [.text " "]).Throughout WellNamed :=
    XmlElement.throughout_mk.mpr ⟨⟨by decide, nofun⟩, fun child member => by simp at member⟩
  refine XmlElement.throughout_mk.mpr ⟨⟨by decide, nofun⟩, fun child member => ?_⟩
  obtain rfl : child = .mk "a" [] [.text " "] := by simpa using member
  exact leaf

private theorem rewritten_crowded : Rewritten (.xml blank) (.xml crowded) := by
  have named : ∀ segment ∈ (Path.parse "a/b").segments, Xml.isName segment.name = true := by
    decide
  have success : Document.set (.xml blank) "a/b" "x" = (.xml crowded, .ok ()) := by cbv
  exact .set .start named success

/-- The element is read back beside the blank, and the blank is not. -/
theorem parse_render_rewritten_crowded :
    ∃ back, parse (render (.xml crowded)) .xml = .ok back ∧
      back.resolve ⟨[.element "a", .element "b"]⟩ true = "x" ∧
      back.resolve ⟨[.element "a"]⟩ true = "" := by
  obtain ⟨last, back, same, read, texts⟩ :=
    parse_render_rewritten parse_blank wellNamed_blank rewritten_crowded
  cases same
  have inner : crowded.elementAt? true [.element "a", .element "b"] =
      some (.mk "b" [] [.text "x"]) := by cbv
  have outer : crowded.elementAt? true [.element "a"] =
      some (.mk "a" [] [.text " ", .element (.mk "b" [] [.text "x"])]) := by cbv
  refine ⟨back, read, ?_, ?_⟩
  · refine ((texts ⟨[.element "a", .element "b"]⟩ true).1 fun element leads => ?_).trans (by cbv)
    cases inner.symm.trans leads
    exact fun indented => Bool.false_ne_true indented.1
  · have indented :
        (XmlElement.mk "a" [] [.text " ", .element (.mk "b" [] [.text "x"])]).Indented :=
      ⟨rfl, " ", List.mem_cons_self, by decide, by decide⟩
    exact ((texts ⟨[.element "a"]⟩ true).2 _ outer indented).1.trans (by decide)

/-- The blank beside the element is not read back. -/
theorem not_forall_resolve_rewritten :
    ¬∀ {text : String} {root : XmlElement} {written : Document},
      parse text .xml = .ok (.xml root) → root.Throughout WellNamed →
      Rewritten (.xml root) written → ∃ back, parse (render written) .xml = .ok back ∧
        ∀ path lenient, back.resolve path lenient = written.resolve path lenient := by
  intro same
  obtain ⟨back, read, texts⟩ := same parse_blank wellNamed_blank rewritten_crowded
  obtain ⟨last, crowd, settled⟩ := rewritten_crowded.parse_render parse_blank wellNamed_blank
  cases crowd
  rw [settled] at read
  cases read
  have missing := texts ⟨[.element "a"]⟩ true
  have after : resolve (.xml crowded.joined.settled) ⟨[.element "a"]⟩ true = "" := by decide
  have before : resolve (.xml crowded) ⟨[.element "a"]⟩ true = " " := by cbv
  rw [after, before] at missing
  exact absurd missing (by decide)

end Document

end DerivedFields

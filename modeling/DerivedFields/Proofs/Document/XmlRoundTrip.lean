import DerivedFields.Document.Basic
import DerivedFields.Proofs.Xml.Joining
import DerivedFields.Proofs.Xml.Reading
import DerivedFields.Proofs.Xml.Soundness

/-!
# Reading back a rendered XML document

What was read can be read back once its texts are joined, and joining them changes nothing of what is
written. So a document is read back from its rendering with its texts joined, whatever markup was
skipped in the text that it was first read from.
-/

namespace DerivedFields.Document

variable {text : String} {root : XmlElement}

theorem read_of_parse (parsed : parse text .xml = .ok (.xml root)) : Xml.read text = .ok root := by
  rw [parse, parseXml] at parsed
  split at parsed
  · next read =>
    cases parsed
    exact read
  · cases parsed

/-- A document with well-formed names is read back from its rendering. Runs of text nodes are joined,
which no path and no further rendering can tell. -/
theorem parse_render_xml (parsed : parse text .xml = .ok (.xml root))
    (named : root.Throughout XmlElement.WellNamed) :
    parse (render (.xml root)) .xml = .ok (.xml root.joined) ∧
      (∀ path lenient, resolve (.xml root.joined) path lenient = resolve (.xml root) path lenient) ∧
      render (.xml root.joined) = render (.xml root) := by
  have sound := Xml.sound_of_read (read_of_parse parsed)
  have same := XmlElement.render_joined root
  have back := Xml.read_render (XmlElement.writable_joined sound named)
  refine ⟨?_, fun path lenient => XmlElement.textAt_joined lenient path.segments root, same⟩
  rw [render, ← same, parse, parseXml, back]

/-- A document with an escaped attribute, text around a comment, and an empty element behind it. -/
def mixed : XmlElement :=
  .mk "a" [("k", "<")] [.text "x", .text " y", .element (.mk "b" [] [])]

private theorem parse_mixed : parse "<a k=\"&lt;\">x<!-- --> y<b/></a>" .xml = .ok (.xml mixed) := by
  have opened := @Xml.readMarkup?_opening "a" [("k", "<")] (by decide) (by decide) (by decide)
    "x<!-- --> y<b/></a>".toList
  have skipped : Xml.readMarkup? "!-- --> y<b/></a>".toList = some (.skipped, " y<b/></a>".toList) := by
    rfl
  have empty := @Xml.readMarkup?_empty "b" [] (by decide) nofun List.nodup_nil "</a>".toList
  have closed := @Xml.readMarkup?_closing "a" (by decide) []
  have read : Xml.read "<a k=\"&lt;\">x<!-- --> y<b/></a>" = .ok mixed := by
    change Xml.readFrom ⟨[], none⟩ ('<' :: ("a".toList ++ Xml.attributesText [("k", "<")] ++
      '>' :: "x<!-- --> y<b/></a>".toList)) = _
    rw [Xml.readFrom_bracket opened]
    change Xml.readFrom _ ("x".toList ++ '<' :: "!-- --> y<b/></a>".toList) = _
    rw [Xml.readFrom_append (Xml.forall_mem_of_all (by decide))]
    change Xml.readFrom _ ('<' :: "!-- --> y<b/></a>".toList) = _
    rw [Xml.readFrom_bracket skipped]
    change Xml.readFrom _ (" y".toList ++ '<' :: ("b".toList ++ Xml.attributesText [] ++
      '/' :: '>' :: "</a>".toList)) = _
    rw [Xml.readFrom_append (Xml.forall_mem_of_all (by decide))]
    change Xml.readFrom _ ('<' :: ("b".toList ++ Xml.attributesText [] ++
      '/' :: '>' :: "</a>".toList)) = _
    rw [Xml.readFrom_bracket empty]
    change Xml.readFrom _ ('<' :: '/' :: ("a".toList ++ '>' :: [])) = _
    rw [Xml.readFrom_bracket closed]
    change Xml.readFrom _ [] = _
    rw [Xml.readFrom_nil]
    rfl
  rw [parse, parseXml, read]

/-- The text around the comment comes back as one node. -/
theorem parse_render_xml_mixed :
    parse "<a k=\"&lt;\">x<!-- --> y<b/></a>" .xml = .ok (.xml mixed) ∧
      parse (render (.xml mixed)) .xml =
        .ok (.xml (.mk "a" [("k", "<")] [.text "x y", .element (.mk "b" [] [])])) := by
  have named : mixed.Throughout XmlElement.WellNamed := by
    have leaf : (XmlElement.mk "b" [] []).Throughout XmlElement.WellNamed :=
      XmlElement.throughout_mk.mpr ⟨⟨by decide, nofun⟩, nofun⟩
    refine XmlElement.throughout_mk.mpr ⟨⟨by decide, by decide⟩, fun child member => ?_⟩
    obtain rfl : child = .mk "b" [] [] := by simpa using member
    exact leaf
  exact ⟨parse_mixed, (parse_render_xml parse_mixed named).1⟩

end DerivedFields.Document

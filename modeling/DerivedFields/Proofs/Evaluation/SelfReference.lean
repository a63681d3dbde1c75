import Mathlib
import DerivedFields.Proofs.Document.Target
import DerivedFields.Scope

/-!
# Paths that name the document element

In an XML document a path may begin with the name of the document element or leave it out: both
spellings are read from one place and written to one place. A script that reads its own target is
to see what its node wrote there. Which paths are the target is decided on the steps as they are
spelled, before the document leaves the first one out, so the target spelled the other way is read
from the output. Between documents with different texts there, the two spellings differ.
-/

namespace DerivedFields

open PathSegment (Descends)

/-- The steps of two paths with a slash between them. -/
theorem Path.segments_parse_append (first second : String) :
    (parse (first ++ "/" ++ second)).segments =
      (parse first).segments ++ (parse second).segments := by
  simp only [parse, Text.splitAtChar_slash, List.filter_append, List.map_append]

section

variable {root : XmlElement} {segments : List PathSegment}

private theorem XmlElement.belowRoot_self (root : XmlElement) (segments : List PathSegment) :
    root.belowRoot (.element root.name :: segments) = segments := if_pos rfl

private theorem XmlElement.belowRoot_of_ne (other : segments.head? ≠ some (.element root.name)) :
    root.belowRoot segments = segments := by
  unfold belowRoot
  split
  · next name rest =>
    have different : name ≠ root.name := by
      rintro rfl
      exact other rfl
    rw [if_neg different]
  · rfl

end

namespace Document

variable {root : XmlElement} {long short : String}

/-- A path begins with the document element, and another one leaves it out. -/
structure SpellsRoot (root : XmlElement) (long short : String) : Prop where
  spelled : (Path.parse long).segments = .element root.name :: (Path.parse short).segments
  nonempty : (Path.parse short).segments ≠ []
  left_out : (Path.parse short).segments.head? ≠ some (.element root.name)

/-- Below the document element both lead to the same place. -/
theorem SpellsRoot.belowRoot_eq (spells : SpellsRoot root long short) :
    root.belowRoot (Path.parse long).segments = root.belowRoot (Path.parse short).segments := by
  rw [spells.spelled, root.belowRoot_self, XmlElement.belowRoot_of_ne spells.left_out]

private theorem SpellsRoot.resolve_eq (spells : SpellsRoot root long short) (lenient : Bool) :
    (xml root).resolve (Path.parse long) lenient =
      (xml root).resolve (Path.parse short) lenient := by
  simp only [resolve, XmlElement.textAt, spells.belowRoot_eq]

/-- Both are targets, or neither is. -/
theorem SpellsRoot.parseTarget_iff (spells : SpellsRoot root long short) :
    (∃ target, Path.parseTarget long = .ok target) ↔
      ∃ target, Path.parseTarget short = .ok target := by
  obtain ⟨spelled, nonempty, -⟩ := spells
  simp only [Path.parseTarget_eq_ok_iff, exists_eq_left, spelled]
  cases steps : (Path.parse short).segments with
  | nil => exact absurd steps nonempty
  | cons step rest =>
    rw [PathSegment.descends_cons, List.getLast?_cons_cons]
    simp [PathSegment.isAttribute]

/-- What is written to the one is written to the other. -/
theorem SpellsRoot.set_eq (spells : SpellsRoot root long short) (text : String) :
    ((xml root).set long text).1 = ((xml root).set short text).1 ∧
      ((xml root).set long text).2.isOk = ((xml root).set short text).2.isOk := by
  have alike := spells.parseTarget_iff
  simp only [set]
  cases onLong : Path.parseTarget long with
  | error fault =>
    cases onShort : Path.parseTarget short with
    | error other => exact ⟨rfl, rfl⟩
    | ok target =>
      obtain ⟨other, parsed⟩ := alike.mpr ⟨target, onShort⟩
      cases onLong.symm.trans parsed
  | ok target =>
    obtain ⟨other, onShort⟩ := alike.mp ⟨target, onLong⟩
    obtain ⟨rfl, -⟩ := Path.parseTarget_eq_ok_iff.mp onLong
    obtain ⟨rfl, -⟩ := Path.parseTarget_eq_ok_iff.mp onShort
    simp only [onShort, write, XmlElement.writeAt, spells.belowRoot_eq]
    exact ⟨trivial, trivial⟩

end Document

open Document (SpellsRoot)

/-- Two paths that lead to one text in each of the documents are read alike, unless one of them is the
target and the documents have different texts there. -/
theorem Scope.resolve_eq_resolve_iff {scope : Scope} {long short : String}
    (apart : Path.parse long ≠ Path.parse short)
    (inOutput : scope.output.resolve (Path.parse long) scope.settings.lenientAttributes =
      scope.output.resolve (Path.parse short) scope.settings.lenientAttributes)
    (inIntermediate : scope.intermediate.resolve (Path.parse long) scope.settings.lenientAttributes =
      scope.intermediate.resolve (Path.parse short) scope.settings.lenientAttributes) :
    scope.resolve long = scope.resolve short ↔
      (scope.target = some (Path.parse short) ∨ scope.target = some (Path.parse long) →
        scope.output.resolve (Path.parse short) scope.settings.lenientAttributes =
          scope.intermediate.resolve (Path.parse short) scope.settings.lenientAttributes) := by
  rw [resolve, resolve, source, source]
  -- at most one of the two is the target
  by_cases onShort : scope.target = some (Path.parse short)
  · have notLong : scope.target ≠ some (Path.parse long) := by
      rw [onShort]
      exact fun same => apart (Option.some.inj same).symm
    rw [if_neg notLong, if_pos onShort, inOutput]
    simp only [onShort, true_or, true_imp_iff]
  · by_cases onLong : scope.target = some (Path.parse long)
    · rw [if_pos onLong, if_neg onShort, inIntermediate]
      simp only [onLong, or_true, true_imp_iff]
      exact eq_comm
    · rw [if_neg onLong, if_neg onShort, inOutput]
      simp only [onShort, onLong, or_self, false_imp_iff]

/-- Both documents of a script take the two spellings of a place for one. The script itself does so
unless one of them is its target and the documents have different texts there. -/
theorem Scope.resolve_root {scope : Scope} {output intermediate : XmlElement} {path : String}
    (reads : scope.output = .xml output) (writes : scope.intermediate = .xml intermediate)
    (sameRoot : intermediate.name = output.name)
    (oneStep : (Path.parse output.name).segments = [.element output.name])
    (nonempty : (Path.parse path).segments ≠ [])
    (leftOut : (Path.parse path).segments.head? ≠ some (.element output.name)) :
    let long := output.name ++ "/" ++ path
    let textIn (document : Document) (place : String) :=
      document.resolve (Path.parse place) scope.settings.lenientAttributes
    (∀ document, document = scope.output ∨ document = scope.intermediate →
      textIn document long = textIn document path ∧
        ∀ text, (document.set long text).1 = (document.set path text).1 ∧
          (document.set long text).2.isOk = (document.set path text).2.isOk) ∧
    (scope.resolve long = scope.resolve path ↔
      (scope.target = some (Path.parse path) ∨ scope.target = some (Path.parse long) →
        textIn scope.output path = textIn scope.intermediate path)) := by
  intro long textIn
  have spelled : (Path.parse long).segments =
      .element output.name :: (Path.parse path).segments := by
    rw [Path.segments_parse_append, oneStep, List.singleton_append]
  have inOutput : SpellsRoot output long path := ⟨spelled, nonempty, leftOut⟩
  have inIntermediate : SpellsRoot intermediate long path := by
    rw [← sameRoot] at spelled leftOut
    exact ⟨spelled, nonempty, leftOut⟩
  have sameOutput : textIn scope.output long = textIn scope.output path := by
    simp only [textIn, reads]
    exact inOutput.resolve_eq _
  have sameIntermediate : textIn scope.intermediate long = textIn scope.intermediate path := by
    simp only [textIn, writes]
    exact inIntermediate.resolve_eq _
  refine ⟨?_, Scope.resolve_eq_resolve_iff ?_ sameOutput sameIntermediate⟩
  · rintro document (rfl | rfl)
    · refine ⟨sameOutput, ?_⟩
      rw [reads]
      exact inOutput.set_eq
    · refine ⟨sameIntermediate, ?_⟩
      rw [writes]
      exact inIntermediate.set_eq
  · intro same
    rw [same] at spelled
    exact List.cons_ne_self _ _ spelled.symm

/-- Between documents that differ at other places only, the target is read in both spellings. -/
theorem Scope.resolve_root_agreeing :
    let output : XmlElement := .mk "r" [] [.element (.mk "x" [("n", "1")] []), .text "old"]
    let intermediate : XmlElement := .mk "r" [] [.element (.mk "x" [("n", "1")] []), .text "new"]
    let target : Path := ⟨[.element "r", .element "x", .attribute "n"]⟩
    let scope : Scope := ⟨.standard, .xml output, .xml intermediate, some target⟩
    (intermediate.name = output.name ∧
        (Path.parse output.name).segments = [.element output.name] ∧
        (Path.parse "x/@n").segments ≠ [] ∧
        (Path.parse "x/@n").segments.head? ≠ some (.element output.name)) ∧
      scope.output.resolve (Path.parse "x/@n") scope.settings.lenientAttributes =
        scope.intermediate.resolve (Path.parse "x/@n") scope.settings.lenientAttributes ∧
      scope.resolve (output.name ++ "/" ++ "x/@n") = scope.resolve "x/@n" := by
  intro output intermediate target scope
  have oneStep : (Path.parse output.name).segments = [.element output.name] := by cbv
  have steps : (Path.parse "x/@n").segments = [.element "x", .attribute "n"] := by cbv
  have nonempty : (Path.parse "x/@n").segments ≠ [] := by
    rw [steps]
    exact List.cons_ne_nil _ _
  have leftOut : (Path.parse "x/@n").segments.head? ≠ some (.element output.name) := by
    rw [steps]
    decide
  have same : scope.output.resolve (Path.parse "x/@n") scope.settings.lenientAttributes =
      scope.intermediate.resolve (Path.parse "x/@n") scope.settings.lenientAttributes := by cbv
  have reads : scope.output = .xml output := rfl
  have writes : scope.intermediate = .xml intermediate := rfl
  refine ⟨⟨rfl, oneStep, nonempty, leftOut⟩, same, ?_⟩
  exact (resolve_root reads writes rfl oneStep nonempty leftOut).2.mpr fun _ => same

/-- A script that names its target with the document element in front reads what was there before
its node. -/
theorem Scope.resolve_root_stale :
    let output : XmlElement := .mk "r" [] [.element (.mk "x" [] [.text "old"])]
    let intermediate : XmlElement := .mk "r" [] [.element (.mk "x" [] [.text "new"])]
    let scope : Scope := ⟨.standard, .xml output, .xml intermediate, some (Path.parse "x")⟩
    intermediate.name = output.name ∧ (Path.parse "x").segments = [.element "x"] ∧
      "x" ≠ output.name ∧
      scope.resolve (output.name ++ "/" ++ "x") = "old" ∧ scope.resolve "x" = "new" := by
  intro output intermediate scope
  refine ⟨rfl, ?_, ?_, ?_, ?_⟩
  · cbv
  · decide
  · cbv
  · cbv

end DerivedFields

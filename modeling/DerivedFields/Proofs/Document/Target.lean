import DerivedFields.Proofs.Document.Order

/-!
# Targets

A text is a target if the path that it spells has a step, if none of its steps but the last is an
attribute, and if that one has a name. Writing to a target is writing to its path, and nothing else
is ever written.
-/

namespace DerivedFields

namespace PathSegment

/-- Each step before the last one leads to an element. -/
def Descends (segments : List PathSegment) : Prop :=
  ∀ segment ∈ segments.dropLast, segment.isAttribute = false

theorem descends_cons {segment next : PathSegment} {rest : List PathSegment} :
    Descends (segment :: next :: rest) ↔
      segment.isAttribute = false ∧ Descends (next :: rest) := by
  rw [Descends, Descends, List.dropLast_cons_cons, List.forall_mem_cons]

/-- What is left of a way to elements behind its first step. -/
theorem descends_tail {segment : PathSegment} {rest : List PathSegment}
    (descends : Descends (segment :: rest)) : Descends rest := by
  cases rest with
  | nil => exact fun _ member => absurd member List.not_mem_nil
  | cons next rest => exact (descends_cons.mp descends).2

/-- A step that names the document element may be left out. -/
theorem descends_belowRoot {segments : List PathSegment} (descends : Descends segments)
    (root : XmlElement) : Descends (root.belowRoot segments) := by
  unfold XmlElement.belowRoot
  split
  · split
    · exact descends_tail descends
    · exact descends
  · exact descends

end PathSegment

open PathSegment (Descends)

/-- The texts that can be written to, and the paths that are then written to. -/
theorem Path.parseTarget_eq_ok_iff {text : String} {target : Path} :
    Path.parseTarget text = .ok target ↔
      target = Path.parse text ∧ target.segments ≠ [] ∧
        target.segments.getLast? ≠ some (.attribute "") ∧ Descends target.segments := by
  constructor
  · intro success
    obtain rfl := eq_parse_of_parseTarget success
    simp only [parseTarget] at success
    split at success
    · cases success
    · rename_i last ends
      have nonempty : (parse text).segments ≠ [] := by
        intro empty
        rw [empty] at ends
        cases ends
      split at success
      · cases success
      · rename_i named
        split at success
        · cases success
        · rename_i elements
          refine ⟨rfl, nonempty, ?_, ?_⟩
          · rw [ends]
            intro same
            exact named (Option.some.inj same)
          · intro segment member
            exact Bool.eq_false_iff.mpr (List.find?_eq_none.mp elements segment member)
  · rintro ⟨rfl, nonempty, named, descends⟩
    simp only [parseTarget]
    cases ends : (parse text).segments.getLast? with
    | none => exact absurd (List.getLast?_eq_none_iff.mp ends) nonempty
    | some last =>
      have elements : (parse text).segments.dropLast.find? PathSegment.isAttribute = none := by
        apply List.find?_eq_none.mpr
        intro segment member
        exact Bool.eq_false_iff.mp (descends segment member)
      have other : last ≠ .attribute "" := by
        rintro rfl
        exact named ends
      simp only [if_neg other, elements]

namespace Document

/-- A text is written to if and only if it is a target whose path can be written to. -/
theorem set_eq_ok_iff {document written : Document} {path text : String} :
    document.set path text = (written, .ok ()) ↔
      ∃ target, Path.parseTarget path = .ok target ∧
        document.write? target text = some written := by
  rw [set]
  cases Path.parseTarget path with
  | error fault => simp
  | ok target =>
    simp only [write?, Except.ok.injEq, exists_eq_left']
    generalize document.write target text = outcome
    obtain ⟨result, fault⟩ := outcome
    cases fault <;> simp

end Document

end DerivedFields

import DerivedFields.Proofs.Document.Target
import DerivedFields.Proofs.Text.Cuts

/-!
# The text of a path

A path is a list of pieces between slashes, without the empty ones, and each piece can be told from the
step that it stands for. So a path is known from its pieces, and printing it writes these with single
slashes between them. Read again, that text has the same pieces.
-/

namespace DerivedFields

namespace PathSegment

/-- A piece is the text of the step that it stands for. -/
theorem toText_ofText (part : List Char) : (ofText part).toText.toList = part := by
  unfold ofText
  split
  · simp only [toText, String.toList_append, String.toList_ofList]
    rfl
  · rw [toText, String.toList_ofList]

private theorem ofText_inj {first second : List Char} (same : ofText first = ofText second) :
    first = second := by
  rw [← toText_ofText first, same, toText_ofText]

end PathSegment

namespace Path

/-- What stands between the slashes of a text, without the pieces that are empty. -/
def pieces (text : String) : List (List Char) :=
  (Text.splitAtChar '/' text.toList).filter fun piece => piece ≠ []

/-- Text that can be one piece of a path. -/
def IsPiece (piece : List Char) : Prop := piece ≠ [] ∧ '/' ∉ piece

variable {text first second : String} {parts : List (List Char)}

private theorem isPiece_of_mem_pieces : ∀ piece ∈ pieces text, IsPiece piece := by
  intro piece member
  obtain ⟨inside, nonempty⟩ := List.mem_filter.mp member
  exact ⟨of_decide_eq_true nonempty, Text.notMem_of_mem_splitAtChar inside⟩

private theorem segments_parse (text : String) :
    (parse text).segments = (pieces text).map PathSegment.ofText := by
  have same : (fun piece : List Char => !piece.isEmpty) = fun piece => decide (piece ≠ []) := by
    funext piece
    cases piece <;> rfl
  rw [parse, pieces, same]

/-- Pieces with single slashes between them. -/
def join (parts : List (List Char)) : String := String.ofList (Text.joinWith ['/'] parts)

/-- Pieces are found again between the slashes that join them. -/
theorem pieces_join (all : ∀ piece ∈ parts, IsPiece piece) : pieces (join parts) = parts := by
  rw [pieces, join, String.toList_ofList]
  cases parts with
  | nil => rfl
  | cons piece rest =>
    rw [Text.splitAtChar_joinWith (fun piece member => (all piece member).2) (List.cons_ne_nil _ _)]
    exact List.filter_eq_self.mpr fun piece member => decide_eq_true (all piece member).1

/-- A path is printed as its pieces with single slashes between them. -/
theorem toText_parse (text : String) : (parse text).toText = join (pieces text) := by
  have same : (fun segment => segment.toText.toList) ∘ PathSegment.ofText = id :=
    funext PathSegment.toText_ofText
  rw [toText, segments_parse, List.map_map, same, List.map_id, join]

/-- Two texts are the same path if and only if they have the same pieces. -/
theorem parse_eq_parse_iff : parse first = parse second ↔ pieces first = pieces second := by
  rw [Path.mk.injEq, segments_parse, segments_parse]
  exact List.map_inj_right fun _ _ => PathSegment.ofText_inj

/-- A path is read again from its own text. -/
theorem parse_toText_parse (text : String) : parse (parse text).toText = parse text := by
  rw [parse_eq_parse_iff, toText_parse, pieces_join isPiece_of_mem_pieces]

/-- Pieces with single slashes between them are the text of their path. -/
theorem toText_parse_join (all : ∀ piece ∈ parts, IsPiece piece) :
    (parse (join parts)).toText = join parts := by
  rw [toText_parse, pieces_join all]

/-- A text is a target if its path has a last step, with a name if that is an attribute, and all steps
before it are elements. -/
theorem parseTarget_eq_ok_iff_concat {target : Path} : parseTarget text = .ok target ↔
    target = parse text ∧ ∃ parents last, (parse text).segments = parents ++ [last] ∧
      (∀ segment ∈ parents, segment.isAttribute = false) ∧ last ≠ .attribute "" := by
  rw [parseTarget_eq_ok_iff, and_congr_right_iff]
  rintro rfl
  constructor
  · rintro ⟨nonempty, named, descends⟩
    rw [List.getLast?_eq_some_getLast nonempty] at named
    exact ⟨_, _, (List.dropLast_concat_getLast nonempty).symm, descends, fun same => named (same ▸ rfl)⟩
  · rintro ⟨parents, last, split, elements, named⟩
    rw [split, PathSegment.Descends, List.dropLast_concat, List.getLast?_concat]
    exact ⟨by simp, fun same => named (Option.some.inj same), elements⟩

/-- Elements with a last piece behind them are a target, unless that is the marker on its own. -/
theorem parseTarget_join {last : List Char} (all : ∀ piece ∈ parts ++ [last], IsPiece piece)
    (elements : ∀ piece ∈ parts, (PathSegment.ofText piece).isAttribute = false) (named : last ≠ ['@']) :
    parseTarget (join (parts ++ [last])) = .ok (parse (join (parts ++ [last]))) := by
  rw [parseTarget_eq_ok_iff_concat]
  refine ⟨rfl, parts.map PathSegment.ofText, PathSegment.ofText last, ?_, ?_, fun unnamed => named ?_⟩
  · rw [segments_parse, pieces_join all, List.map_append, List.map_singleton]
  · exact List.forall_mem_map.mpr elements
  · rw [← PathSegment.toText_ofText last, unnamed]
    rfl

end Path

end DerivedFields

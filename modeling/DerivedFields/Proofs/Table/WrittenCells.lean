import Mathlib.Data.List.Forall2
import DerivedFields.Proofs.Text.Enclosed
import DerivedFields.Table.Basic
import DerivedFields.Text.Search

/-!
# Lines written from cells

A cell may always be written between quotes, and as it stands if it has neither a comma nor a quote. A
line of cells with commas between them has exactly these cells, in whichever of the two ways each is
written. What carries the argument is that a cell ends at the end of the line or at a comma that no
quote encloses, so no quote follows the one that closes it.
-/

namespace DerivedFields

/-- How a cell may be written. -/
inductive WritesCell (cell : List Char) : List Char → Prop
  | enclosed : WritesCell cell (Text.enclose '"' cell)
  | bare (noComma : ',' ∉ cell) (noQuote : '"' ∉ cell) : WritesCell cell cell

/-- What may stand behind a cell, and the cells in it: nothing, or a comma and further cells. -/
inductive EndsCell : List Char → List (List Char) → Prop
  | line : EndsCell [] []
  | comma (rest : List Char) : EndsCell (',' :: rest) (cellsFrom false rest)

variable {cell text rest : List Char} {others : List (List Char)}

private theorem EndsCell.cellsFrom_eq (ends : EndsCell rest others) :
    cellsFrom false rest = [] :: others := by
  cases ends with
  | line => rfl
  | comma rest => rfl

/-- The quote in front of the end of a cell closes it. -/
theorem EndsCell.cellsFrom_close (ends : EndsCell rest others) :
    cellsFrom true ('"' :: rest) = [] :: others := by
  cases ends with
  | line => rfl
  | comma rest => rfl

private theorem cellsFrom_bare (ends : EndsCell rest others) (noComma : ',' ∉ cell)
    (noQuote : '"' ∉ cell) :
    cellsFrom false (cell ++ rest) = cell :: others := by
  induction cell with
  | nil => exact ends.cellsFrom_eq
  | cons c cell ih =>
    rw [List.mem_cons, not_or] at noComma noQuote
    have onward := ih noComma.2 noQuote.2
    rw [List.cons_append, cellsFrom, onward]
    · rfl
    · exact Ne.symm noQuote.1
    · exact Ne.symm noComma.1

private theorem cellsFrom_doubled (ends : EndsCell rest others) (cell : List Char) :
    cellsFrom true (Text.doubled '"' cell ++ '"' :: rest) = cell :: others := by
  induction cell with
  | nil => exact ends.cellsFrom_close
  | cons c cell ih =>
    by_cases quote : c = '"'
    · subst quote
      rw [Text.doubled_quote, List.cons_append, List.cons_append, cellsFrom, ih]
      rfl
    · rw [Text.doubled_cons quote, List.cons_append, cellsFrom, ih]
      · rfl
      · exact fun _ same _ => quote same
      · exact quote

/-- However a cell is written, it is read up to its end. -/
theorem WritesCell.cellsFrom_append (written : WritesCell cell text) (ends : EndsCell rest others) :
    cellsFrom false (text ++ rest) = cell :: others := by
  cases written with
  | enclosed =>
    rw [Text.enclose_append, cellsFrom]
    exact cellsFrom_doubled ends cell
  | bare noComma noQuote => exact cellsFrom_bare ends noComma noQuote

private theorem cellsFrom_joinWith {cells texts : List (List Char)}
    (written : List.Forall₂ WritesCell cells texts) (nonempty : cells ≠ []) :
    cellsFrom false (Text.joinWith [','] texts) = cells := by
  induction written with
  | nil => exact absurd rfl nonempty
  | @cons cell text cells texts first others ih =>
    cases others with
    | nil =>
      have alone := first.cellsFrom_append .line
      rwa [List.append_nil] at alone
    | cons second others =>
      have behind := ih (List.cons_ne_nil _ _)
      rw [Text.joinWith, List.append_assoc, List.singleton_append,
        first.cellsFrom_append (.comma _), behind]
      exact List.cons_ne_nil _ _

/-- A line of at least one cell, each written in one of the two ways, has these cells. -/
theorem parseCells_joinWith {cells : List String} {texts : List (List Char)}
    (written : List.Forall₂ (fun cell text => WritesCell cell.toList text) cells texts)
    (nonempty : cells ≠ []) : parseCells (Text.joinWith [','] texts) = cells := by
  have chars : List.Forall₂ WritesCell (cells.map String.toList) texts :=
    List.forall₂_map_left_iff.mpr written
  have some : cells.map String.toList ≠ [] := mt List.map_eq_nil_iff.mp nonempty
  have same : String.ofList ∘ String.toList = id := funext fun _ => String.ofList_toList
  rw [parseCells, cellsFrom_joinWith chars some, List.map_map, same, List.map_id]

/-- Quotes at both ends of a cell, one in front of a comma, and cells that are empty. -/
theorem parseCells_joinWith_quotes :
    let cells := ["", "\",\"", " plain ", "", "a\nb"]
    let texts := ["".toList, "\"\"\",\"\"\"".toList, " plain ".toList, "\"\"".toList, "\"a\nb\"".toList]
    List.Forall₂ (fun cell text => WritesCell cell.toList text) cells texts ∧ cells ≠ [] ∧
      parseCells ",\"\"\",\"\"\", plain ,\"\",\"a\nb\"".toList = cells := by
  intro cells texts
  have written : List.Forall₂ (fun cell text => WritesCell cell.toList text) cells texts :=
    .cons (.bare (by decide) (by decide)) <| .cons .enclosed <|
      .cons (.bare (by decide) (by decide)) <| .cons .enclosed <| .cons .enclosed .nil
  have nonempty : cells ≠ [] := by decide
  exact ⟨written, nonempty, parseCells_joinWith written nonempty⟩

end DerivedFields

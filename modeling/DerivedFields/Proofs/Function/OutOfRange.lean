import DerivedFields.Proofs.Function.Positions
import DerivedFields.Proofs.Function.Searching

/-!
# Positions outside a text

A position outside a text is no fault: it stands for the nearest end, or nothing is found there. So far
as positions are read as those of a text, this goes for integers of any size. The function that puts a
text in reads its position as an integer of 64 bits instead, and fails beyond them.
-/

namespace DerivedFields

/-- A call that fails for values that there are returns nothing for them. -/
theorem Fails.not_returns {name : String} {data : List Datum} {fault : EvalError} {values : List Value}
    (fails : Fails name data fault) (denote : List.Forall₂ Value.Denotes values data)
    (result : Value) : ¬ Returns name data result := by
  rintro ⟨function, found, returned⟩
  obtain ⟨other, same, failed⟩ := fails
  obtain rfl := Option.some.inj (found.symm.trans same)
  let scope : Scope := .ofDocument .standard (.json [])
  let tables : TableCache := .ofSource .empty
  have both := (returned values denote scope tables).symm.trans (failed values denote scope tables)
  cases both

namespace Strings

variable {input search inserted replacement : String} {position count : ℤ}

private theorem fails_insert (beyond : isInt64 position = false) :
    Fails "Insert" [.text input, .integer position, .text inserted]
      (.range (.argumentTooLarge "Insert" 2)) := by
  refine exists_call_of_compute (.exact 3) rfl rfl fun arguments denote called => ?_
  rw [insert, denote.chars_eq 0 rfl, denote.integer_eq_ite 1 rfl, beyond, called]
  rfl

/-- Integers of any size are positions and counts to the functions that replace a range, cut a text out
and search: all of them return. A text is put in at any position of 64 bits, and beyond them that
fails with a fault of its second argument. -/
theorem positions_of_any_size (input search replacement : String) (position count : ℤ) :
    (∃ result, Returns "Replace"
      [.text input, .integer position, .integer count, .text replacement] result) ∧
    (∃ result, Returns "SubString" [.text input, .integer position, .integer count] result) ∧
    (∃ result, Returns "IndexOf" [.text input, .text search, .integer position] result) ∧
    (∃ result, Returns "LastIndexOf" [.text input, .text search, .integer position] result) ∧
    (isInt64 position = true → position ≠ -0x8000000000000000 →
      ∃ result, Returns "Insert" [.text input, .integer position, .text replacement] result) ∧
    (isInt64 position = false →
      Fails "Insert" [.text input, .integer position, .text replacement]
        (.range (.argumentTooLarge "Insert" 2))) := by
  refine ⟨⟨_, returns_replace input replacement position count⟩,
    ⟨_, returns_subString_count input position count⟩,
    ⟨_, returns_indexOf_from input search position⟩,
    ⟨_, returns_lastIndexOf_upTo input search position⟩, fun fits _ => ?_, fails_insert⟩
  exact ⟨_, returns_insert input replacement position fits⟩

/-- The least position beyond 64 bits, and a position before the first. -/
theorem positions_of_any_size_beyond :
    let beyond : ℤ := 0x8000000000000000
    (isInt64 (-5) = true ∧ (-5 : ℤ) ≠ -0x8000000000000000 ∧ isInt64 beyond = false) ∧
      (∃ result, Returns "Replace"
        [.text "a😀b", .integer beyond, .integer (-beyond), .text "x"] result) ∧
      (∃ result, Returns "SubString" [.text "a😀b", .integer beyond, .integer (-beyond)] result) ∧
      (∃ result, Returns "IndexOf" [.text "a😀b", .text "b", .integer beyond] result) ∧
      (∃ result, Returns "LastIndexOf" [.text "a😀b", .text "b", .integer beyond] result) ∧
      (∃ result, Returns "Insert" [.text "a😀b", .integer (-5), .text "x"] result) ∧
      ∃ function, Registry.builtin.get? "Insert" = some function ∧ ∀ scope tables,
        function.call scope [.string "a😀b", .numeric (.ofInt beyond), .string "x"] tables =
          (.error (.range (.argumentTooLarge "Insert" 2)), tables) := by
  intro beyond
  have bounds : isInt64 (-5) = true ∧ (-5 : ℤ) ≠ -0x8000000000000000 ∧ isInt64 beyond = false := by
    decide
  obtain ⟨-, -, -, -, inserted, -⟩ := positions_of_any_size "a😀b" "b" "x" (-5) 0
  obtain ⟨replaced, cut, first, last, -, fails⟩ :=
    positions_of_any_size "a😀b" "b" "x" beyond (-beyond)
  obtain ⟨function, found, failed⟩ := fails bounds.2.2
  have denote : List.Forall₂ Value.Denotes
      [.string "a😀b", .numeric (.ofInt beyond), .string "x"]
      [.text "a😀b", .integer beyond, .text "x"] :=
    .cons rfl (.cons (Value.denotes_integer (by decide)) (.cons rfl .nil))
  exact ⟨bounds, replaced, cut, first, last, inserted bounds.1 bounds.2.1, function, found,
    failed _ denote⟩

/-- A text is not put in at every position that a decimal can hold. -/
theorem not_forall_returns_insert :
    ¬ ∀ (input inserted : String) (position : ℤ), position.natAbs < Decimal.limit →
      position ≠ -0x8000000000000000 →
      ∃ result, Returns "Insert" [.text input, .integer position, .text inserted] result := by
  intro claimed
  let beyond : ℤ := 0x8000000000000000
  have held : beyond.natAbs < Decimal.limit := by decide
  obtain ⟨result, returned⟩ := claimed "abc" "x" beyond held (by decide)
  have denote : List.Forall₂ Value.Denotes
      [.string "abc", .numeric (.ofInt beyond), .string "x"]
      [.text "abc", .integer beyond, .text "x"] :=
    .cons rfl (.cons (Value.denotes_integer held) (.cons rfl .nil))
  exact (fails_insert (by decide)).not_returns denote result returned

end Strings

end DerivedFields

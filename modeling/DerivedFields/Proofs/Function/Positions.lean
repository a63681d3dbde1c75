import DerivedFields.Proofs.Function.Denotation

/-!
# Positions in texts

Four functions take positions: one cuts a text out, one replaces a range, one puts a text in. Each has
its own way to a position outside the text. For positions that are not before the first character all
of them are the characters in front of the position and those from it on, so the functions fit
together.
-/

namespace DerivedFields

/-! ## Texts and offsets -/

namespace Text

variable {position count : ℤ}

private theorem substringFrom_eq_drop (text : List Char) (first : 1 ≤ position) :
    substringFrom text position = text.drop (position - 1).toNat := by
  rw [substringFrom]
  split
  · next outside => exact (List.drop_eq_nil_of_le (by omega)).symm
  · rfl

/-- A position that is not within 64 bits is behind the end of any text but one as long as that. -/
theorem substringFrom_saturated (text : List Char) (first : 1 ≤ position)
    (reachable : position ≤ 0x7fffffffffffffff ∨ text.length < 0x7fffffffffffffff) :
    substringFrom text (saturated position) = text.drop (position - 1).toNat := by
  rw [saturated, substringFrom_eq_drop text (by omega), List.drop_eq_drop_iff]
  rcases reachable with fits | short <;> omega

/-- A range ends at the end of the text if it goes beyond, and one beyond the text is empty. -/
theorem replaceRange_eq_append (text replacement : List Char) (position count : ℤ) :
    replaceRange text position count replacement =
      text.take (max position 1 - 1).toNat ++ replacement ++
        text.drop ((max position 1 - 1).toNat + count.toNat) := by
  rw [replaceRange, ← List.take_eq_take_min]
  congr 1
  exact List.drop_eq_drop_iff.mpr (by omega)

private theorem replaceRange_of_first (text replacement : List Char) (first : 1 ≤ position)
    (counted : 0 ≤ count) : replaceRange text position count replacement =
      text.take (position - 1).toNat ++ replacement ++ text.drop (position + count - 1).toNat := by
  have stop : (position - 1).toNat + count.toNat = (position + count - 1).toNat := by omega
  rw [replaceRange_eq_append, max_eq_left first, stop]

/-- Replacing nothing is putting in, at the start of the text if the position is before it. -/
theorem replaceRange_zero (text replacement : List Char) (position : ℤ) :
    replaceRange text position 0 replacement = insertAt (position - 1) replacement text := by
  have start : (max position 1 - 1).toNat = (position - 1).toNat := by omega
  rw [replaceRange_eq_append, start, Int.toNat_zero, Nat.add_zero, insertAt]

end Text

/-! ## What the functions return -/

namespace Strings

variable (input replacement : String) (position count : ℤ)

private theorem returns_subString_from :
    Returns "SubString" [.text input, .integer position]
      (text (Text.substringFrom input.toList (saturated position))) := by
  refine returns_of_compute (.range 2 3) rfl rfl fun arguments denote => ?_
  have few : arguments.count ≤ 2 := denote.count_eq.le
  rw [subString, denote.chars_eq 0 rfl, denote.index_eq 1 rfl]
  change (if _ || decide (arguments.count ≤ 2) then _ else _) = _
  rw [decide_eq_true few, Bool.or_true, if_pos rfl]

theorem returns_subString_count :
    Returns "SubString" [.text input, .integer position, .integer count]
      (text ((Text.substringFrom input.toList (saturated position)).take (saturated count).toNat)) := by
  refine returns_of_compute (.range 2 3) rfl rfl fun arguments denote => ?_
  have three : arguments.count = 3 := denote.count_eq
  rw [subString, denote.chars_eq 0 rfl, denote.index_eq 1 rfl, denote.index_eq 2 rfl, three]
  change (if (Text.substringFrom input.toList (saturated position)).isEmpty || false then _ else _) = _
  rw [Bool.or_false]
  split
  · next none => rw [List.isEmpty_iff.mp none, List.take_nil]
  · rfl

theorem returns_replace :
    Returns "Replace" [.text input, .integer position, .integer count, .text replacement]
      (text (Text.replaceRange input.toList (saturated position) (saturated count)
        replacement.toList)) := by
  refine returns_of_compute (.range 3 4) rfl rfl fun arguments denote => ?_
  have four : arguments.count = 4 := denote.count_eq
  rw [replace, denote.chars_eq 0 rfl, denote.index_eq 1 rfl, denote.index_eq 2 rfl,
    denote.chars_eq 3 rfl, four]
  rfl

/-- A text is put in behind the position before its own. In front of the least position of 64 bits there is
none of 64 bits, so there this goes beyond what those can compute; the theorems on the function leave
that position out. -/
theorem returns_insert (fits : isInt64 position = true) :
    Returns "Insert" [.text input, .integer position, .text replacement]
      (text (Text.insertAt (position - 1) replacement.toList input.toList)) := by
  refine returns_of_compute (.exact 3) rfl rfl fun arguments denote => ?_
  rw [insert, denote.chars_eq 0 rfl, denote.integer_eq 1 rfl fits, denote.chars_eq 2 rfl]
  rfl

/-! ## How they fit together -/

/-- The characters before a position, as many as counted from it on, and those behind them make up the
text, and replacing a range leaves the first and the last of them. Putting a text in is replacing no
characters, also at positions before the first and behind the last. The end of a range need not be a
position of 64 bits, as long as the text ends before it. -/
theorem positions_fit (input replacement : String) :
    (∀ position count : ℤ, 1 ≤ position → 0 ≤ count → isInt64 position = true →
      isInt64 count = true →
      position + count ≤ 0x7fffffffffffffff ∨ input.length < 0x7fffffffffffffff →
      let before := input.toList.take (position - 1).toNat
      let within := (input.toList.drop (position - 1).toNat).take count.toNat
      let behind := input.toList.drop (position + count - 1).toNat
      Returns "SubString" [.text input, .integer 1, .integer (position - 1)] (text before) ∧
        Returns "SubString" [.text input, .integer position, .integer count] (text within) ∧
        Returns "SubString" [.text input, .integer (position + count)] (text behind) ∧
        before ++ within ++ behind = input.toList ∧
        Returns "Replace" [.text input, .integer position, .integer count, .text replacement]
          (text (before ++ replacement.toList ++ behind))) ∧
    ∀ position : ℤ, isInt64 position = true → position ≠ -0x8000000000000000 →
      ∃ result, Returns "Insert" [.text input, .integer position, .text replacement] result ∧
        Returns "Replace" [.text input, .integer position, .integer 0, .text replacement] result := by
  refine ⟨fun position count first counted fits countFits reachable => ?_, fun position fits _ => ?_⟩
  · have one : saturated 1 = 1 := saturated_of_isInt64 rfl
    have kept := saturated_of_isInt64 fits
    have keptCount := saturated_of_isInt64 countFits
    have last : saturated (position - 1) = position - 1 := by
      rw [saturated] at kept ⊢
      omega
    have start := returns_subString_count input 1 (position - 1)
    have middle := returns_subString_count input position count
    have rest := returns_subString_from input (position + count)
    have replaced := returns_replace input replacement position count
    rw [one, last, Text.substringFrom_eq_drop _ le_rfl] at start
    rw [kept, keptCount, Text.substringFrom_eq_drop _ first] at middle
    rw [Text.substringFrom_saturated _ (by omega) reachable] at rest
    rw [kept, keptCount, Text.replaceRange_of_first _ _ first counted] at replaced
    refine ⟨start, middle, rest, ?_, replaced⟩
    have joined : (position + count - 1).toNat = (position - 1).toNat + count.toNat := by omega
    rw [joined, ← List.drop_drop, List.append_assoc, List.take_append_drop, List.take_append_drop]
  · have replaced := returns_replace input replacement position 0
    have zero : saturated 0 = 0 := saturated_of_isInt64 rfl
    rw [saturated_of_isInt64 fits, zero, Text.replaceRange_zero] at replaced
    exact ⟨_, returns_insert input replacement position fits, replaced⟩

/-- A range whose end is beyond 64 bits, and a position before the first. -/
theorem positions_fit_outside :
    let greatest : ℤ := 0x7fffffffffffffff
    (isInt64 2 = true ∧ isInt64 greatest = true ∧ "a😀b".length < 0x7fffffffffffffff ∧
        isInt64 (-5) = true) ∧
      Returns "SubString" [.text "a😀b", .integer 2, .integer greatest] (.string "😀b") ∧
      Returns "SubString" [.text "a😀b", .integer (2 + greatest)] (.string "") ∧
      Returns "Replace" [.text "a😀b", .integer 2, .integer greatest, .text "-"] (.string "a-") ∧
      (∃ function, Registry.builtin.get? "SubString" = some function ∧ ∀ scope tables,
        function.call scope [.string "a😀b", .numeric (.ofInt 2), .numeric (.ofInt greatest)] tables =
          (.ok (.string "😀b"), tables)) ∧
      ∃ result, Returns "Insert" [.text "a😀b", .integer (-5), .text "-"] result ∧
        Returns "Replace" [.text "a😀b", .integer (-5), .integer 0, .text "-"] result := by
  intro greatest
  have bounds : isInt64 2 = true ∧ isInt64 greatest = true ∧
      "a😀b".length < 0x7fffffffffffffff ∧ isInt64 (-5) = true := by decide
  obtain ⟨ranges, inserts⟩ := positions_fit "a😀b" "-"
  obtain ⟨-, within, behind, -, replaced⟩ := ranges 2 greatest (by decide) (by decide) bounds.1
    bounds.2.1 (.inr bounds.2.2.1)
  refine ⟨bounds, within, behind, replaced, ?_, inserts (-5) bounds.2.2.2 (by decide)⟩
  obtain ⟨function, found, called⟩ := within
  have denote : List.Forall₂ Value.Denotes
      [.string "a😀b", .numeric (.ofInt 2), .numeric (.ofInt greatest)]
      [.text "a😀b", .integer 2, .integer greatest] :=
    .cons rfl (.cons (Value.denotes_integer (by decide))
      (.cons (Value.denotes_integer (by decide)) .nil))
  exact ⟨function, found, called _ denote⟩

end Strings

end DerivedFields

import DerivedFields.Proofs.Function.Denotation
import DerivedFields.Proofs.Text.Occurrences

/-!
# Searching texts

Two functions search for a text, from a start on and backward up to a start, and return the position
at which it occurs. Two others cut a text at the first occurrence of a separator. What they find are the
occurrences of the one text in the other, counted in characters.
-/

namespace DerivedFields

/-! ## Starts beyond 64 bits -/

namespace Text

variable {pattern text : List Char} {start : ℤ}

/-- A start that is not within 64 bits is behind the end of any shorter text, or in front of it. -/
theorem occurrencesBehind_saturated
    (reachable : isInt64 start = true ∨ text.length < 0x7fffffffffffffff) :
    occurrencesBehind pattern text (saturated start) = occurrencesBehind pattern text start := by
  rcases reachable with fits | short
  · rw [saturated_of_isInt64 fits]
  · ext position
    refine and_congr_right fun occurs => ?_
    have bound := occurs.2.1
    rw [saturated]
    omega

private theorem occurrencesUpTo_saturated
    (reachable : isInt64 start = true ∨ text.length < 0x7fffffffffffffff) :
    occurrencesUpTo pattern text (saturated start) = occurrencesUpTo pattern text start := by
  rcases reachable with fits | short
  · rw [saturated_of_isInt64 fits]
  · ext position
    refine and_congr_right fun occurs => ?_
    have first := occurs.1
    rw [saturated]
    omega

end Text

/-! ## What the functions return -/

namespace Strings

open Text (OccursAt IsFirstBehind IsLastUpTo positionOf)

variable (input search : String) (start : ℤ)

private theorem position_eq (found : Option ℕ) :
    position found = .numeric (.ofInt (positionOf found)) := by
  cases found <;> rfl

theorem returns_indexOf_from :
    Returns "IndexOf" [.text input, .text search, .integer start]
      (position (Text.firstFrom? search.toList input.toList (saturated start).toNat)) := by
  refine returns_of_compute (.range 2 3) rfl rfl fun arguments denote => ?_
  have three : arguments.count = 3 := denote.count_eq
  rw [indexOf, denote.chars_eq 0 rfl, denote.chars_eq 1 rfl, denote.index_eq 2 rfl, three]
  rfl

private theorem returns_indexOf :
    Returns "IndexOf" [.text input, .text search]
      (position (Text.firstFrom? search.toList input.toList (0 : ℤ).toNat)) := by
  refine returns_of_compute (.range 2 3) rfl rfl fun arguments denote => ?_
  have two : arguments.count = 2 := denote.count_eq
  rw [indexOf, denote.chars_eq 0 rfl, denote.chars_eq 1 rfl, two]
  rfl

theorem returns_lastIndexOf_upTo :
    Returns "LastIndexOf" [.text input, .text search, .integer start]
      (position (if min (saturated start) input.toList.length < 1 then none
        else Text.lastUpTo? search.toList input.toList
          (min (saturated start) input.toList.length - 1).toNat)) := by
  refine returns_of_compute (.range 2 3) rfl rfl fun arguments denote => ?_
  have three : arguments.count = 3 := denote.count_eq
  rw [lastIndexOf, denote.chars_eq 0 rfl, denote.chars_eq 1 rfl, denote.index_eq 2 rfl, three]
  rfl

private theorem returns_lastIndexOf :
    Returns "LastIndexOf" [.text input, .text search]
      (position (if min (input.toList.length : ℤ) input.toList.length < 1 then none
        else Text.lastUpTo? search.toList input.toList
          (min (input.toList.length : ℤ) input.toList.length - 1).toNat)) := by
  refine returns_of_compute (.range 2 3) rfl rfl fun arguments denote => ?_
  have two : arguments.count = 2 := denote.count_eq
  rw [lastIndexOf, denote.chars_eq 0 rfl, denote.chars_eq 1 rfl, two]
  rfl

private theorem returns_subStringBefore (separator : String) :
    Returns "SubStringBefore" [.text input, .text separator]
      (text (Text.before separator.toList input.toList)) := by
  refine returns_of_compute (.exact 2) rfl rfl fun arguments denote => ?_
  rw [subStringBefore, denote.chars_eq 0 rfl, denote.chars_eq 1 rfl]
  rfl

private theorem returns_subStringAfter (separator : String) :
    Returns "SubStringAfter" [.text input, .text separator]
      (text (Text.after separator.toList input.toList)) := by
  refine returns_of_compute (.exact 2) rfl rfl fun arguments denote => ?_
  rw [subStringAfter, denote.chars_eq 0 rfl, denote.chars_eq 1 rfl]
  rfl

/-! ## What they find -/

private theorem exists_firstBehind
    (reachable : isInt64 start = true ∨ input.length < 0x7fffffffffffffff) :
    ∃ result, IsFirstBehind search.toList input.toList start result ∧
      Returns "IndexOf" [.text input, .text search, .integer start] (.numeric (.ofInt result)) := by
  have found := Text.isFirstBehind_firstFrom? search.toList input.toList (saturated start)
  have returned := returns_indexOf_from input search start
  rw [IsFirstBehind, Text.occurrencesBehind_saturated (by rwa [String.length_toList])] at found
  rw [position_eq] at returned
  exact ⟨_, found, returned⟩

private theorem exists_lastUpTo
    (reachable : isInt64 start = true ∨ input.length < 0x7fffffffffffffff) :
    ∃ result, IsLastUpTo search.toList input.toList start result ∧
      Returns "LastIndexOf" [.text input, .text search, .integer start]
        (.numeric (.ofInt result)) := by
  have found := Text.isLastUpTo_lastUpTo? search.toList input.toList (saturated start)
  have returned := returns_lastIndexOf_upTo input search start
  rw [IsLastUpTo, Text.occurrencesUpTo_saturated (by rwa [String.length_toList])] at found
  rw [position_eq] at returned
  exact ⟨_, found, returned⟩

variable {input search start}

private theorem returns_of_isFirstBehind (short : input.length < 0x7fffffffffffffff) {result : ℤ}
    (first : IsFirstBehind search.toList input.toList start result) :
    Returns "IndexOf" [.text input, .text search, .integer start] (.numeric (.ofInt result)) := by
  obtain ⟨found, isFirst, returned⟩ := exists_firstBehind input search start (.inr short)
  rwa [first.unique isFirst]

/-- Both searches are exact: one finds the least occurrence behind a start, which is in front of the
text if none is given, the other the greatest up to a start, which is then the last character. Each
result taken as the next start, the first search lists every occurrence in order and ends with −1. A
start beyond 64 bits is taken for the nearest one, which is as far for any text shorter than that. -/
theorem searches_exact (input search : String) :
    (∀ start : ℤ, isInt64 start = true ∨ input.length < 0x7fffffffffffffff →
      (∃ result, IsFirstBehind search.toList input.toList start result ∧
        Returns "IndexOf" [.text input, .text search, .integer start] (.numeric (.ofInt result))) ∧
      ∃ result, IsLastUpTo search.toList input.toList start result ∧
        Returns "LastIndexOf" [.text input, .text search, .integer start]
          (.numeric (.ofInt result))) ∧
    (∃ result, IsFirstBehind search.toList input.toList 0 result ∧
      Returns "IndexOf" [.text input, .text search] (.numeric (.ofInt result))) ∧
    (∃ result, IsLastUpTo search.toList input.toList input.length result ∧
      Returns "LastIndexOf" [.text input, .text search] (.numeric (.ofInt result))) ∧
    (input.length < 0x7fffffffffffffff → ∃ positions : List ℤ, positions.Pairwise (· < ·) ∧
      (∀ position, position ∈ positions ↔ OccursAt search.toList input.toList position) ∧
      List.IsChain (fun start result =>
          Returns "IndexOf" [.text input, .text search, .integer start] (.numeric (.ofInt result)))
        (0 :: (positions ++ [-1]))) := by
  refine ⟨fun start reachable => ⟨?_, ?_⟩, ?_, ?_, ?_⟩
  · exact exists_firstBehind input search start reachable
  · exact exists_lastUpTo input search start reachable
  · have returned := returns_indexOf input search
    rw [position_eq] at returned
    exact ⟨_, Text.isFirstBehind_firstFrom? _ _ 0, returned⟩
  · have returned := returns_lastIndexOf input search
    rw [position_eq] at returned
    exact ⟨_, String.length_toList ▸ Text.isLastUpTo_lastUpTo? _ _ _, returned⟩
  · intro short
    obtain ⟨positions, increasing, all, chain⟩ :=
      Text.exists_occurrences search.toList input.toList
    exact ⟨positions, increasing, all, chain.imp fun _ _ => returns_of_isFirstBehind short⟩

/-- Overlapping occurrences of a pair of characters, and a start beyond all texts. -/
theorem searches_exact_overlapping :
    let beyond : ℤ := 0x10000000000000000
    (isInt64 2 = true ∧ "😀😀😀".length < 0x7fffffffffffffff) ∧
      Returns "IndexOf" [.text "😀😀😀", .text "😀😀", .integer 2] (.numeric (.ofInt (-1))) ∧
      Returns "LastIndexOf" [.text "😀😀😀", .text "😀😀", .integer beyond] (.numeric (.ofInt 2)) ∧
      List.IsChain (fun start result =>
          Returns "IndexOf" [.text "😀😀😀", .text "😀😀", .integer start] (.numeric (.ofInt result)))
        [0, 1, 2, -1] := by
  intro beyond
  have bounds : isInt64 2 = true ∧ "😀😀😀".length < 0x7fffffffffffffff := by decide
  obtain ⟨searches, -, -, listing⟩ := searches_exact "😀😀😀" "😀😀"
  obtain ⟨⟨first, isFirst, returnedFirst⟩, -⟩ := searches 2 (.inl bounds.1)
  obtain ⟨-, last, isLast, returnedLast⟩ := searches beyond (.inr bounds.2)
  obtain ⟨positions, increasing, all, chain⟩ := listing bounds.2
  have twice (position : ℤ) : OccursAt "😀😀".toList "😀😀😀".toList position ↔
      position ∈ [1, 2] := by
    constructor
    · intro occurs
      have first := occurs.1
      have last : position ≤ 4 := occurs.2.1
      interval_cases position <;> revert occurs <;> decide
    · intro listed
      fin_cases listed <;> decide
  obtain rfl : first = -1 := by
    rcases isFirst with ⟨⟨occurs, behind⟩, -⟩ | ⟨-, none⟩
    · have bound := (twice first).mp occurs
      fin_cases bound <;> exact absurd behind (by decide)
    · exact none
  obtain rfl : last = 2 := by
    have second : (2 : ℤ) ∈ Text.occurrencesUpTo "😀😀".toList "😀😀😀".toList beyond :=
      ⟨(twice 2).mpr (by decide), by decide⟩
    rcases isLast with ⟨⟨occurs, -⟩, greatest⟩ | ⟨none, -⟩
    · have bound := (twice last).mp occurs
      have least := greatest second
      fin_cases bound
      · exact absurd least (by decide)
      · rfl
    · exact absurd second (none ▸ Set.notMem_empty 2)
  obtain rfl : positions = [1, 2] :=
    increasing.eq_of_mem_iff (by decide) fun position => (all position).trans (twice position)
  exact ⟨bounds, returnedFirst, returnedLast, chain⟩

/-! ## Cutting at a separator -/

/-- If a separator occurs in a text, it stands between what is before and what is behind it, and nothing
in front of that is an occurrence: the part before it is the shortest that a separator follows. If it
does not occur, both parts are the whole text. -/
theorem separator_splits (input separator : String) :
    ((∃ position, OccursAt separator.toList input.toList position) →
      ∃ before after : String,
        Returns "SubStringBefore" [.text input, .text separator] (.string before) ∧
        Returns "SubStringAfter" [.text input, .text separator] (.string after) ∧
        before ++ separator ++ after = input ∧
        IsLeast {position | OccursAt separator.toList input.toList position} (before.length + 1) ∧
        ∀ front rest : String, front ++ separator ++ rest = input →
          before.length ≤ front.length) ∧
    ((∀ position, ¬ OccursAt separator.toList input.toList position) →
      Returns "SubStringBefore" [.text input, .text separator] (.string input) ∧
        Returns "SubStringAfter" [.text input, .text separator] (.string input)) := by
  have first := returns_subStringBefore input separator
  have second := returns_subStringAfter input separator
  constructor
  · rintro ⟨position, occurs⟩
    obtain ⟨joined, least⟩ := Text.before_append_after _ _ occurs
    refine ⟨_, _, first, second, ?_, ?_, fun front rest same => ?_⟩
    · rw [← String.toList_inj, String.toList_append, String.toList_append, String.toList_ofList,
        String.toList_ofList, joined]
    · rwa [String.length_ofList]
    · have whole : front.toList ++ (separator.toList ++ rest.toList) = input.toList := by
        rw [← same, String.toList_append, String.toList_append, List.append_assoc]
      have elsewhere : OccursAt separator.toList input.toList (front.toList.length + 1) := by
        rw [Text.occursAt_add_one, ← whole, List.drop_left, List.length_append]
        exact ⟨Nat.le_add_right _ _, List.prefix_append _ _⟩
      have earlier := least.2 elsewhere
      rw [String.length_ofList, ← String.length_toList]
      omega
  · intro absent
    obtain ⟨same, alike⟩ := Text.before_after_of_absent _ _ absent
    rw [same, text, String.ofList_toList] at first
    rw [alike, text, String.ofList_toList] at second
    exact ⟨first, second⟩

/-- A separator that overlaps with itself, and one that does not occur. -/
theorem separator_splits_overlapping :
    (∃ position, OccursAt "éé".toList "aéééb".toList position) ∧
      (∀ position, ¬ OccursAt "bb".toList "aéééb".toList position) ∧
      Returns "SubStringBefore" [.text "aéééb", .text "éé"] (.string "a") ∧
      Returns "SubStringAfter" [.text "aéééb", .text "éé"] (.string "éb") ∧
      Returns "SubStringBefore" [.text "aéééb", .text "bb"] (.string "aéééb") ∧
      Returns "SubStringAfter" [.text "aéééb", .text "bb"] (.string "aéééb") := by
  have second : OccursAt "éé".toList "aéééb".toList 2 := by decide
  have absent : ∀ position, ¬ OccursAt "bb".toList "aéééb".toList position :=
    Text.cutFirst?_eq_none_iff.mp (by decide)
  obtain ⟨before, after, returnedBefore, returnedAfter, joined, least, -⟩ :=
    (separator_splits "aéééb" "éé").1 ⟨2, second⟩
  have whole : before.toList ++ ("éé".toList ++ after.toList) =
      "a".toList ++ ("éé".toList ++ "éb".toList) := by
    rw [← List.append_assoc, ← String.toList_append, ← String.toList_append, joined]
    rfl
  have size : before.toList.length = 1 := by
    have earliest := least.2 second
    rw [String.length_toList]
    by_contra other
    have empty : before.length = 0 := by omega
    exact absurd (empty ▸ least.1) (by decide)
  obtain ⟨front, rest⟩ := List.append_inj whole size
  obtain rfl := String.toList_inj.mp front
  obtain rfl := String.toList_inj.mp (List.append_cancel_left rest)
  obtain ⟨wholeBefore, wholeAfter⟩ := (separator_splits "aéééb" "bb").2 absent
  exact ⟨⟨2, second⟩, absent, returnedBefore, returnedAfter, wholeBefore, wholeAfter⟩

end Strings

end DerivedFields

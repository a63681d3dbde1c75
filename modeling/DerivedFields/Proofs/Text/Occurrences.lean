import Mathlib.Data.Finset.Sort
import Mathlib.Data.Int.Interval
import DerivedFields.Text.Position

/-!
# Occurrences of one text in another

A text occurs at a position, counted from one, if what is left without the characters in front of it
begins with that text. Occurrences may overlap, and the empty text occurs everywhere, also behind the
last character. A search forward is for the least occurrence behind a start, a search backward for the
greatest up to a start. Searching forward from each result again lists all occurrences.
-/

namespace DerivedFields.Text

/-- Without the characters in front of a position the text begins with the pattern. -/
def OccursAt (pattern text : List Char) (position : ℤ) : Prop :=
  1 ≤ position ∧ position ≤ text.length + 1 ∧ pattern <+: text.drop (position - 1).toNat

instance (pattern text : List Char) : DecidablePred (OccursAt pattern text) :=
  fun _ => inferInstanceAs (Decidable (_ ∧ _ ∧ _))

/-- The occurrences behind a start; one below zero is in front of the text. -/
def occurrencesBehind (pattern text : List Char) (start : ℤ) : Set ℤ :=
  {position | OccursAt pattern text position ∧ max start 0 < position}

/-- The occurrences up to a start that begin with a character of the text. -/
def occurrencesUpTo (pattern text : List Char) (start : ℤ) : Set ℤ :=
  {position | OccursAt pattern text position ∧ position ≤ min start text.length}

/-- The least occurrence behind a start, or −1 if there is none. -/
def IsFirstBehind (pattern text : List Char) (start result : ℤ) : Prop :=
  IsLeast (occurrencesBehind pattern text start) result ∨
    occurrencesBehind pattern text start = ∅ ∧ result = -1

/-- The greatest occurrence up to a start, or −1 if there is none. -/
def IsLastUpTo (pattern text : List Char) (start result : ℤ) : Prop :=
  IsGreatest (occurrencesUpTo pattern text start) result ∨
    occurrencesUpTo pattern text start = ∅ ∧ result = -1

/-- A position for an offset, and −1 for none. -/
def positionOf (found : Option ℕ) : ℤ := found.elim (-1) fun offset => offset + 1

variable {pattern text front rest : List Char} {position start : ℤ} {offset : ℕ}

theorem occursAt_add_one :
    OccursAt pattern text (offset + 1) ↔ offset ≤ text.length ∧ pattern <+: text.drop offset := by
  have same : ((offset : ℤ) + 1 - 1).toNat = offset := by omega
  rw [OccursAt, same]
  constructor
  · rintro ⟨-, bound, begins⟩
    exact ⟨by omega, begins⟩
  · rintro ⟨bound, begins⟩
    exact ⟨by omega, by omega, begins⟩

private theorem OccursAt.exists_offset (occurs : OccursAt pattern text position) :
    ∃ offset : ℕ, position = offset + 1 ∧ pattern <+: text.drop offset := by
  obtain ⟨first, -, begins⟩ := occurs
  exact ⟨(position - 1).toNat, by omega, begins⟩

/-- Where a text occurs behind the first characters, it occurs so much later in the whole. -/
theorem occursAt_drop {count : ℕ} (inside : count ≤ text.length) :
    OccursAt pattern (text.drop count) position ↔
      1 ≤ position ∧ OccursAt pattern text (position + count) := by
  rw [OccursAt, OccursAt, List.length_drop, List.drop_drop]
  constructor
  · rintro ⟨first, bound, begins⟩
    have same : count + (position - 1).toNat = (position + count - 1).toNat := by omega
    exact ⟨first, by omega, by omega, same ▸ begins⟩
  · rintro ⟨first, -, bound, begins⟩
    have same : (position + count - 1).toNat = count + (position - 1).toNat := by omega
    exact ⟨first, by omega, same ▸ begins⟩

/-! ## The first occurrence -/

private theorem dropPrefix?_eq_some_iff :
    dropPrefix? pattern text = some rest ↔ text = pattern ++ rest := by
  refine ⟨dropPrefix?_eq_some, ?_⟩
  rintro rfl
  induction pattern with
  | nil => rfl
  | cons c pattern ih => rw [List.cons_append, dropPrefix?, if_pos rfl, ih]

theorem dropPrefix?_eq_none_iff : dropPrefix? pattern text = none ↔ ¬ pattern <+: text := by
  rw [Option.eq_none_iff_forall_ne_some]
  constructor
  · rintro differs ⟨rest, same⟩
    exact differs rest (dropPrefix?_eq_some_iff.mpr same.symm)
  · intro differs rest found
    exact differs ⟨rest, (dropPrefix?_eq_some found).symm⟩

/-- Wherever the pattern occurs, the text is cut there or earlier. -/
theorem exists_cutFirst? (begins : pattern <+: text.drop offset) :
    ∃ front rest, cutFirst? pattern text = some (front, rest) ∧ front.length ≤ offset := by
  induction text generalizing offset with
  | nil =>
    rw [List.drop_nil, List.prefix_nil] at begins
    exact ⟨[], [], by rw [begins]; rfl, Nat.zero_le _⟩
  | cons c text ih =>
    rw [cutFirst?]
    cases here : dropPrefix? pattern (c :: text) with
    | some rest => exact ⟨[], rest, rfl, Nat.zero_le _⟩
    | none =>
      cases offset with
      | zero => exact absurd begins (dropPrefix?_eq_none_iff.mp here)
      | succ offset =>
        obtain ⟨front, rest, found, earlier⟩ := ih begins
        exact ⟨c :: front, rest, by rw [found]; rfl, Nat.succ_le_succ earlier⟩

private theorem isLeast_cutFirst? (found : cutFirst? pattern text = some (front, rest)) :
    IsLeast {position | OccursAt pattern text position} (front.length + 1) := by
  have whole := cutFirst?_eq_some found
  refine ⟨occursAt_add_one.mpr ⟨?_, ?_⟩, fun position occurs => ?_⟩
  · rw [whole, List.append_assoc, List.length_append]
    omega
  · rw [whole, List.append_assoc, List.drop_left]
    exact List.prefix_append pattern rest
  · obtain ⟨offset, rfl, begins⟩ := occurs.exists_offset
    obtain ⟨first, second, same, earlier⟩ := exists_cutFirst? begins
    obtain ⟨rfl, rfl⟩ := Prod.mk.inj (Option.some.inj (found.symm.trans same))
    omega

theorem cutFirst?_eq_none_iff :
    cutFirst? pattern text = none ↔ ∀ position, ¬ OccursAt pattern text position := by
  constructor
  · intro absent position occurs
    obtain ⟨offset, -, begins⟩ := occurs.exists_offset
    obtain ⟨front, rest, found, -⟩ := exists_cutFirst? begins
    rw [absent] at found
    cases found
  · intro absent
    cases cut : cutFirst? pattern text with
    | none => rfl
    | some parts => exact absurd (isLeast_cutFirst? cut).1 (absent _)

/-- A text is cut at the first occurrence of a separator. -/
theorem before_append_after (separator text : List Char) {position : ℤ}
    (occurs : OccursAt separator text position) :
    before separator text ++ separator ++ after separator text = text ∧
      IsLeast {position | OccursAt separator text position} ((before separator text).length + 1) := by
  rw [before, after]
  cases found : cutFirst? separator text with
  | none => exact absurd occurs (cutFirst?_eq_none_iff.mp found position)
  | some parts => exact ⟨(cutFirst?_eq_some found).symm, isLeast_cutFirst? found⟩

theorem before_after_of_absent (separator text : List Char)
    (absent : ∀ position, ¬ OccursAt separator text position) :
    before separator text = text ∧ after separator text = text := by
  rw [before, after, cutFirst?_eq_none_iff.mpr absent]
  exact ⟨rfl, rfl⟩

/-! ## Replacing -/

/-- Nothing comes into a text by replacement but what is put there. -/
theorem mem_replaceFrom {pattern replacement chars : List Char} {c : Char} (skip : ℕ)
    (member : c ∈ replaceFrom pattern replacement skip chars) : c ∈ replacement ∨ c ∈ chars := by
  fun_induction replaceFrom pattern replacement skip chars with
  | case1 skip => exact .inr member
  | case2 skip first chars ih => exact (ih member).imp_right (List.mem_cons_of_mem _)
  | case3 first chars here ih =>
    rcases List.mem_append.mp member with inside | behind
    · exact .inl inside
    · exact (ih behind).imp_right (List.mem_cons_of_mem _)
  | case4 first chars other ih =>
    rcases List.mem_cons.mp member with rfl | behind
    · exact .inr List.mem_cons_self
    · exact (ih behind).imp_right (List.mem_cons_of_mem _)

private theorem replaceFrom_eq_drop (pattern replacement : List Char) (skip : ℕ) (text : List Char) :
    replaceFrom pattern replacement skip text =
      replaceFrom pattern replacement 0 (text.drop skip) := by
  induction text generalizing skip with
  | nil => rw [List.drop_nil, replaceFrom, replaceFrom]
  | cons c text ih =>
    cases skip with
    | zero => rfl
    | succ skip => rw [replaceFrom, List.drop_succ_cons, ih]

/-- An occurrence at the start is replaced, and what follows it is looked at next. -/
theorem replaceAll_append {c : Char} (pattern replacement text : List Char) :
    replaceAll (c :: pattern) replacement (c :: pattern ++ text) =
      replacement ++ replaceAll (c :: pattern) replacement text := by
  have begins : dropPrefix? (c :: pattern) (c :: pattern ++ text) = some text :=
    dropPrefix?_eq_some_iff.mpr rfl
  have length : (c :: pattern).length - 1 = pattern.length := rfl
  rw [List.cons_append] at begins ⊢
  rw [replaceAll, replaceFrom, begins, Option.isSome_some, if_pos rfl, length, replaceFrom_eq_drop,
    List.drop_left]
  rfl

theorem replaceAll_cons {c d : Char} {pattern replacement text : List Char}
    (differs : ¬ c :: pattern <+: d :: text) :
    replaceAll (c :: pattern) replacement (d :: text) =
      d :: replaceAll (c :: pattern) replacement text := by
  rw [replaceAll, replaceFrom, dropPrefix?_eq_none_iff.mpr differs, Option.isSome_none,
    if_neg Bool.false_ne_true]
  rfl

/-! ## Searching from a start -/

private theorem IsFirstBehind.of_absent
    (absent : ∀ position, OccursAt pattern text position → position ≤ max start 0) :
    IsFirstBehind pattern text start (-1) := by
  refine .inr ⟨Set.eq_empty_of_forall_notMem ?_, rfl⟩
  rintro position ⟨occurs, behind⟩
  exact (absent position occurs).not_gt behind

private theorem IsLastUpTo.of_absent
    (absent : ∀ position, OccursAt pattern text position → min start text.length < position) :
    IsLastUpTo pattern text start (-1) := by
  refine .inr ⟨Set.eq_empty_of_forall_notMem ?_, rfl⟩
  rintro position ⟨occurs, within⟩
  exact (absent position occurs).not_ge within

theorem isFirstBehind_firstFrom? (pattern text : List Char) (start : ℤ) :
    IsFirstBehind pattern text start (positionOf (firstFrom? pattern text start.toNat)) := by
  rw [firstFrom?]
  split
  · next outside =>
    refine .of_absent fun position occurs => ?_
    have bound := occurs.2.1
    omega
  · next inside =>
    -- What is searched is the rest behind the start, in which an occurrence has a lower position.
    have moved {position : ℤ} (occurs : OccursAt pattern text position)
        (behind : max start 0 < position) :
        OccursAt pattern (text.drop start.toNat) (position - start.toNat) := by
      rw [occursAt_drop (by omega), sub_add_cancel]
      exact ⟨by omega, occurs⟩
    rw [indexOf?]
    cases found : cutFirst? pattern (text.drop start.toNat) with
    | none =>
      refine .of_absent fun position occurs => ?_
      by_contra behind
      exact cutFirst?_eq_none_iff.mp found _ (moved occurs (by omega))
    | some parts =>
      have least := isLeast_cutFirst? found
      have same : positionOf (some (start.toNat + parts.1.length)) =
          parts.1.length + 1 + start.toNat := by
        rw [positionOf, Option.elim_some]
        omega
      refine .inl (same ▸ ⟨⟨((occursAt_drop (by omega)).mp least.1).2, by omega⟩, ?_⟩)
      rintro position ⟨occurs, behind⟩
      have earliest := least.2 (moved occurs behind)
      omega

private theorem lastUpTo?_eq_none {bound : ℕ} (absent : lastUpTo? pattern text bound = none)
    (reached : offset ≤ bound) : ¬ pattern <+: text.drop offset := by
  fun_induction lastUpTo? pattern text bound with
  | case1 found => cases absent
  | case2 differs =>
    obtain rfl := Nat.le_zero.mp reached
    rwa [List.drop_zero, ← List.isPrefixOf_iff_prefix]
  | case3 bound found => cases absent
  | case4 bound differs ih =>
    rcases Nat.le_succ_iff.mp reached with earlier | rfl
    · exact ih absent earlier
    · rwa [← List.isPrefixOf_iff_prefix]

private theorem lastUpTo?_eq_some {bound : ℕ} (found : lastUpTo? pattern text bound = some offset) :
    IsGreatest {offset | offset ≤ bound ∧ pattern <+: text.drop offset} offset := by
  fun_induction lastUpTo? pattern text bound with
  | case1 begins =>
    obtain rfl := Option.some.inj found
    exact ⟨⟨le_rfl, List.isPrefixOf_iff_prefix.mp begins⟩, fun other occurs => occurs.1⟩
  | case2 differs => cases found
  | case3 bound begins =>
    obtain rfl := Option.some.inj found
    exact ⟨⟨le_rfl, List.isPrefixOf_iff_prefix.mp begins⟩, fun other occurs => occurs.1⟩
  | case4 bound differs ih =>
    obtain ⟨⟨reached, begins⟩, greatest⟩ := ih found
    refine ⟨⟨Nat.le_succ_of_le reached, begins⟩, ?_⟩
    rintro other ⟨within, occurs⟩
    apply greatest
    rcases Nat.le_succ_iff.mp within with earlier | rfl
    · exact ⟨earlier, occurs⟩
    · exact absurd (List.isPrefixOf_iff_prefix.mpr occurs) differs

theorem isLastUpTo_lastUpTo? (pattern text : List Char) (start : ℤ) :
    IsLastUpTo pattern text start (positionOf (if min start text.length < 1 then none
      else lastUpTo? pattern text (min start text.length - 1).toNat)) := by
  split
  · next outside =>
    refine .of_absent fun position occurs => ?_
    have first := occurs.1
    omega
  · next inside =>
    cases found : lastUpTo? pattern text (min start text.length - 1).toNat with
    | none =>
      refine .of_absent fun position occurs => ?_
      obtain ⟨offset, rfl, begins⟩ := occurs.exists_offset
      by_contra within
      exact lastUpTo?_eq_none found (by omega) begins
    | some offset =>
      obtain ⟨⟨reached, begins⟩, greatest⟩ := lastUpTo?_eq_some found
      refine .inl ⟨⟨occursAt_add_one.mpr ⟨by omega, begins⟩, ?_⟩, ?_⟩
      · rw [positionOf, Option.elim_some]
        omega
      · rintro position ⟨occurs, within⟩
        obtain ⟨other, rfl, begins⟩ := occurs.exists_offset
        have earlier : other ≤ offset := greatest ⟨by omega, begins⟩
        rw [positionOf, Option.elim_some]
        omega

theorem IsFirstBehind.unique {first second : ℤ} (one : IsFirstBehind pattern text start first)
    (other : IsFirstBehind pattern text start second) : first = second := by
  rcases one with least | ⟨none, rfl⟩
  · rcases other with alike | ⟨none, -⟩
    · exact least.unique alike
    · exact absurd least.1 (none ▸ Set.notMem_empty first)
  · rcases other with least | ⟨-, rfl⟩
    · exact absurd least.1 (none ▸ Set.notMem_empty second)
    · rfl

/-! ## Listing all occurrences -/

/-- If a list holds the occurrences behind a start in their order, each is the first behind the one in
front of it, and behind the last there is none. -/
theorem isChain_isFirstBehind {positions : List ℤ} (first : 0 ≤ start)
    (increasing : positions.Pairwise (· < ·))
    (all : ∀ position, position ∈ positions ↔ OccursAt pattern text position ∧ start < position) :
    List.IsChain (IsFirstBehind pattern text) (start :: (positions ++ [-1])) := by
  induction positions generalizing start with
  | nil =>
    refine .cons_cons (.of_absent fun position occurs => ?_) (.singleton _)
    by_contra behind
    exact List.not_mem_nil ((all position).mpr ⟨occurs, by omega⟩)
  | cons next positions ih =>
    obtain ⟨later, increasing⟩ := List.pairwise_cons.mp increasing
    obtain ⟨occurs, behind⟩ := (all next).mp List.mem_cons_self
    refine .cons_cons (.inl ⟨⟨occurs, by omega⟩, ?_⟩) (ih (by omega) increasing ?_)
    -- The head is the least, and the tail holds just the occurrences behind it.
    · rintro position ⟨occurs, behind⟩
      rcases List.mem_cons.mp ((all position).mpr ⟨occurs, by omega⟩) with rfl | member
      · exact le_rfl
      · exact (later position member).le
    · intro position
      constructor
      · intro member
        exact ⟨((all position).mp (List.mem_cons_of_mem _ member)).1, later position member⟩
      · rintro ⟨occurs, beyond⟩
        have listed := (all position).mpr ⟨occurs, by omega⟩
        exact (List.mem_cons.mp listed).resolve_left (by omega)

theorem exists_occurrences (pattern text : List Char) :
    ∃ positions : List ℤ, positions.Pairwise (· < ·) ∧
      (∀ position, position ∈ positions ↔ OccursAt pattern text position) ∧
      List.IsChain (IsFirstBehind pattern text) (0 :: (positions ++ [-1])) := by
  let occurrences := (Finset.Icc 1 (text.length + 1 : ℤ)).filter (OccursAt pattern text)
  have member (position : ℤ) : position ∈ occurrences.sort ↔ OccursAt pattern text position := by
    rw [Finset.mem_sort, Finset.mem_filter, Finset.mem_Icc]
    exact ⟨And.right, fun occurs => ⟨⟨occurs.1, occurs.2.1⟩, occurs⟩⟩
  have increasing := occurrences.sortedLT_sort.pairwise
  refine ⟨occurrences.sort, increasing, member, isChain_isFirstBehind le_rfl increasing ?_⟩
  intro position
  rw [member]
  exact ⟨fun occurs => ⟨occurs, by have := occurs.1; omega⟩, And.left⟩

end DerivedFields.Text

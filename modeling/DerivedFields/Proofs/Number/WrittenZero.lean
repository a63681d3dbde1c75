import DerivedFields.Proofs.Number.Masked

/-!
# What a mask writes of zero

Of zero a mask writes the zeros that it demands, with its commas and its point, and one zero if it
demands none.
-/

namespace DerivedFields

open Decimal

namespace NumberMask

variable {mask : NumberMask}

private theorem dropZeros_replicate (least n : ℕ) :
    dropZeros least (List.replicate n '0') = List.replicate (min least n) '0' := by
  induction n with
  | zero => rw [Nat.min_zero]; rfl
  | succ n ih =>
    rw [List.replicate_succ, dropZeros, List.length_replicate, ih]
    by_cases less : least < n + 1
    · rw [if_pos (by simpa using less), Nat.min_eq_left (Nat.le_of_lt_succ less),
        Nat.min_eq_left less.le]
    · rw [if_neg (by simpa using less), Nat.min_eq_right (not_lt.mp less), List.replicate_succ]

/-- Commas are all that grouping adds. -/
theorem mem_group (size : ℕ) {digits : List Char} {c : Char} (member : c ∈ group size digits) :
    c ∈ digits ∨ c = ',' := by
  fun_induction group size digits with
  | case1 => exact .inl member
  | case2 digit => exact .inl member
  | case3 digit digits some full ih => grind
  | case4 digit digits some part ih => grind

private theorem count_group (size : ℕ) (digits : List Char) :
    (group size digits).count '0' = digits.count '0' := by
  fun_induction group size digits with
  | case1 => rfl
  | case2 digit => rfl
  | case3 digit digits some full ih =>
    rw [List.count_cons, List.count_cons_of_ne (by decide), ih, ← List.count_cons]
  | case4 digit digits some part ih => rw [List.count_cons, ih, ← List.count_cons]

section

variable {rounded : Decimal}

private theorem mem_groupedText {c : Char} (member : c ∈ mask.groupedText rounded) :
    c ∈ mask.wholeText rounded ∨ c = ',' := by
  rw [groupedText] at member
  split at member
  · exact mem_group _ member
  · exact .inl member

private theorem count_groupedText :
    (mask.groupedText rounded).count '0' = (mask.wholeText rounded).count '0' := by
  rw [groupedText]
  split
  · exact count_group _ _
  · rfl

private theorem groupedText_of_lone (lone : mask.wholeText rounded = ['0']) :
    mask.groupedText rounded = ['0'] := by
  rw [groupedText, lone]
  split <;> rfl

end

section

variable {rounded : Decimal} (zero : rounded.coefficient = 0)

include zero

private theorem wholeText_zero (mask : NumberMask) :
    mask.wholeText rounded = List.replicate mask.integerDigits '0' ∨
      mask.wholeText rounded = ['0'] ∧ mask.fractionText rounded = [] := by
  have integer : mask.integerText rounded = List.replicate mask.integerDigits '0' := by
    rw [integerText, zero, Nat.zero_div]
    exact List.append_nil _
  rw [wholeText, integer]
  split
  · next empty =>
    rw [Bool.and_eq_true, List.isEmpty_iff, List.isEmpty_iff] at empty
    exact .inr ⟨rfl, empty.2⟩
  · exact .inl rfl

private theorem fractionText_zero (scale : rounded.scale ≤ mask.fractionDigits.2) :
    mask.fractionText rounded =
      List.replicate (min mask.fractionDigits.1 mask.fractionDigits.2) '0' := by
  have places : placeDigits rounded = List.replicate rounded.scale '0' := by
    rw [placeDigits, zero, Nat.zero_mod]
    split
    · next none => rw [none]; rfl
    · next some =>
      have one : digitsOf 0 = List.replicate 1 '0' := rfl
      rw [padLeft, one, List.length_replicate, List.replicate_append_replicate]
      congr 1
      omega
  have filled : placeDigits rounded ++
      List.replicate (mask.fractionDigits.2 - (placeDigits rounded).length) '0' =
      List.replicate mask.fractionDigits.2 '0' := by
    rw [places, List.length_replicate, List.replicate_append_replicate]
    congr 1
    omega
  change (dropZeros mask.fractionDigits.1 (placeDigits rounded ++
    List.replicate (mask.fractionDigits.2 - (placeDigits rounded).length) '0').reverse).reverse = _
  rw [filled, List.reverse_replicate, dropZeros_replicate, List.reverse_replicate]

end

/-- Of zero the zeros that the mask demands are written, or one if it demands none. -/
theorem format_zero (mask : NumberMask) :
    ∃ digits, mask.format zero = .ok (mask.before ++ digits ++ mask.behind) ∧
      (∀ c ∈ digits, c = '0' ∨ c = ',' ∨ c = '.') ∧
      (digits = ['0'] ∨ digits.count '0' ≤ mask.integerDigits + mask.fractionDigits.1) := by
  have scaled : (if mask.percent then zero.mul? oneHundred else some zero) = some zero := by
    split <;> rfl
  set rounded := zero.round mask.fractionDigits.2 with defined
  have coefficient : rounded.coefficient = 0 := rfl
  have fits : rounded.scale ≤ mask.fractionDigits.2 := scale_round_le _ _
  have fraction := fractionText_zero coefficient fits
  have text := mask.write_eq rounded
  have formatted : mask.format zero = .ok (mask.write rounded) := by rw [format, scaled]
  rcases wholeText_zero coefficient mask with zeros | ⟨lone, empty⟩
  · refine ⟨mask.groupedText rounded ++ if (mask.fractionText rounded).isEmpty then [] else
      '.' :: mask.fractionText rounded, ?_, ?_, .inr ?_⟩
    · rw [formatted, text]
      simp only [List.append_assoc]
    · intro c member
      rw [fraction] at member
      rcases List.mem_append.mp member with front | back
      · rcases mem_groupedText front with zero | comma
        · rw [zeros] at zero
          exact .inl (List.eq_of_mem_replicate zero)
        · exact .inr (.inl comma)
      · split at back
        · exact absurd back List.not_mem_nil
        · rcases List.mem_cons.mp back with point | zero
          · exact .inr (.inr point)
          · exact .inl (List.eq_of_mem_replicate zero)
    · have behind : (if (mask.fractionText rounded).isEmpty then [] else
          '.' :: mask.fractionText rounded).count '0' ≤ mask.fractionDigits.1 := by
        rw [fraction]
        split
        · exact Nat.zero_le _
        · rw [List.count_cons_of_ne (by decide), List.count_replicate_self]
          exact Nat.min_le_left _ _
      rw [List.count_append, count_groupedText, zeros, List.count_replicate_self]
      exact Nat.add_le_add_left behind _
  · refine ⟨['0'], ?_, fun c member => .inl (List.mem_singleton.mp member), .inl rfl⟩
    rw [formatted, text, empty, groupedText_of_lone lone, List.isEmpty_nil, if_pos rfl, List.append_nil]

end NumberMask

end DerivedFields

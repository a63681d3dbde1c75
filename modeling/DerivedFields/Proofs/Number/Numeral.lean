import DerivedFields.Number.Mask
import DerivedFields.Proofs.Decimal.Quotient
import DerivedFields.Proofs.Decimal.Spelling

/-!
# Numerals of a mask

What a mask writes of a magnitude that has been rounded: its digits before and behind the point.
Zeros are added on both sides until there are as many digits as the mask demands, no other zero
stands at either end, and commas divide the digits before the point into groups from the right.
-/

namespace DerivedFields

/-- The number that digits before and behind a point stand for. -/
def numeralValue (whole fraction : List Char) : ℚ :=
  Nat.ofDigitChars 10 (whole ++ fraction) 0 / 10 ^ fraction.length

/-- The digits of a number with at least `leastWhole` of them before the point, and at least `least`
and at most `most` behind it. There are no more zeros at the ends than these numbers demand, but one
zero is written if there is no other digit. -/
structure IsNumeral (leastWhole least most : ℕ) (x : ℚ) (whole fraction : List Char) : Prop where
  digits : ∀ c ∈ whole ++ fraction, c.isDigit = true
  value : numeralValue whole fraction = x
  some_digit : whole ≠ [] ∨ fraction ≠ []
  leastWhole_le : leastWhole ≤ whole.length
  no_leading_zero : leastWhole < whole.length →
    whole.head? ≠ some '0' ∨ whole = ['0'] ∧ fraction = []
  least_le : least ≤ fraction.length
  le_most : fraction.length ≤ most
  no_trailing_zero : least < fraction.length → fraction.getLast? ≠ some '0'

/-- Digits divided from the right into groups of a size. The first group may be smaller. -/
structure IsGrouping (size : ℕ) (digits : List Char) (groups : List (List Char)) : Prop where
  flatten : groups.flatten = digits
  first : ∀ group ∈ groups.head?, group ≠ [] ∧ group.length ≤ size
  others : ∀ group ∈ groups.tail, group.length = size

/-- Digits with commas between the groups of a size, or without commas if there is no size. -/
def InGroups : Option ℕ → (digits text : List Char) → Prop
  | none, digits, text => text = digits
  | some size, digits, text => ∃ groups, IsGrouping size digits groups ∧ text = [','].intercalate groups

namespace IsGrouping

variable {size : ℕ} {digit : Char} {digits group : List Char} {groups : List (List Char)}

private theorem length_eq (grouping : IsGrouping size digits (group :: groups)) :
    digits.length = group.length + groups.length * size := by
  have others : groups.map List.length = List.replicate groups.length size :=
    List.eq_replicate_iff.mpr ⟨List.length_map _, fun length member => by
      obtain ⟨other, inside, rfl⟩ := List.mem_map.mp member
      exact grouping.others other inside⟩
  rw [← grouping.flatten, List.flatten_cons, List.length_append, List.length_flatten, others,
    List.sum_replicate, smul_eq_mul]

/-- Before whole groups only, a digit begins a group. -/
theorem cons_new (grouping : IsGrouping size digits (group :: groups)) (positive : 0 < size)
    (full : digits.length % size = 0) : IsGrouping size (digit :: digits) ([digit] :: group :: groups) where
  flatten := by rw [← grouping.flatten]; rfl
  first := by
    rintro first ⟨rfl⟩
    exact ⟨List.cons_ne_nil _ _, positive⟩
  others := by
    obtain ⟨some, few⟩ := grouping.first group rfl
    have most := List.length_pos_of_ne_nil some
    rw [grouping.length_eq, Nat.add_mul_mod_self_right] at full
    have first : group.length = size := by
      rcases Nat.lt_or_eq_of_le few with less | same
      · rw [Nat.mod_eq_of_lt less] at full
        omega
      · exact same
    intro other member
    rcases List.mem_cons.mp member with rfl | member
    · exact first
    · exact grouping.others other member

/-- Otherwise a digit joins the first group. -/
theorem cons_join (grouping : IsGrouping size digits (group :: groups))
    (part : digits.length % size ≠ 0) : IsGrouping size (digit :: digits) ((digit :: group) :: groups) where
  flatten := by rw [← grouping.flatten]; rfl
  first := by
    rintro first ⟨rfl⟩
    have few := (grouping.first group rfl).2
    have other : group.length ≠ size := by
      intro same
      rw [grouping.length_eq, same, Nat.add_mul_mod_self_right, Nat.mod_self] at part
      exact part rfl
    refine ⟨List.cons_ne_nil _ _, ?_⟩
    rw [List.length_cons]
    omega
  others := grouping.others

end IsGrouping

/-! ## Zeros at the ends -/

private theorem numeralValue_zeros_append (zeros : ℕ) (whole fraction : List Char) :
    numeralValue (List.replicate zeros '0' ++ whole) fraction = numeralValue whole fraction := by
  rw [numeralValue, List.append_assoc, Nat.ofDigitChars_append, Nat.ofDigitChars_replicate_zero,
    Nat.mul_zero, numeralValue]

private theorem numeralValue_append_zeros (zeros : ℕ) (whole fraction : List Char) :
    numeralValue whole (fraction ++ List.replicate zeros '0') = numeralValue whole fraction := by
  have ten : (10 : ℚ) ^ zeros ≠ 0 := by positivity
  rw [numeralValue, ← List.append_assoc, Nat.ofDigitChars_append, Nat.ofDigitChars_replicate_zero,
    List.length_append, List.length_replicate, numeralValue]
  push_cast
  rw [pow_add, mul_comm ((10 : ℚ) ^ zeros), mul_div_mul_right _ _ ten]

/-- Digits are zeros and what is left of them without their leading zeros. -/
private theorem exists_dropWhile_zeros (digits : List Char) :
    ∃ zeros, digits = List.replicate zeros '0' ++ digits.dropWhile (· == '0') ∧
      (digits.dropWhile (· == '0')).head? ≠ some '0' := by
  refine ⟨(digits.takeWhile (· == '0')).length, ?_, ?_⟩
  · have zeros : digits.takeWhile (· == '0') =
        List.replicate (digits.takeWhile (· == '0')).length '0' := by
      refine List.eq_replicate_iff.mpr ⟨rfl, fun c member => ?_⟩
      exact beq_iff_eq.mp (List.mem_takeWhile_imp (p := (· == '0')) member)
    rw [← zeros, List.takeWhile_append_dropWhile]
  · intro zero
    have stops := List.head?_dropWhile_not (· == '0') digits
    rw [zero] at stops
    exact absurd stops (by decide)

namespace Decimal

variable (d : Decimal)

/-- The digits behind the point of a decimal. -/
def placeDigits (d : Decimal) : List Char :=
  if d.scale = 0 then [] else padLeft d.scale (digitsOf (d.coefficient % 10 ^ d.scale))

private theorem length_placeDigits : (placeDigits d).length = d.scale := by
  rw [placeDigits]
  split
  · next none => exact none.symm
  · next some =>
    exact length_padLeft ((length_digitsOf_le_iff some).mpr (Nat.mod_lt _ (by positivity)))

private theorem isDigit_of_mem_placeDigits {c : Char} (member : c ∈ placeDigits d) :
    c.isDigit = true := by
  rw [placeDigits] at member
  split at member
  · exact absurd member List.not_mem_nil
  · exact isDigit_of_mem_padLeft (fun _ => isDigit_of_mem_digitsOf) member

private theorem numeralValue_placeDigits :
    numeralValue (digitsOf (d.coefficient / 10 ^ d.scale)) (placeDigits d) =
      d.magnitude := by
  rw [numeralValue, length_placeDigits, magnitude, Nat.ofDigitChars_append, ofDigitChars_digitsOf,
    placeDigits]
  split
  · next none => rw [none, pow_zero, Nat.div_one, Nat.ofDigitChars_nil]
  · next some =>
    rw [ofDigitChars_places some (Nat.mod_lt _ (by positivity)), Nat.div_add_mod']

end Decimal

namespace NumberMask

open Decimal

/-! ## Groups -/

private theorem inGroups_group {size : ℕ} (positive : 0 < size) (digits : List Char) :
    InGroups (some size) digits (group size digits) := by
  fun_induction group size digits with
  | case1 => exact ⟨[], ⟨rfl, fun _ => nofun, fun _ => nofun⟩, rfl⟩
  | case2 digit =>
    refine ⟨[[digit]], ⟨rfl, ?_, fun _ => nofun⟩, rfl⟩
    rintro first ⟨rfl⟩
    exact ⟨List.cons_ne_nil _ _, positive⟩
  | case3 digit digits some full ih =>
    obtain ⟨groups, grouping, text⟩ := ih
    cases groups with
    | nil => exact absurd grouping.flatten.symm some
    | cons first others => exact ⟨_, grouping.cons_new positive full, by rw [text]; rfl⟩
  | case4 digit digits some part ih =>
    obtain ⟨groups, grouping, text⟩ := ih
    cases groups with
    | nil => exact absurd grouping.flatten.symm some
    | cons first others =>
      refine ⟨_, grouping.cons_join part, ?_⟩
      rw [text]
      cases others <;> rfl

/-! ## Both sides of the point -/

/-- Zeros are dropped from the end of reversed digits, but not the last that are demanded. -/
theorem exists_dropZeros (least : ℕ) (digits : List Char) :
    ∃ zeros, digits = List.replicate zeros '0' ++ dropZeros least digits ∧
      (least ≤ digits.length → least ≤ (dropZeros least digits).length) ∧
      (least < (dropZeros least digits).length → (dropZeros least digits).head? ≠ some '0') := by
  induction digits with
  | nil => exact ⟨0, rfl, id, fun less => absurd less (Nat.not_lt_zero _)⟩
  | cons c digits ih =>
    rw [dropZeros]
    by_cases zero : c = '0' ∧ least < digits.length + 1
    · obtain ⟨zeros, split, enough, ends⟩ := ih
      rw [if_pos (by simpa using zero)]
      refine ⟨zeros + 1, ?_, fun _ => enough (Nat.le_of_lt_succ zero.2), ends⟩
      rw [zero.1, List.replicate_succ, List.cons_append, ← split]
    · rw [if_neg (by simpa using zero)]
      exact ⟨0, rfl, id, fun more first => zero ⟨Option.some.inj first, more⟩⟩

section

variable (mask : NumberMask) (rounded : Decimal)

/-- Before the point zeros in front are dropped, and then added up to the least number of digits. -/
theorem exists_integerText :
    ∃ zeros first, digitsOf (rounded.coefficient / 10 ^ rounded.scale) =
        List.replicate zeros '0' ++ first ∧
      first.head? ≠ some '0' ∧ mask.integerText rounded = padLeft mask.integerDigits first := by
  obtain ⟨zeros, split, starts⟩ :=
    exists_dropWhile_zeros (digitsOf (rounded.coefficient / 10 ^ rounded.scale))
  exact ⟨zeros, _, split, starts, rfl⟩

private theorem isDigit_of_mem_integerText {c : Char} (member : c ∈ mask.integerText rounded) :
    c.isDigit = true := by
  obtain ⟨zeros, first, leading, -, text⟩ := exists_integerText mask rounded
  rw [text] at member
  refine isDigit_of_mem_padLeft (fun c inside => ?_) member
  exact isDigit_of_mem_digitsOf (leading ▸ List.mem_append_right _ inside)

private theorem integerDigits_le_length : mask.integerDigits ≤ (mask.integerText rounded).length := by
  obtain ⟨zeros, first, -, -, text⟩ := exists_integerText mask rounded
  rw [text, padLeft, List.length_append, List.length_replicate]
  omega

/-- Zeros that are added are no more than demanded. -/
theorem head?_integerText (more : mask.integerDigits < (mask.integerText rounded).length) :
    (mask.integerText rounded).head? ≠ some '0' := by
  obtain ⟨zeros, first, -, starts, text⟩ := exists_integerText mask rounded
  rw [text, padLeft, List.length_append, List.length_replicate] at more
  have none : mask.integerDigits - first.length = 0 := by omega
  rw [text, padLeft, none]
  exact starts

variable {mask} {rounded}

section

variable (fits : rounded.scale ≤ mask.fractionDigits.2)

include fits

/-- Behind the point zeros are added up to the greatest number of digits, and then dropped. -/
theorem exists_fractionText :
    ∃ added dropped, (placeDigits rounded ++ List.replicate added '0').length =
        mask.fractionDigits.2 ∧
      placeDigits rounded ++ List.replicate added '0' =
        mask.fractionText rounded ++ List.replicate dropped '0' ∧
      (mask.fractionDigits.1 ≤ mask.fractionDigits.2 →
        mask.fractionDigits.1 ≤ (mask.fractionText rounded).length) ∧
      (mask.fractionDigits.1 < (mask.fractionText rounded).length →
        (mask.fractionText rounded).getLast? ≠ some '0') := by
  set filled := placeDigits rounded ++ List.replicate (mask.fractionDigits.2 - rounded.scale) '0'
    with fills
  have length : filled.length = mask.fractionDigits.2 := by
    rw [fills, List.length_append, length_placeDigits, List.length_replicate]
    omega
  have text : mask.fractionText rounded =
      (dropZeros mask.fractionDigits.1 filled.reverse).reverse := by
    rw [fills, ← length_placeDigits rounded]
    rfl
  obtain ⟨dropped, split, enough, ends⟩ := exists_dropZeros mask.fractionDigits.1 filled.reverse
  rw [List.length_reverse, length] at enough
  refine ⟨_, dropped, length, ?_, ?_, ?_⟩
  · rw [← fills, text, ← List.reverse_replicate, ← List.reverse_append, ← split,
      List.reverse_reverse]
  · rw [text, List.length_reverse]
    exact enough
  · rw [text, List.length_reverse, List.getLast?_reverse]
    exact ends

private theorem isDigit_of_mem_fractionText {c : Char} (member : c ∈ mask.fractionText rounded) :
    c.isDigit = true := by
  obtain ⟨added, dropped, -, trailing, -⟩ := exists_fractionText fits
  have inside : c ∈ placeDigits rounded ++ List.replicate added '0' :=
    trailing ▸ List.mem_append_left _ member
  rcases List.mem_append.mp inside with place | zero
  · exact isDigit_of_mem_placeDigits rounded place
  · rw [List.eq_of_mem_replicate zero]
    rfl

private theorem length_fractionText_le :
    (mask.fractionText rounded).length ≤ mask.fractionDigits.2 := by
  obtain ⟨added, dropped, length, trailing, -⟩ := exists_fractionText fits
  rw [← length, trailing, List.length_append]
  exact Nat.le_add_right _ _

/-- Zeros at the ends do not change the number. -/
theorem numeralValue_texts :
    numeralValue (mask.integerText rounded) (mask.fractionText rounded) = rounded.magnitude := by
  obtain ⟨zeros, first, leading, -, integer⟩ := exists_integerText mask rounded
  obtain ⟨added, dropped, -, trailing, -⟩ := exists_fractionText fits
  calc numeralValue (mask.integerText rounded) (mask.fractionText rounded)
      = numeralValue first (mask.fractionText rounded) := by
        rw [integer, padLeft, numeralValue_zeros_append]
    _ = numeralValue (digitsOf (rounded.coefficient / 10 ^ rounded.scale))
          (mask.fractionText rounded) := by rw [leading, numeralValue_zeros_append]
    _ = numeralValue (digitsOf (rounded.coefficient / 10 ^ rounded.scale))
          (placeDigits rounded) := by
        rw [← numeralValue_append_zeros dropped, ← trailing, numeralValue_append_zeros]
    _ = rounded.magnitude := numeralValue_placeDigits rounded

end

variable (mask) (rounded) in
/-- The digits before the point, or a zero if there is no digit on either side. -/
def wholeText : List Char :=
  if (mask.integerText rounded).isEmpty && (mask.fractionText rounded).isEmpty then ['0']
  else mask.integerText rounded

/-- The digits on both sides are the numeral of what has been rounded. -/
theorem isNumeral_texts (fits : rounded.scale ≤ mask.fractionDigits.2)
    (ordered : mask.fractionDigits.1 ≤ mask.fractionDigits.2) :
    IsNumeral mask.integerDigits mask.fractionDigits.1 mask.fractionDigits.2 rounded.magnitude
      (mask.wholeText rounded) (mask.fractionText rounded) := by
  obtain ⟨-, -, -, -, least, ends⟩ := exists_fractionText fits
  have value := numeralValue_texts fits
  have enough := integerDigits_le_length mask rounded
  by_cases empty : mask.integerText rounded = [] ∧ mask.fractionText rounded = []
  · have lone : mask.wholeText rounded = ['0'] := by rw [wholeText, empty.1, empty.2]; rfl
    rw [empty.1, List.length_nil] at enough
    rw [empty.2] at least
    rw [empty.1, empty.2] at value
    rw [lone, empty.2]
    exact {
      digits := fun c member => by rw [List.mem_singleton.mp member]; rfl
      value := (numeralValue_zeros_append 1 [] []).trans value
      some_digit := .inl (List.cons_ne_nil _ _)
      leastWhole_le := Nat.le_succ_of_le enough
      no_leading_zero := fun _ => .inr ⟨rfl, rfl⟩
      least_le := least ordered
      le_most := Nat.zero_le _
      no_trailing_zero := fun more => absurd more (Nat.not_lt_zero _) }
  · have kept : mask.wholeText rounded = mask.integerText rounded := by
      rw [wholeText, if_neg]
      simpa using empty
    rw [kept]
    exact {
      digits := List.forall_mem_append.mpr
        ⟨fun _ => isDigit_of_mem_integerText mask rounded, fun _ => isDigit_of_mem_fractionText fits⟩
      value
      some_digit := not_and_or.mp empty
      leastWhole_le := enough
      no_leading_zero := fun more => .inl (head?_integerText mask rounded more)
      least_le := least ordered
      le_most := length_fractionText_le fits
      no_trailing_zero := ends }

variable (mask) (rounded) in
/-- The digits before the point with the commas of the mask. -/
def groupedText : List Char :=
  match mask.groupSize with
  | some size => group size (mask.wholeText rounded)
  | none => mask.wholeText rounded

variable (rounded) in
theorem inGroups_groupedText (nonzero : mask.groupSize ≠ some 0) :
    InGroups mask.groupSize (mask.wholeText rounded) (mask.groupedText rounded) := by
  rw [groupedText]
  cases chosen : mask.groupSize with
  | none => rfl
  | some size =>
    have positive : 0 < size := by
      refine Nat.pos_of_ne_zero fun zero => nonzero ?_
      rw [chosen, zero]
    exact inGroups_group positive _

variable (mask) (rounded) in
theorem write_eq : mask.write rounded = mask.before ++ mask.groupedText rounded ++
    (if (mask.fractionText rounded).isEmpty then [] else '.' :: mask.fractionText rounded) ++
    mask.behind := rfl

end

end NumberMask

end DerivedFields

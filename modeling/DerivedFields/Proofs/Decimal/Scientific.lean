import DerivedFields.Proofs.Decimal.Rounding
import DerivedFields.Proofs.Decimal.Spelling

/-!
# Numbers with an exponent

Digits may be written with a point behind the first of them and an exponent that moves the point to
the right. Where the point is moved beyond the last digit, the number is an integer, and it is read
as that integer unless it is too large.
-/

namespace DerivedFields.Decimal

/-- The digits of a number, with a point behind the first one if there are more. -/
def mantissa (n : ℕ) : List Char :=
  match digitsOf n with
  | [] => []
  | [digit] => [digit]
  | first :: rest => first :: '.' :: rest

private theorem mantissa_eq_cons (n : ℕ) : ∃ first rest places, digitsOf n = first :: rest ∧
    (∀ c ∈ first :: rest, c.isDigit = true) ∧ mantissa n = first :: places ∧
      (rest = [] ∧ places = [] ∨ rest ≠ [] ∧ places = '.' :: rest) := by
  have all (c : Char) (member : c ∈ digitsOf n) : c.isDigit = true :=
    isDigit_of_mem_digitsOf member
  rw [mantissa]
  cases digits : digitsOf n with
  | nil => exact absurd digits (digitsOf_ne_nil n)
  | cons first rest =>
    rw [digits] at all
    cases rest with
    | nil => exact ⟨first, [], [], rfl, all, rfl, .inl ⟨rfl, rfl⟩⟩
    | cons second rest =>
      exact ⟨first, second :: rest, _, rfl, all, rfl, .inr ⟨List.cons_ne_nil _ _, rfl⟩⟩

private theorem plain_mantissa (negative : Bool) (n : ℕ) :
    Plain ((if negative then ['-'] else []) ++ mantissa n) := by
  obtain ⟨first, rest, places, -, all, written, point⟩ := mantissa_eq_cons n
  have one : ∀ c ∈ [first], c.isDigit = true :=
    List.forall_mem_singleton.mpr (all first List.mem_cons_self)
  have behind : places = [] ∨
      ∃ fraction, places = '.' :: fraction ∧ ∀ c ∈ fraction, c.isDigit = true := by
    rcases point with ⟨-, none⟩ | ⟨-, some⟩
    · exact .inl none
    · exact .inr ⟨rest, some, fun c member => all c (List.mem_cons_of_mem _ member)⟩
  rw [written]
  exact .mk negative (List.cons_ne_nil first []) one behind

/-- The digits behind the point are counted. -/
theorem ofText?_mantissa (negative : Bool) {n : ℕ} (fits : n < limit)
    (few : (digitsOf n).length ≤ maxScale + 1) :
    ofText? ((if negative then ['-'] else []) ++ mantissa n) =
      make? negative n ((digitsOf n).length - 1) := by
  obtain ⟨first, rest, places, digits, all, written, point⟩ := mantissa_eq_cons n
  have value := ofDigitChars_digitsOf n
  have one : ∀ c ∈ [first], c.isDigit = true :=
    List.forall_mem_singleton.mpr (all first List.mem_cons_self)
  rw [digits] at value few
  rw [written, ofText?_sign negative (all first List.mem_cons_self), digits]
  -- the first digit, and what the others make of it
  have split : Nat.ofDigitChars 10 rest (Nat.ofDigitChars 10 [first] 0) = n := by
    rw [← Nat.ofDigitChars_append, List.singleton_append, value]
  have start : Nat.ofDigitChars 10 [first] 0 < limit :=
    Nat.lt_of_le_of_lt (le_ofDigitChars rest _) (by rwa [split])
  have whole := readDigits?_append negative false false 0 0 places one start (fun _ => rfl)
    Bool.noConfusion
  rw [List.singleton_append] at whole
  rw [whole]
  rcases point with ⟨rfl, rfl⟩ | ⟨some, rfl⟩
  · rw [Nat.ofDigitChars_nil] at split
    rw [split]
    rfl
  · have behind := readDigits?_append negative true true (Nat.ofDigitChars 10 [first] 0) 0 []
      (fun c member => all c (List.mem_cons_of_mem _ member)) (by rwa [split]) Bool.noConfusion
      (fun _ => by rw [List.length_cons] at few; omega)
    rw [List.append_nil, split, Nat.zero_add] at behind
    exact behind

/-! ## Moving the point -/

/-- Where the point moves beyond the last digit, the digits and a power of ten make an integer. -/
theorem shiftRight?_of_lt {d : Decimal} {exponent : ℕ} (beyond : d.scale < exponent) :
    d.shiftRight? exponent =
      if maxScale < exponent then none
      else make? d.negative (d.coefficient * 10 ^ (exponent - d.scale)) 0 := by
  rw [shiftRight?, if_neg (by omega)]
  rfl

/-- Digits with a power of ten are read as the integer that they make, unless it is too large. -/
theorem readNumber?_scientific (negative : Bool) {n power : ℕ} (positive : 0 < n) (fits : n < limit)
    (few : (digitsOf n).length ≤ maxScale + 1) (beyond : 0 < power) :
    (readNumber? ((if negative then ['-'] else []) ++ mantissa n ++
        'e' :: '+' :: digitsOf (power + (digitsOf n).length - 1))).map toRat =
      if n * 10 ^ power < limit then some (withSign negative (n * 10 ^ power : ℕ)) else none := by
  have nonempty := List.length_pos_iff.mpr (digitsOf_ne_nil n)
  have places : (digitsOf n).length - 1 ≤ maxScale := by omega
  have taken : ofText? ((if negative then ['-'] else []) ++ mantissa n) =
      some ⟨negative, n, (digitsOf n).length - 1, fits, places⟩ := by
    rw [ofText?_mantissa negative fits few, make?, dif_pos ⟨fits, places⟩,
      bne_iff_ne.mpr positive.ne', Bool.and_true]
  set exponent := power + (digitsOf n).length - 1 with moved
  have digits : ∀ c ∈ digitsOf exponent, c.isDigit = true := fun _ => isDigit_of_mem_digitsOf
  have counted : readCount? (digitsOf exponent) = some exponent := by
    have padded := readCount?_padLeft 0 exponent
    rwa [padLeft, Nat.zero_sub, List.replicate_zero, List.nil_append] at padded
  have behind : exponent - ((digitsOf n).length - 1) = power := by omega
  rw [(plain_mantissa negative n).readNumber?_append (.right (digitsOf_ne_nil _) digits)]
  simp only [ofScientific?, taken, counted, Option.bind_eq_bind, Option.bind_some]
  rw [shiftRight?_of_lt (show (digitsOf n).length - 1 < exponent by omega)]
  simp only [behind]
  by_cases large : maxScale < exponent
  · -- the first digit alone is too large
    have first : 10 ^ exponent ≤ n * 10 ^ power := by
      have split : exponent = (digitsOf n).length - 1 + power := by omega
      rw [split, pow_add]
      exact Nat.mul_le_mul_right _ (pow_length_digitsOf_le positive)
    have great : 10 ^ 29 ≤ 10 ^ exponent := Nat.pow_le_pow_right (by decide) large
    have tooLarge : ¬n * 10 ^ power < limit := by
      rw [limit_eq]
      omega
    rw [if_pos large, if_neg tooLarge, Option.map_none]
  · rw [if_neg large]
    by_cases room : n * 10 ^ power < limit
    · obtain ⟨d, made, -, -, value⟩ := make?_eq_some negative room (Nat.zero_le maxScale)
      rw [if_pos room, made, Option.map_some, value, pow_zero, div_one]
    · rw [if_neg room, make?, dif_neg (fun bounds => room bounds.1), Option.map_none]

end DerivedFields.Decimal

import Mathlib
import DerivedFields.Operators
import DerivedFields.Proofs.Decimal.Spelling

/-!
# Values written as text

What a value is written as is read as the same number and counts as the same condition, and it is
equal to the value under the coercive discipline. So a result that goes through a document keeps its
meaning. A number has one text.
-/

namespace DerivedFields

open Decimal (toRat)
open Script (BinaryOp)

private theorem Decimal.isZero_normalize (d : Decimal) : d.normalize.isZero = d.isZero := by
  rw [Bool.eq_iff_iff, isZero_iff, isZero_iff, toRat_normalize]

/-- Numbers are equal under the coercive discipline if they are one, in whatever way they are
written. -/
theorem equalValues_of_toRat {left right : Value} {a b : Decimal} (op : BinaryOp)
    (first : left.asNumber? = some a) (second : right.asNumber? = some b)
    (same : a.toRat = b.toRat) : equalValues .coercive op left right = .ok true := by
  have numbers : Discipline.coercive.numbers? left right = some (a, b) := by
    simp only [Discipline.numbers?, Discipline.number?, first, second, Option.bind_eq_bind,
      Option.bind_some]
  unfold equalValues
  rw [numbers]
  exact congrArg Except.ok (Decimal.equals_iff.mpr same)

/-- A truth value is equal to what counts as the same condition, a text to itself. -/
theorem equalValues_of_no_number {left right : Value} (op : BinaryOp)
    (noNumber : left.asNumber? = none ∨ right.asNumber? = none)
    (condition : left.isTruthy = right.isTruthy) (text : left.toText = right.toText) :
    equalValues .coercive op left right = .ok true := by
  have numbers : Discipline.coercive.numbers? left right = none := by
    rcases noNumber with none | none
    · simp only [Discipline.numbers?, Discipline.number?, none, Option.bind_eq_bind,
        Option.bind_none]
    · simp only [Discipline.numbers?, Discipline.number?, none, Option.bind_eq_bind,
        Option.bind_none, Option.bind_fun_none]
  have truth : (left.isTruthy == right.isTruthy) = true := beq_iff_eq.mpr condition
  have texts : (left.toText == right.toText) = true := beq_iff_eq.mpr text
  unfold equalValues
  rw [numbers]
  cases left <;> cases right <;> simp only [truth, texts]

namespace Value

/-- The value that is read where a value was written. -/
def written (value : Value) : Value := .string value.toText

private theorem asNumber?_written (value : Value) :
    value.written.asNumber?.map toRat = value.asNumber?.map toRat := by
  cases value with
  | boolean value =>
    have none : readNumber? "true".toList = none ∧ readNumber? "false".toList = none := by cbv
    cases value with
    | true => exact congrArg (Option.map toRat) none.1
    | false => exact congrArg (Option.map toRat) none.2
  | numeric value =>
    have read : (numeric value).written.asNumber? = some value.normalize :=
      value.readNumber?_canonicalText
    rw [read]
    exact congrArg some value.toRat_normalize
  | string text => rfl

private theorem isTruthy_written (value : Value) : value.written.isTruthy = value.isTruthy := by
  cases value with
  | boolean value => cases value <;> rfl
  | numeric value =>
    have plain : Decimal.Plain value.canonicalText.toList := Decimal.plain_toText _
    have trimmed : Text.trim value.canonicalText.toList = value.canonicalText.toList :=
      Text.trim_of_noBlank fun c member => (plain.char_of_mem member).1
    have word {word : String} (letter : 'e' ∈ word.toList.map Char.toLower) :
        Text.equalsIgnoringCase (String.ofList value.canonicalText.toList) word = false := by
      rw [String.ofList_toList]
      exact value.not_equalsIgnoringCase_canonicalText letter
    have notTrue := word (show 'e' ∈ "true".toList.map Char.toLower by decide)
    have notFalse := word (show 'e' ∈ "false".toList.map Char.toLower by decide)
    calc (numeric value).written.isTruthy
        = !value.normalize.isZero := by
          simp only [written, toText, isTruthy, trimmed, notTrue, notFalse, Bool.false_eq_true,
            if_false, Decimal.readNumber?_canonicalText]
      _ = (numeric value).isTruthy := by rw [value.isZero_normalize, isTruthy]
  | string text => rfl

/-- A value is equal to what is read where it was written, in either order. -/
theorem equalValues_written (op : BinaryOp) (value : Value) :
    equalValues .coercive op value value.written = .ok true ∧
      equalValues .coercive op value.written value = .ok true := by
  have same := value.asNumber?_written
  cases own : value.asNumber? with
  | none =>
    have condition := value.isTruthy_written
    exact ⟨equalValues_of_no_number op (.inl own) condition.symm rfl,
      equalValues_of_no_number op (.inr own) condition rfl⟩
  | some number =>
    rw [own] at same
    obtain ⟨read, found, equal⟩ := Option.map_eq_some_iff.mp same
    exact ⟨equalValues_of_toRat op own found equal.symm, equalValues_of_toRat op found own equal⟩

/-- The value that is read where a value was written is the same number and the same condition, and
is equal to the value. Two numbers are written alike if and only if they are equal. -/
theorem written_same (value : Value) :
    (value.written.asNumber?.map toRat = value.asNumber?.map toRat ∧
      value.written.isTruthy = value.isTruthy ∧
      applyOperator .coercive .equal value value.written = .ok (.boolean true) ∧
      applyOperator .coercive .equal value.written value = .ok (.boolean true)) ∧
    ∀ first second : Decimal,
      (numeric first).toText = (numeric second).toText ↔ first.toRat = second.toRat := by
  obtain ⟨behind, before⟩ := value.equalValues_written .equal
  refine ⟨⟨value.asNumber?_written, value.isTruthy_written, ?_, ?_⟩, ?_⟩
  · rw [applyOperator, behind]
    rfl
  · rw [applyOperator, before]
    rfl
  · intro first second
    exact Decimal.canonicalText_eq_iff

end Value

end DerivedFields

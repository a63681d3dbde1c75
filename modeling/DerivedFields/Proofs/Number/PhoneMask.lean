import DerivedFields.Number.Mask

/-!
# Phone numbers in a mask

A mask takes as many digits as it has number signs, and puts each of them in one place. A text that has
the length of the mask, its characters at all other places and the digits at these, in their order, is
the only such text. So it does not matter how the digits are dealt out, only where they end up.
-/

namespace DerivedFields

/-- The characters of a text where a mask has number signs, from left to right. -/
def atPlaceholders (mask text : List Char) : List Char :=
  ((mask.zip text).filter fun places => places.1 = '#').map Prod.snd

/-- A text is the mask with the digits in the places of its number signs. -/
structure Fills (mask digits text : List Char) : Prop where
  length : text.length = mask.length
  kept : ∀ position : Nat, mask[position]? ≠ some '#' → text[position]? = mask[position]?
  placed : atPlaceholders mask text = digits

variable {mask digits text : List Char} {c d : Char}

private theorem fills_nil : Fills [] digits text ↔ digits = [] ∧ text = [] := by
  constructor
  · rintro ⟨length, -, rfl⟩
    exact ⟨rfl, List.length_eq_zero_iff.mp length⟩
  · rintro ⟨rfl, rfl⟩
    exact ⟨rfl, fun _ _ => rfl, rfl⟩

/-- In the place of a number sign stands the first digit. -/
theorem fills_placeholder :
    Fills ('#' :: mask) digits (d :: text) ↔ ∃ others, digits = d :: others ∧ Fills mask others text := by
  have placed : atPlaceholders ('#' :: mask) (d :: text) = d :: atPlaceholders mask text := by
    simp [atPlaceholders]
  constructor
  · rintro ⟨length, kept, rfl⟩
    refine ⟨atPlaceholders mask text, placed, by simpa using length, fun position other => ?_, rfl⟩
    simpa using kept (position + 1) (by simpa using other)
  · rintro ⟨others, rfl, length, kept, rfl⟩
    refine ⟨by simpa using length, fun position other => ?_, placed⟩
    cases position with
    | zero => exact absurd rfl other
    | succ position => simpa using kept position (by simpa using other)

/-- Any other character of a mask stays. -/
theorem fills_cons (other : c ≠ '#') :
    Fills (c :: mask) digits (d :: text) ↔ d = c ∧ Fills mask digits text := by
  have placed : atPlaceholders (c :: mask) (d :: text) = atPlaceholders mask text := by
    simp [atPlaceholders, other]
  constructor
  · rintro ⟨length, kept, rfl⟩
    have same : d = c := by simpa using kept 0 (by simpa using other)
    refine ⟨same, by simpa using length, fun position behind => ?_, placed.symm⟩
    simpa using kept (position + 1) (by simpa using behind)
  · rintro ⟨rfl, length, kept, rfl⟩
    refine ⟨by simpa using length, fun position behind => ?_, placed⟩
    cases position with
    | zero => rfl
    | succ position => simpa using kept position (by simpa using behind)

/-- A mask is filled in one way, with as many digits as it has number signs. -/
theorem fills_iff : Fills mask digits text ↔
    digits.length = mask.count '#' ∧ text = fillPlaceholders mask digits := by
  induction mask generalizing digits text with
  | nil => simp [fills_nil, fillPlaceholders]
  | cons c mask ih =>
    cases text with
    | nil =>
      have shorter : ¬Fills (c :: mask) digits [] := fun fills => nomatch fills.length
      have longer : fillPlaceholders (c :: mask) digits ≠ [] := by
        unfold fillPlaceholders
        split <;> simp_all
      simp [shorter, longer.symm]
    | cons d text =>
      by_cases sign : c = '#'
      · subst sign
        rw [fills_placeholder]
        cases digits with
        | nil => simp
        | cons digit digits =>
          simp only [List.cons.injEq, ih, fillPlaceholders, List.length_cons, List.count_cons_self]
          constructor
          · rintro ⟨others, ⟨rfl, rfl⟩, enough, rfl⟩
            exact ⟨congrArg (· + 1) enough, rfl, rfl⟩
          · rintro ⟨enough, rfl, rfl⟩
            exact ⟨digits, ⟨rfl, rfl⟩, Nat.succ.inj enough, rfl⟩
      · rw [fills_cons sign, ih, List.count_cons_of_ne sign, fillPlaceholders]
        · simp only [List.cons.injEq, and_left_comm]
        · exact fun _ _ _ same => sign same

/-- A phone number is written if and only if there are as many digits in the input as number signs in
the mask, and then as the mask with these digits in their places. -/
theorem maskPhone_places (input mask : String) :
    let digits := input.toList.filter Text.isDecimalDigit
    let needed := mask.toList.count '#'
    ((∃ result, maskPhone input mask = .ok result) ↔ digits.length = needed) ∧
      (∀ result, maskPhone input mask = .ok result ↔ Fills mask.toList digits result.toList) ∧
      (digits.length ≠ needed →
        maskPhone input mask = .error (.domain (.phoneDigits digits.length needed))) := by
  intro digits needed
  have written (result : String) :
      maskPhone input mask = .ok result ↔ Fills mask.toList digits result.toList := by
    rw [fills_iff, maskPhone]
    by_cases enough : digits.length = needed
    · rw [if_pos enough, Except.ok.injEq, ← String.toList_inj, String.toList_ofList, eq_comm]
      exact (and_iff_right enough).symm
    · rw [if_neg enough]
      exact ⟨nofun, fun filled => absurd filled.1 enough⟩
  refine ⟨⟨?_, fun enough => ?_⟩, written, fun other => if_neg other⟩
  · rintro ⟨result, success⟩
    exact (fills_iff.mp ((written result).mp success)).1
  · exact ⟨String.ofList (fillPlaceholders mask.toList digits),
      (written _).mpr (fills_iff.mpr ⟨enough, String.toList_ofList⟩)⟩

/-- Digits of two scripts between other characters, and too few digits. -/
theorem maskPhone_places_scripts :
    maskPhone "+١٢ (x3)" "(##) #" = .ok "(١٢) 3" ∧
      ("1.".toList.filter Text.isDecimalDigit).length ≠ "##".toList.count '#' ∧
      maskPhone "1." "##" = .error (.domain (.phoneDigits 1 2)) := by
  obtain ⟨-, written, -⟩ := maskPhone_places "+١٢ (x3)" "(##) #"
  obtain ⟨-, -, refused⟩ := maskPhone_places "1." "##"
  have tooFew : ("1.".toList.filter Text.isDecimalDigit).length ≠ "##".toList.count '#' := by decide
  exact ⟨(written _).mpr (fills_iff.mpr (by decide)), tooFew, refused tooFew⟩

end DerivedFields

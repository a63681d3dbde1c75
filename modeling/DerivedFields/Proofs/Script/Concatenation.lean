import DerivedFields.Proofs.Script.Reading
import DerivedFields.Proofs.Script.Scanning

/-!
# Texts one after the other

Where a token ends depends on the character behind it, and a separator ends every token. So of two
texts, the second of which begins with a separator, the tokens are those of the first and then those
of the second. Only the positions in the second text are other than before.
-/

namespace DerivedFields.Script

open TokenStream

/-! ## Tokens -/

/-- A string is over before its text is, so nothing behind it matters. -/
theorem readString_append {quote : Char} (escapes : quote ≠ '\\') {opening position : Nat}
    {body text : List Char} {behind : Remainder}
    (read : readString quote opening position body = .ok (text, behind))
    (opening' position' : Nat) (rest : List Char) :
    ∃ stop, readString quote opening' position' (body ++ rest) =
      .ok (text, ⟨stop, behind.rest ++ rest⟩) := by
  fun_induction readString quote opening position body generalizing text behind position' with
  | case2 =>
    cases read
    exact ⟨_, readString_quote _⟩
  | case4 _ _ _ _ _ _ _ known _ ih =>
    obtain ⟨others, inner, rfl⟩ := prepend_eq_ok read
    obtain ⟨stop, onward⟩ := ih inner (position' + 6)
    refine ⟨stop, ?_⟩
    simp only [List.cons_append]
    rw [readString_code escapes known, onward]
    rfl
  | case7 _ _ _ notCode _ known _ ih =>
    obtain ⟨others, inner, rfl⟩ := prepend_eq_ok read
    obtain ⟨stop, onward⟩ := ih inner (position' + 2)
    refine ⟨stop, ?_⟩
    simp only [List.cons_append]
    rw [readString_short escapes notCode known, onward]
    rfl
  | case9 _ _ _ inside plain ih =>
    obtain ⟨others, inner, rfl⟩ := prepend_eq_ok read
    obtain ⟨stop, onward⟩ := ih inner (position' + 1)
    refine ⟨stop, ?_⟩
    rw [List.cons_append, readString_raw inside plain, onward]
    rfl
  | _ => cases read

section

variable {p : Char → Bool} {rest : List Char}

private theorem takeWhile_append_stop (stops : ∀ c ∈ rest.head?, p c = false) (text : List Char) :
    (text ++ rest).takeWhile p = text.takeWhile p := by
  induction text with
  | nil =>
    cases rest with
    | nil => rfl
    | cons c rest => simp [stops c rfl]
  | cons c text ih =>
    simp only [List.cons_append, List.takeWhile_cons, ih]

private theorem dropWhile_append_stop (stops : ∀ c ∈ rest.head?, p c = false) (text : List Char) :
    (text ++ rest).dropWhile p = text.dropWhile p ++ rest := by
  induction text with
  | nil =>
    cases rest with
    | nil => rfl
    | cons c rest => simp [stops c rfl]
  | cons c text ih =>
    simp only [List.cons_append, List.dropWhile_cons, ih]
    split <;> rfl

variable (ends : EndsToken rest)
include ends

private theorem not_isDigit_of_ends : ∀ c ∈ rest.head?, c.isDigit = false :=
  fun c member => not_isDigit_of_separator (ends c member)

private theorem numberLength_append (text : List Char) :
    numberLength (text ++ rest) = numberLength text := by
  have noDigit := not_isDigit_of_ends ends
  have whole := (List.takeWhile_sublist (p := Char.isDigit) (l := text)).length_le
  simp only [numberLength, takeWhile_append_stop noDigit, List.drop_append_of_le_length whole]
  cases behind : text.drop (text.takeWhile Char.isDigit).length with
  | nil =>
    rw [List.nil_append]
    split
    · next tail =>
      have separator : isSeparator '.' = true := ends '.' rfl
      exact absurd separator (by decide)
    · rfl
  | cons c tail =>
    by_cases point : c = '.'
    · subst point
      simp only [List.cons_append, takeWhile_append_stop noDigit]
    · simp only [List.cons_append]
      split
      · next same => exact absurd (List.cons.inj same).1 point
      · split
        · next same => exact absurd (List.cons.inj same).1 point
        · rfl

end

private theorem numberLength_le (text : List Char) : numberLength text ≤ text.length := by
  have whole := (List.takeWhile_sublist (p := Char.isDigit) (l := text)).length_le
  simp only [numberLength]
  split
  · next tail behind =>
    have fraction := (List.takeWhile_sublist (p := Char.isDigit) (l := tail)).length_le
    have length := congrArg List.length behind
    rw [List.length_drop, List.length_cons] at length
    split <;> omega
  · exact whole

section

variable {c : Char} {body rest : List Char} {token : Token} {behind : Remainder} {position : Nat}

/-- A string ends at its closing quote. -/
theorem readToken_append_quoted (isQuote : c = '"' ∨ c = '\'')
    (read : readToken position c body = .ok (token, behind)) (rest : List Char) (position' : Nat) :
    ∃ stop, readToken position' c (body ++ rest) = .ok (token, ⟨stop, behind.rest ++ rest⟩) := by
  have escapes : c ≠ '\\' := by rcases isQuote with rfl | rfl <;> decide
  rw [readToken_quoted isQuote] at read ⊢
  cases inner : readString c position (position + 1) body with
  | error error =>
    rw [inner] at read
    cases read
  | ok found =>
    rw [inner] at read
    cases read
    obtain ⟨stop, onward⟩ := readString_append escapes inner position' (position' + 1) rest
    rw [onward]
    exact ⟨stop, rfl⟩

/-- A name or a number ends in front of a separator. -/
theorem readToken_append_plain (plain : c ∉ reserved)
    (read : readToken position c body = .ok (token, behind)) (ends : EndsToken rest)
    (position' : Nat) :
    ∃ stop, readToken position' c (body ++ rest) = .ok (token, ⟨stop, behind.rest ++ rest⟩) := by
  have noPart : ∀ c ∈ rest.head?, isNamePart c = false :=
    fun c member => not_isNamePart_of_separator (ends c member)
  rw [readToken_plain plain] at read ⊢
  split at read
  · next start =>
    cases read
    rw [if_pos start, takeWhile_append_stop noPart, dropWhile_append_stop noPart]
    exact ⟨_, rfl⟩
  · next start =>
    rw [if_neg start]
    split at read
    · next digit =>
      cases read
      have within := numberLength_le (c :: body)
      rw [if_pos digit, ← List.cons_append, numberLength_append ends,
        List.take_append_of_le_length within,
        List.drop_append_of_le_length (Nat.sub_le_of_le_add within)]
      exact ⟨_, rfl⟩
    · cases read

/-- A symbol does not become longer in front of a separator. -/
theorem readToken_append_symbol (sign : c ∈ reserved) (noQuote : ¬(c = '"' ∨ c = '\''))
    (read : readToken position c body = .ok (token, behind)) (ends : EndsToken rest)
    (position' : Nat) :
    ∃ stop, readToken position' c (body ++ rest) = .ok (token, ⟨stop, behind.rest ++ rest⟩) := by
  have samePair : (body ++ rest).head?.bind (pairSymbol? c) = body.head?.bind (pairSymbol? c) := by
    cases body with
    | nil => exact pairSymbol?_of_ends ends c
    | cons d body => rfl
  have noName : ¬isNameStart c = true := mt notMem_reserved_of_isNameStart (not_not_intro sign)
  have noDigit : ¬c.isDigit = true := mt notMem_reserved_of_isDigit (not_not_intro sign)
  have noString : ¬(c = '"' || c = '\'') = true := by simpa using noQuote
  simp only [readToken, if_neg noName, if_neg noDigit, if_neg noString] at read ⊢
  rw [samePair]
  cases pair : body.head?.bind (pairSymbol? c) with
  | some symbol =>
    rw [pair] at read
    cases read
    cases body with
    | nil => cases pair
    | cons d body => exact ⟨_, rfl⟩
  | none =>
    rw [pair] at read
    dsimp only at read ⊢
    split at read
    · cases read
    · next operator =>
      rw [if_neg operator]
      cases single : singleSymbol? c with
      | some symbol =>
        rw [single] at read
        cases read
        exact ⟨_, rfl⟩
      | none =>
        rw [single] at read
        cases read

/-- A token that is read from a text is read also in front of other text that ends it. -/
theorem readToken_append (read : readToken position c body = .ok (token, behind))
    (ends : EndsToken rest) (position' : Nat) :
    ∃ stop, readToken position' c (body ++ rest) = .ok (token, ⟨stop, behind.rest ++ rest⟩) := by
  by_cases plain : c ∉ reserved
  · exact readToken_append_plain plain read ends position'
  · by_cases isQuote : c = '"' ∨ c = '\''
    · exact readToken_append_quoted isQuote read rest position'
    · exact readToken_append_symbol (not_not.mp plain) isQuote read ends position'

end

/-! ## Scripts -/

theorem scanFrom_skip {gap : List Char} (isGap : IsGap gap) (position : Nat) (rest : List Char) :
    scanFrom position (gap ++ rest) = scanFrom (position + gap.length) rest := by
  rw [scanFrom_eq, scanFrom_eq, List.takeWhile_append_of_pos isGap.separators,
    List.dropWhile_append_of_pos isGap.separators, List.length_append, Nat.add_assoc]

/-- The tokens of two texts, of which the second begins with a separator, are those of the first and
then those of the second. The induction is on the first text: each of its tokens is read as
before. -/
theorem scanFrom_append {text rest : List Char} {others : List Token} {position : Nat}
    (complete : (scanFrom position text).Complete) (ends : EndsToken rest)
    (behind : ∀ position, (scanFrom position rest).Complete ∧
      (scanFrom position rest).tokens = others) (position' : Nat) :
    (scanFrom position' (text ++ rest)).Complete ∧ (scanFrom position' (text ++ rest)).tokens =
      (scanFrom position text).tokens.dropLast ++ others := by
  induction length : text.length using Nat.strong_induction_on
    generalizing text position position' with
  | _ bound ih =>
    have parts := List.takeWhile_append_dropWhile (p := isSeparator) (l := text)
    have isGap : IsGap (text.takeWhile isSeparator) := fun c member =>
      isSeparator_iff.mp (List.mem_takeWhile_imp member)
    generalize text.takeWhile isSeparator = gap at parts isGap
    cases solid : text.dropWhile isSeparator with
    | nil =>
      rw [solid, List.append_nil] at parts
      subst parts
      rw [scanFrom_gap isGap, scanFrom_skip isGap]
      exact behind _
    | cons c tail =>
      have begins : isSeparator c = false := by
        have := List.head?_dropWhile_not isSeparator text
        rw [solid] at this
        simpa using this
      rw [solid] at parts
      subst parts
      cases read : readToken (position + gap.length) c tail with
      | error error =>
        rw [scanFrom_solid isGap begins, read] at complete
        cases complete
      | ok found =>
        obtain ⟨token, after⟩ := found
        rw [scanFrom_token isGap begins read] at complete ⊢
        obtain ⟨stop, onward⟩ := readToken_append read ends (position' + gap.length)
        have inner : (scanFrom after.stop after.rest).Complete := complete
        have shorter : after.rest.length < bound := by
          have := readToken_length read
          rw [← length, List.length_append, List.length_cons]
          omega
        obtain ⟨wholeComplete, wholeTokens⟩ := ih _ shorter inner stop rfl
        rw [List.append_assoc, List.cons_append, scanFrom_token isGap begins onward]
        refine ⟨wholeComplete, ?_⟩
        rw [tokens_more, tokens_more, wholeTokens, List.dropLast_cons_of_ne_nil inner.tokens_ne_nil,
          List.cons_append]

/-- The tokens of a text do not depend on the position where it begins. -/
theorem scanFrom_anywhere {text : List Char} {position : Nat}
    (complete : (scanFrom position text).Complete) (position' : Nat) :
    (scanFrom position' text).Complete ∧
      (scanFrom position' text).tokens = (scanFrom position text).tokens := by
  have ended (start : Nat) : (scanFrom start []).Complete ∧
      (scanFrom start []).tokens = [.endOfScript] := by
    rw [scanFrom_gap (show IsGap [] by decide)]
    exact ⟨rfl, rfl⟩
  have ends : EndsToken [] := fun c member => nomatch member
  have whole := scanFrom_append complete ends ended position'
  rw [List.append_nil] at whole
  exact ⟨whole.1, whole.2.trans complete.tokens_eq.symm⟩

end DerivedFields.Script

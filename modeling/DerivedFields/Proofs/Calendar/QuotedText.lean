import Mathlib.Data.List.Infix
import DerivedFields.Calendar.Mask
import DerivedFields.Proofs.Stateful
import DerivedFields.Proofs.Text.Enclosed

/-!
# Quoted text in date masks

A mask is compiled from left to right, and a quote ends a run of letters. So a mask in front of a
quote is compiled as it is on its own, unless its last character is a quote too: then the two are read
as one. Behind an opening quote each doubled quote is a quote of the text. At the start of the text
they are read as literals of their own, a pair for each quote, until another character follows.
-/

namespace DerivedFields

open Stateful (map_eq_ok)

variable {mask : String} {input text rest behind : List Char} {c : Char}
  {items others : List MaskItem}

/-! ## The items of a mask -/

/-- The items that a mask stands for, one literal in quotes, run of letters or other character after
the other. -/
inductive Compiles : List Char → List MaskItem → Prop
  | nil : Compiles [] []
  | quote {rest text behind : List Char} {items : List MaskItem}
    (read : readLiteral? rest = some (text, behind)) (onward : Compiles behind items) :
    Compiles ('\'' :: rest) (text.map .literal ++ items)
  | letter {c : Char} {rest : List Char} {field : DateField} {items : List MaskItem}
    (isLetter : c.isAlpha = true)
    (named : DateField.ofRun? c ((rest.takeWhile (· == c)).length + 1) = some field)
    (onward : Compiles (rest.dropWhile (· == c)) items) :
    Compiles (c :: rest) (.field field :: items)
  | other {c : Char} {rest : List Char} {items : List MaskItem} (noLetter : c.isAlpha = false)
    (noQuote : c ≠ '\'') (onward : Compiles rest items) : Compiles (c :: rest) (.literal c :: items)

private theorem ne_quote_of_isAlpha (isLetter : c.isAlpha = true) : c ≠ '\'' := by
  rintro rfl
  exact absurd isLetter (by decide)

private theorem quotedText?_suffix (read : quotedText? input = some (text, behind)) :
    behind <:+ input := by
  fun_induction quotedText? input generalizing text behind with
  | case1 => cases read
  | case2 rest ih =>
    obtain ⟨⟨first, second⟩, inner, same⟩ := Option.map_eq_some_iff.mp read
    cases same
    exact (ih inner).trans ⟨['\'', '\''], rfl⟩
  | case3 rest _ =>
    cases read
    exact List.suffix_cons _ _
  | case4 c rest _ _ ih =>
    obtain ⟨⟨first, second⟩, inner, same⟩ := Option.map_eq_some_iff.mp read
    cases same
    exact (ih inner).trans (List.suffix_cons _ _)

private theorem readLiteral?_suffix (read : readLiteral? input = some (text, behind)) :
    behind <:+ input := by
  unfold readLiteral? at read
  split at read
  · cases read
    exact List.suffix_cons _ _
  · exact quotedText?_suffix read

/-- The quote that closes a literal is followed by another character, so what comes later does not
make it a doubled one. -/
theorem quotedText?_append (ends : ¬['\''] <:+ input) (more : List Char)
    (read : quotedText? input = some (text, behind)) :
    quotedText? (input ++ more) = some (text, behind ++ more) := by
  fun_induction quotedText? input generalizing text behind with
  | case1 => cases read
  | case2 rest ih =>
    obtain ⟨⟨first, second⟩, inner, same⟩ := Option.map_eq_some_iff.mp read
    cases same
    have onward := ih (fun last => ends (last.trans ⟨['\'', '\''], rfl⟩)) inner
    rw [List.cons_append, List.cons_append, quotedText?, onward]
    rfl
  | case3 rest single =>
    cases read
    cases rest with
    | nil => exact absurd (List.suffix_refl _) ends
    | cons c rest =>
      rw [List.cons_append, List.cons_append, quotedText?]
      rintro rest' ⟨⟩
      exact single rest rfl
  | case4 c rest noPair noQuote ih =>
    obtain ⟨⟨first, second⟩, inner, same⟩ := Option.map_eq_some_iff.mp read
    cases same
    have onward := ih (fun last => ends (last.trans (List.suffix_cons _ _))) inner
    rw [List.cons_append, quotedText?, onward]
    · rfl
    · exact fun rest' same _ => noQuote same
    · exact noQuote

private theorem readLiteral?_append (ends : ¬['\''] <:+ input) (more : List Char)
    (read : readLiteral? input = some (text, behind)) :
    readLiteral? (input ++ more) = some (text, behind ++ more) := by
  cases input with
  | nil => cases read
  | cons c rest =>
    by_cases quote : c = '\''
    · subst quote
      cases read
      rfl
    · have alone (rest : List Char) : readLiteral? (c :: rest) = quotedText? (c :: rest) := by
        rw [readLiteral?]
        exact fun _ same => quote (List.cons.inj same).1
      rw [List.cons_append, alone, ← List.cons_append]
      rw [alone] at read
      exact quotedText?_append ends more read

/-- A run of letters ends at a quote. -/
private theorem run_append (letter : c ≠ '\'') (rest more : List Char) :
    (rest ++ '\'' :: more).takeWhile (· == c) = rest.takeWhile (· == c) ∧
      (rest ++ '\'' :: more).dropWhile (· == c) = rest.dropWhile (· == c) ++ '\'' :: more := by
  have stop : ('\'' == c) = false := beq_false_of_ne (Ne.symm letter)
  induction rest with
  | nil => simp only [List.nil_append, List.takeWhile_cons, List.dropWhile_cons, stop,
      Bool.false_eq_true, if_false, List.takeWhile_nil, List.dropWhile_nil, and_self]
  | cons d rest ih =>
    cases same : d == c
    · simp only [List.cons_append, List.takeWhile_cons, List.dropWhile_cons, same,
        Bool.false_eq_true, if_false, and_self]
    · simp only [List.cons_append, List.takeWhile_cons, List.dropWhile_cons, same, if_true, ih,
        and_self]

private theorem Compiles.append (compiles : Compiles input items) (ends : ¬['\''] <:+ input)
    {more : List Char} (onward : Compiles ('\'' :: more) others) :
    Compiles (input ++ '\'' :: more) (items ++ others) := by
  induction compiles with
  | nil => exact onward
  | quote read _ ih =>
    have inside := ends ∘ fun last => List.IsSuffix.trans last (List.suffix_cons _ _)
    have later := inside ∘ fun last => List.IsSuffix.trans last (readLiteral?_suffix read)
    rw [List.append_assoc]
    exact .quote (readLiteral?_append inside _ read) (ih later)
  | @letter c rest field items isLetter named _ ih =>
    obtain ⟨run, left⟩ := run_append (ne_quote_of_isAlpha isLetter) rest more
    have later := ih fun last =>
      ends (last.trans ((List.dropWhile_suffix _).trans (List.suffix_cons _ _)))
    rw [← left] at later
    rw [← run] at named
    exact .letter isLetter named later
  | other noLetter noQuote _ ih =>
    exact .other noLetter noQuote (ih fun last => ends (last.trans (List.suffix_cons _ _)))

/-! ## Text in quotes -/

private theorem quotedText?_doubled (starts : ¬['\''] <+: rest) (text : List Char) :
    quotedText? (Text.doubled '\'' text ++ '\'' :: rest) = some (text, rest) := by
  induction text with
  | nil =>
    rw [Text.doubled_nil, List.nil_append, quotedText?]
    rintro behind rfl
    exact starts ⟨behind, rfl⟩
  | cons c text ih =>
    by_cases quote : c = '\''
    · subst quote
      rw [Text.doubled_quote, List.cons_append, List.cons_append, quotedText?, ih]
      rfl
    · rw [Text.doubled_cons quote, List.cons_append, quotedText?, ih]
      · rfl
      · exact fun _ same _ => quote same
      · exact quote

/-- Text in quotes stands for its characters, if one of them is no quote. -/
theorem Compiles.enclose (starts : ¬['\''] <+: rest) (onward : Compiles rest items)
    (other : ∃ c ∈ text, c ≠ '\'') :
    Compiles (Text.enclose '\'' text ++ rest) (text.map .literal ++ items) := by
  induction text with
  | nil =>
    obtain ⟨c, member, -⟩ := other
    cases member
  | cons c text ih =>
    by_cases quote : c = '\''
    -- an opening quote and the first of the pair are read as a literal quote, the second one opens
    · subst quote
      have later : ∃ c ∈ text, c ≠ '\'' := by simpa using other
      have behind := ih later
      rw [Text.enclose_append] at behind ⊢
      rw [Text.doubled_quote]
      have pair (more : List Char) : readLiteral? ('\'' :: more) = some (['\''], more) := rfl
      have step := Compiles.quote (pair _) behind
      exact step
    · have read := quotedText?_doubled starts (c :: text)
      rw [Text.enclose_append]
      refine .quote ?_ onward
      rw [← read, Text.doubled_cons quote, List.cons_append, readLiteral?]
      exact fun _ same => quote (List.cons.inj same).1

/-! ## What is written -/

end DerivedFields

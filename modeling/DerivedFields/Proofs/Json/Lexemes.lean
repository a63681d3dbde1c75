import DerivedFields.Json.Reader
import DerivedFields.Json.Writer
import DerivedFields.Proofs.Json.Integers
import DerivedFields.Text.Search

/-!
# Reading back numbers and strings

An integer of 64 bits is written with all its digits and no zero in front, and the reader takes them
all, since none of what may follow a value goes on with a number. A string is written with its
quotes, backslashes and control characters escaped, and the reader takes each escape for the
character that it stands for.
-/

namespace DerivedFields.Json

/-- A reader has a result and leaves a rest. -/
def Yields {α : Type} {input : List Char} (read : Option (Read α input)) (result : α)
    (rest : List Char) : Prop := ∃ shorter, read = some ⟨result, rest, shorter⟩

/-! ## Numbers -/

/-- Text in front of which a number ends. -/
def EndsNumber (rest : List Char) : Prop :=
  ∀ c ∈ rest.head?, c.isDigit = false ∧ c ≠ '.' ∧ c ≠ 'e' ∧ c ≠ 'E'

theorem endsNumber_nil : EndsNumber [] := fun _ member => absurd member (by simp)

theorem endsNumber_cons {c : Char} (ends : c.isDigit = false ∧ c ≠ '.' ∧ c ≠ 'e' ∧ c ≠ 'E')
    (rest : List Char) : EndsNumber (c :: rest) := by
  intro d member
  obtain rfl := Option.some.inj member
  exact ends

/-- The values of digits. -/
def valuesOf (digits : List Char) : List Nat := digits.map fun c => c.toNat - '0'.toNat

/-- Digits of which the first is a zero only if it stands alone. -/
structure WholeDigits (digits : List Char) : Prop where
  nonempty : digits ≠ []
  all : ∀ c ∈ digits, c.isDigit = true
  alone : digits.head? = some '0' → digits = ['0']

/-- A text is nothing, or a point and digits. -/
inductive SpellsFraction : Option (List Nat) → List Char → Prop
  | absent : SpellsFraction none []
  | present {digits : List Char} (nonempty : digits ≠ []) (all : ∀ c ∈ digits, c.isDigit = true) :
    SpellsFraction (some (valuesOf digits)) ('.' :: digits)

/-- A text is nothing, or the mark of an exponent, a sign or none, and digits. -/
inductive SpellsExponent : Option (Bool × List Nat) → List Char → Prop
  | absent : SpellsExponent none []
  | present {mark : Char} {sign digits : List Char} {negative : Bool}
    (marked : mark = 'e' ∨ mark = 'E')
    (signed : (sign, negative) ∈ [([], false), (['+'], false), (['-'], true)])
    (nonempty : digits ≠ []) (all : ∀ c ∈ digits, c.isDigit = true) :
    SpellsExponent (some (negative, valuesOf digits)) (mark :: (sign ++ digits))

/-- A text spells a number literal. -/
inductive SpellsLiteral : JsonNumber.Literal → List Char → Prop
  | mk (negative : Bool) {whole fraction exponent : List Char} {places : Option (List Nat)}
    {power : Option (Bool × List Nat)} (digits : WholeDigits whole)
    (behind : SpellsFraction places fraction) (scaled : SpellsExponent power exponent) :
    SpellsLiteral ⟨negative, valuesOf whole, places, power⟩
      ((if negative then ['-'] else []) ++ (whole ++ (fraction ++ exponent)))

section

variable {digits text rest : List Char}

private theorem readDigits_append (all : ∀ c ∈ digits, c.isDigit = true)
    (ends : ∀ c ∈ rest.head?, c.isDigit = false) :
    readDigits (digits ++ rest) = (valuesOf digits, rest) := by
  rw [readDigits, Text.takeWhile_append all ends, Text.dropWhile_append all ends, valuesOf]

private theorem valuesOf_ne_nil (nonempty : digits ≠ []) : valuesOf digits ≠ [] := by
  rwa [valuesOf, ne_eq, List.map_eq_nil_iff]

theorem valuesOf_lt (all : ∀ c ∈ digits, c.isDigit = true) :
    ∀ digit ∈ valuesOf digits, digit < 10 := by
  intro digit member
  obtain ⟨c, inText, rfl⟩ := List.mem_map.mp member
  obtain ⟨least, most⟩ := Text.toNat_of_isDigit (all c inText)
  have code : '0'.toNat = 48 := rfl
  omega

/-- Only the digit zero has the value zero. -/
private theorem eq_zero_of_value {c : Char} (digit : c.isDigit = true)
    (zero : c.toNat - '0'.toNat = 0) : c = '0' := by
  obtain ⟨least, -⟩ := Text.toNat_of_isDigit digit
  have code : '0'.toNat = 48 := rfl
  exact Char.toNat_inj.mp (by omega)

private theorem WholeDigits.read (whole : WholeDigits digits)
    (ends : ∀ c ∈ rest.head?, c.isDigit = false) :
    readWhole? (digits ++ rest) = some (valuesOf digits, rest) := by
  rw [readWhole?, readDigits_append whole.all ends]
  split
  · rename_i found
    exact absurd (Prod.mk.inj found).1 (valuesOf_ne_nil whole.nonempty)
  · rename_i second others behind found
    -- two digits of which the first is a zero
    obtain ⟨first, tail, rfl⟩ := List.exists_cons_of_ne_nil whole.nonempty
    have values := (Prod.mk.inj found).1
    rw [valuesOf, List.map_cons] at values
    obtain ⟨zero, more⟩ := List.cons.inj values
    obtain rfl := eq_zero_of_value (whole.all first List.mem_cons_self) zero
    cases whole.alone rfl
    cases more
  · rename_i found
    obtain ⟨rfl, rfl⟩ := Prod.mk.inj found
    rfl

private theorem readSign_digits {sign : List Char} {negative : Bool}
    (signed : (sign, negative) ∈ [([], false), (['+'], false), (['-'], true)])
    (nonempty : digits ≠ []) (all : ∀ c ∈ digits, c.isDigit = true) (rest : List Char) :
    readSign (sign ++ digits ++ rest) = (negative, digits ++ rest) := by
  simp only [List.mem_cons, Prod.mk.injEq, List.not_mem_nil, or_false] at signed
  rcases signed with ⟨rfl, rfl⟩ | ⟨rfl, rfl⟩ | ⟨rfl, rfl⟩
  · obtain ⟨first, tail, rfl⟩ := List.exists_cons_of_ne_nil nonempty
    have digit := all first List.mem_cons_self
    have minus : first ≠ '-' := by
      rintro rfl
      exact absurd digit (by decide)
    have plus : first ≠ '+' := by
      rintro rfl
      exact absurd digit (by decide)
    simp [readSign, minus, plus]
  · rfl
  · rfl

/-- An exponent begins with a letter, so the number before it ends there. -/
theorem SpellsExponent.head {power : Option (Bool × List Nat)} (spelled : SpellsExponent power text)
    (ends : EndsNumber rest) : ∀ c ∈ (text ++ rest).head?, c.isDigit = false ∧ c ≠ '.' := by
  cases spelled with
  | absent =>
    intro c member
    exact ⟨(ends c member).1, (ends c member).2.1⟩
  | present marked =>
    rintro c ⟨rfl⟩
    rcases marked with rfl | rfl <;> decide

private theorem SpellsExponent.read {power : Option (Bool × List Nat)}
    (spelled : SpellsExponent power text)
    (ends : EndsNumber rest) : readExponent? (text ++ rest) = some (power, rest) := by
  cases spelled with
  | absent =>
    cases rest with
    | nil => rfl
    | cons c tail =>
      obtain ⟨-, -, small, capital⟩ := ends c rfl
      simp [readExponent?, small, capital]
  | @present mark sign digits negative marked signed nonempty all =>
    have first : (mark = 'e' || mark = 'E') = true := by simpa using marked
    have behind := readDigits_append all fun c member => (ends c member).1
    have values := valuesOf_ne_nil nonempty
    rw [List.cons_append, readExponent?]
    simp only [first, if_true, readSign_digits signed nonempty all, behind]

private theorem SpellsFraction.read {places : Option (List Nat)} (spelled : SpellsFraction places text)
    (ends : ∀ c ∈ rest.head?, c.isDigit = false ∧ c ≠ '.') :
    readFraction? (text ++ rest) = some (places, rest) := by
  cases spelled with
  | absent =>
    rw [List.nil_append, readFraction?]
    rintro tail rfl
    exact (ends '.' rfl).2 rfl
  | @present digits nonempty all =>
    have behind := readDigits_append all fun c member => (ends c member).1
    have values := valuesOf_ne_nil nonempty
    rw [List.cons_append, readFraction?]
    simp only [behind]

private theorem SpellsFraction.head {places : Option (List Nat)} (spelled : SpellsFraction places text)
    (ends : ∀ c ∈ rest.head?, c.isDigit = false ∧ c ≠ '.') :
    ∀ c ∈ (text ++ rest).head?, c.isDigit = false := by
  cases spelled with
  | absent => exact fun c member => (ends c member).1
  | present =>
    rintro c ⟨rfl⟩
    decide

/-- A number literal is read as what it spells. -/
theorem SpellsLiteral.read {literal : JsonNumber.Literal} (spelled : SpellsLiteral literal text)
    (ends : EndsNumber rest) : readLiteral? (text ++ rest) = some (literal, rest) := by
  obtain ⟨negative, digits, behind, scaled⟩ := spelled
  rename_i whole fraction exponent places power
  have before := scaled.head ends
  have wholeRead := digits.read (behind.head before)
  have fractionRead := behind.read before
  have exponentRead := scaled.read ends
  cases negative with
  | true =>
    simp only [if_true, List.cons_append, List.nil_append, List.append_assoc, readLiteral?,
      wholeRead, fractionRead, exponentRead, Option.bind_eq_bind, Option.bind_some]
  | false =>
    -- digits do not begin with a sign, so the literal has none
    have unsigned : ∀ tail, whole ++ (fraction ++ (exponent ++ rest)) = '-' :: tail → False := by
      intro tail begins
      rw [begins] at wholeRead
      cases wholeRead
    simp only [Bool.false_eq_true, if_false, List.nil_append, List.append_assoc, readLiteral?,
      wholeRead, fractionRead, exponentRead, Option.bind_eq_bind, Option.bind_some]

end

/-- The values of the digits of a natural number. -/
def digitsOf (n : Nat) : List Nat := valuesOf (Nat.toDigits 10 n)

private theorem ofDigits_digitsOf (n : Nat) : JsonNumber.ofDigits (digitsOf n) = n := by
  have value : Nat.ofDigitChars 10 (Nat.toDigits 10 n) 0 = n := Nat.ofDigitChars_ten_toDigits
  rw [JsonNumber.ofDigits, digitsOf, valuesOf, List.foldl_map]
  simp only [Nat.ofDigitChars, Nat.mul_comm 10] at value
  exact value

private theorem digitsOf_ne_nil (n : Nat) : digitsOf n ≠ [] := valuesOf_ne_nil Nat.toDigits_ne_nil

private theorem digitsOf_of_lt {n : Nat} (small : n < 10) : digitsOf n = [n] := by
  rw [digitsOf, Nat.toDigits_of_lt_base small, valuesOf, List.map_singleton]
  exact congrArg (fun digit => [digit]) (Nat.toNat_digitChar_sub_48_of_lt_ten small)

private theorem digitsOf_of_le {n : Nat} (large : 10 ≤ n) :
    digitsOf n = digitsOf (n / 10) ++ [n % 10] := by
  have last : n % 10 < 10 := Nat.mod_lt n (by decide)
  rw [digitsOf, Nat.toDigits_of_base_le (by decide) large, valuesOf, List.map_append,
    List.map_singleton]
  exact congrArg (fun digit => digitsOf (n / 10) ++ [digit])
    (Nat.toNat_digitChar_sub_48_of_lt_ten last)

/-- Only zero begins with a zero. -/
theorem eq_zero_of_digitsOf {n : Nat} {rest : List Nat} (zero : digitsOf n = 0 :: rest) :
    n = 0 := by
  induction n using Nat.strongRecOn generalizing rest with
  | ind n ih =>
    by_cases small : n < 10
    · rw [digitsOf_of_lt small] at zero
      exact (List.cons.inj zero).1
    · have large : 10 ≤ n := by omega
      rw [digitsOf_of_le large] at zero
      cases front : digitsOf (n / 10) with
      | nil => exact absurd front (digitsOf_ne_nil _)
      | cons digit others =>
        rw [front, List.cons_append] at zero
        obtain ⟨rfl, -⟩ := List.cons.inj zero
        have := ih (n / 10) (by omega) front
        omega

private theorem wholeDigits_toDigits (n : Nat) : WholeDigits (Nat.toDigits 10 n) where
  nonempty := Nat.toDigits_ne_nil
  all := fun _ member => Nat.isDigit_of_mem_toDigits (by decide) (by decide) member
  alone := by
    intro first
    obtain ⟨rest, written⟩ := List.head?_eq_some_iff.mp first
    have zero : digitsOf n = 0 :: valuesOf rest := by
      rw [digitsOf, written]
      rfl
    obtain rfl := eq_zero_of_digitsOf zero
    rfl

/-- The literal that an integer is written as. -/
def literalOf (n : Int) : JsonNumber.Literal := ⟨decide (n < 0), digitsOf n.natAbs, none, none⟩

theorem spellsLiteral_integerText (n : Int) :
    SpellsLiteral (literalOf n) (JsonNumber.integerText n) := by
  have spelled := SpellsLiteral.mk (decide (n < 0)) (wholeDigits_toDigits n.natAbs) .absent .absent
  simpa only [literalOf, digitsOf, JsonNumber.integerText, List.append_nil, decide_eq_true_eq]
    using spelled

theorem isInteger_literalOf (n : Int) : (literalOf n).IsInteger n where
  fraction := rfl
  exponent := rfl
  digits := valuesOf_lt (wholeDigits_toDigits n.natAbs).all
  value := by
    rw [literalOf, ofDigits_digitsOf]
    simp only [decide_eq_true_eq]
    omega

theorem integer?_literalOf (n : Int) : (literalOf n).integer? = some n :=
  congrArg some (isInteger_literalOf n).value.symm

theorem toNumber?_literalOf {n : Int} (fits : Fits n) :
    (literalOf n).toNumber? = some (.integer n) := by
  apply JsonNumber.Literal.toNumber?_of_fits (isInteger_literalOf n) fits
  intro negative
  have below : n < 0 := of_decide_eq_true negative
  omega

/-! ## Strings -/

private theorem hexDigit?_hexDigits : ∀ n < 16, Script.hexDigit? (hexDigits n) = some n := by decide

/-- Characters are spelled by their codes. -/
theorem charactersOf?_codes (text : List Char) :
    charactersOf? (text.map Char.toNat) = some text := by
  induction text with
  | nil => rfl
  | cons c rest ih =>
    cases rest with
    | nil => rw [List.map_singleton, charactersOf?, Script.charOfCode?_toNat, Option.map_some]
    | cons next rest =>
      rw [List.map_cons, List.map_cons, charactersOf?, Script.charOfCode?_toNat, ← List.map_cons]
      simp only [ih, Option.map_some]

theorem textOf?_codes (text : String) : textOf? (text.toList.map Char.toNat) = some text := by
  rw [textOf?, charactersOf?_codes, Option.map_some, String.ofList_toList]

private theorem unit?_hexDigits {n : Nat} (small : n < 0x20) :
    unit? '0' '0' (hexDigits (n / 16)) (hexDigits (n % 16)) = some n := by
  have zero : Script.hexDigit? '0' = some 0 := by decide
  have high := hexDigit?_hexDigits (n / 16) (by omega)
  have low := hexDigit?_hexDigits (n % 16) (by omega)
  have value : (0 * 16 + 0) * 256 + n / 16 * 16 + n % 16 = n := by omega
  simp only [unit?, zero, high, low, Option.bind_eq_bind, Option.bind_some, value]

/-- Characters and escapes spell codes. -/
inductive SpellsCodes : List Nat → List Char → Prop
  | nil : SpellsCodes [] []
  | plain {c : Char} {codes : List Nat} {text : List Char} (quote : c ≠ '"') (backslash : c ≠ '\\')
    (visible : ¬c.toNat < 0x20) (onward : SpellsCodes codes text) :
    SpellsCodes (c.toNat :: codes) (c :: text)
  | letter {e decoded : Char} {codes : List Nat} {text : List Char}
    (escape : letterEscape? e = some decoded) (onward : SpellsCodes codes text) :
    SpellsCodes (decoded.toNat :: codes) ('\\' :: e :: text)
  | unit {a b c d : Char} {code : Nat} {codes : List Nat} {text : List Char}
    (escape : unit? a b c d = some code) (onward : SpellsCodes codes text) :
    SpellsCodes (code :: codes) ('\\' :: 'u' :: a :: b :: c :: d :: text)

/-- A reader passes over an escape, and finds its code. -/
theorem readCodes?_escape {input behind rest : List Char} {code : Nat} {codes : List Nat}
    (escape : readEscape? input = some (code, behind))
    (onward : Yields (readCodes? behind) codes rest) :
    Yields (readCodes? ('\\' :: input)) (code :: codes) rest := by
  obtain ⟨shorter, found⟩ := onward
  have noQuote : '\\' ≠ '"' := by decide
  rw [readCodes?]
  simp only [noQuote, if_false, if_true]
  split
  · rename_i refused
    rw [escape] at refused
    cases refused
  · rename_i code behind accepted
    rw [escape] at accepted
    cases accepted
    rw [found, Option.map_some]
    exact ⟨_, rfl⟩

/-- The codes of a string are read up to its closing quote. -/
theorem SpellsCodes.read {codes : List Nat} {text : List Char} (spelled : SpellsCodes codes text)
    (rest : List Char) : Yields (readCodes? (text ++ '"' :: rest)) codes rest := by
  induction spelled with
  | nil =>
    rw [List.nil_append]
    exact ⟨_, by rw [readCodes?, if_pos rfl]⟩
  | plain quote backslash visible _ ih =>
    obtain ⟨shorter, found⟩ := ih
    rw [List.cons_append, readCodes?]
    simp only [quote, backslash, visible, if_false, found, Option.map_some]
    exact ⟨_, rfl⟩
  | @letter e decoded codes text escape _ ih =>
    have noUnit : e ≠ 'u' := by
      rintro rfl
      cases escape
    have read : readEscape? (e :: (text ++ '"' :: rest)) =
        some (decoded.toNat, text ++ '"' :: rest) := by
      simp [readEscape?, noUnit, escape]
    exact readCodes?_escape read ih
  | @unit a b c d code codes text escape _ ih =>
    have read : readEscape? ('u' :: a :: b :: c :: d :: (text ++ '"' :: rest)) =
        some (code, text ++ '"' :: rest) := by
      simp only [readEscape?, escape, Option.map_some]
    exact readCodes?_escape read ih

/-- A character is written as an escape that stands for it, or as itself if it needs none. -/
theorem SpellsCodes.escapeChar (c : Char) {codes : List Nat} {text : List Char}
    (onward : SpellsCodes codes text) :
    SpellsCodes (c.toNat :: codes) (escapeChar c ++ text) := by
  by_cases quote : c = '"'
  · subst quote
    exact .letter (e := '"') rfl onward
  by_cases backslash : c = '\\'
  · subst backslash
    exact .letter (e := '\\') rfl onward
  by_cases backspace : c = '\x08'
  · subst backspace
    exact .letter (e := 'b') rfl onward
  by_cases pageBreak : c = '\x0c'
  · subst pageBreak
    exact .letter (e := 'f') rfl onward
  by_cases lineBreak : c = '\n'
  · subst lineBreak
    exact .letter (e := 'n') rfl onward
  by_cases carriageReturn : c = '\r'
  · subst carriageReturn
    exact .letter (e := 'r') rfl onward
  by_cases tab : c = '\t'
  · subst tab
    exact .letter (e := 't') rfl onward
  by_cases control : c.toNat < 0x20
  · have spelled : Json.escapeChar c =
        ['\\', 'u', '0', '0', hexDigits (c.toNat / 16), hexDigits (c.toNat % 16)] := by
      simp only [Json.escapeChar, quote, backslash, backspace, pageBreak, lineBreak, carriageReturn,
        tab, control, if_true, if_false]
    rw [spelled]
    exact .unit (unit?_hexDigits control) onward
  · have spelled : Json.escapeChar c = [c] := by
      simp only [Json.escapeChar, quote, backslash, backspace, pageBreak, lineBreak, carriageReturn,
        tab, control, if_false]
    rw [spelled]
    exact .plain quote backslash control onward

/-- What is written of a string spells the codes of its characters. -/
theorem spellsCodes_escaped (text : List Char) :
    SpellsCodes (text.map Char.toNat) (text.flatMap escapeChar) := by
  induction text with
  | nil => exact .nil
  | cons c text ih =>
    rw [List.flatMap_cons, List.map_cons]
    exact ih.escapeChar c

end DerivedFields.Json

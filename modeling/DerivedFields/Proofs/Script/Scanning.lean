import Mathlib.Data.List.TakeWhile
import DerivedFields.Proofs.Script.Spelling
import DerivedFields.Script.Lexer
import DerivedFields.Text.Search

/-!
# Spelled tokens are read back

Whatever spelling is chosen for each token and for each character of a string, the scanner finds the
tokens again. A token is read from the text in front of which it stands: a string ends at its
closing quote, a name or a number at the first character that cannot go on with it, and a separator
goes on with neither.
-/

namespace DerivedFields.Script

/-- Text in front of which a token ends: a separator or nothing. -/
def EndsToken (rest : List Char) : Prop := ∀ c ∈ rest.head?, isSeparator c = true

theorem isSeparator_iff {c : Char} :
    isSeparator c = true ↔ c = ' ' ∨ c = '\t' ∨ c = '\r' ∨ c = '\n' := by
  simp only [isSeparator, Bool.or_eq_true, beq_iff_eq, or_assoc]

/-! ## Strings -/

private theorem hexDigit?_spelled {value : Nat} (small : value < 0x10) {digit : Char}
    (spelled : SpellsDigit value digit) : hexDigit? digit = some value := by
  have lower : ∀ value < 0x10, hexDigit? value.digitChar = some value := by decide
  have upper : ∀ value < 0x10, hexDigit? value.digitChar.toUpper = some value := by decide
  cases spelled with
  | lower => exact lower value small
  | upper => exact upper value small

private theorem codeEscape?_spelled {c h₁ h₂ h₃ h₄ : Char} (small : c.toNat < 0x10000)
    (first : SpellsDigit (c.toNat / 0x1000) h₁) (second : SpellsDigit (c.toNat / 0x100 % 0x10) h₂)
    (third : SpellsDigit (c.toNat / 0x10 % 0x10) h₃) (fourth : SpellsDigit (c.toNat % 0x10) h₄) :
    codeEscape? h₁ h₂ h₃ h₄ = some c := by
  have digit₁ := hexDigit?_spelled (by omega) first
  have digit₂ := hexDigit?_spelled (Nat.mod_lt _ (by decide)) second
  have digit₃ := hexDigit?_spelled (Nat.mod_lt _ (by decide)) third
  have digit₄ := hexDigit?_spelled (Nat.mod_lt _ (by decide)) fourth
  have code : (c.toNat / 0x1000 * 16 + c.toNat / 0x100 % 0x10) * 256 +
      c.toNat / 0x10 % 0x10 * 16 + c.toNat % 0x10 = c.toNat := by omega
  simp only [codeEscape?, digit₁, digit₂, digit₃, digit₄, Option.bind_eq_bind, Option.bind_some,
    code, charOfCode?_toNat]

private theorem shortEscape?_of_shortLetter? {c letter : Char} (known : shortLetter? c = some letter) :
    letter ≠ 'u' ∧ shortEscape? letter = some c := by
  unfold shortLetter? at known
  split at known
  all_goals cases known
  all_goals exact ⟨by decide, rfl⟩

variable {quote : Char} {opening position : Nat}

theorem readString_quote (rest : List Char) :
    readString quote opening position (quote :: rest) = .ok ([], ⟨position + 1, rest⟩) := by
  rw [readString.eq_def]
  simp only [if_true]

theorem readString_raw {c : Char} (inside : c ≠ quote) (plain : c ≠ '\\') (rest : List Char) :
    readString quote opening position (c :: rest) =
      prepend c (readString quote opening (position + 1) rest) := by
  rw [readString.eq_def]
  simp only [if_neg inside, if_neg plain]

theorem readString_short (escapes : quote ≠ '\\') {c letter : Char} (notCode : letter ≠ 'u')
    (known : shortEscape? letter = some c) (rest : List Char) :
    readString quote opening position ('\\' :: letter :: rest) =
      prepend c (readString quote opening (position + 2) rest) := by
  rw [readString.eq_def]
  simp only [if_neg escapes.symm, if_true, known]

theorem readString_code (escapes : quote ≠ '\\') {c h₁ h₂ h₃ h₄ : Char}
    (known : codeEscape? h₁ h₂ h₃ h₄ = some c) (rest : List Char) :
    readString quote opening position ('\\' :: 'u' :: h₁ :: h₂ :: h₃ :: h₄ :: rest) =
      prepend c (readString quote opening (position + 6) rest) := by
  rw [readString.eq_def]
  simp only [if_neg escapes.symm, if_true, known]

/-- A character is read from any of its spellings. -/
theorem readString_spelling (opening position : Nat) (escapes : quote ≠ '\\') {c : Char}
    {spelling : List Char} (spelled : SpellsChar quote c spelling) (tail : List Char) :
    ∃ next, readString quote opening position (spelling ++ tail) =
      prepend c (readString quote opening next tail) := by
  cases spelled with
  | raw inside plain => exact ⟨position + 1, readString_raw inside plain tail⟩
  | short known =>
    obtain ⟨notCode, escape⟩ := shortEscape?_of_shortLetter? known
    exact ⟨position + 2, readString_short escapes notCode escape tail⟩
  | code small first second third fourth =>
    have escape := codeEscape?_spelled small first second third fourth
    exact ⟨position + 6, readString_code escapes escape tail⟩

/-- A string is read up to its closing quote, whatever stands behind it. -/
theorem readString_spelled (opening position : Nat) (escapes : quote ≠ '\\') {text body : List Char}
    (spelled : SpellsText quote text body) (rest : List Char) :
    ∃ stop, readString quote opening position (body ++ quote :: rest) =
      .ok (text, ⟨stop, rest⟩) := by
  induction spelled generalizing position with
  | nil => exact ⟨position + 1, readString_quote rest⟩
  | @cons c text spelling body first _ ih =>
    obtain ⟨next, read⟩ :=
      readString_spelling opening position escapes first (body ++ quote :: rest)
    obtain ⟨stop, others⟩ := ih next
    refine ⟨stop, ?_⟩
    rw [List.append_assoc, read, others]
    rfl

/-! ## Numbers and names -/

theorem not_isDigit_of_separator {c : Char} (separator : isSeparator c = true) :
    c.isDigit = false := by
  rcases isSeparator_iff.mp separator with rfl | rfl | rfl | rfl <;> decide

theorem not_isNamePart_of_separator {c : Char} (separator : isSeparator c = true) :
    isNamePart c = false := by
  rcases isSeparator_iff.mp separator with rfl | rfl | rfl | rfl <;> decide

private theorem numberLength_integer {digits rest : List Char} (isDigits : IsDigits digits)
    (ends : EndsToken rest) : numberLength (digits ++ rest) = digits.length := by
  have noDigit : ∀ c ∈ rest.head?, c.isDigit = false :=
    fun c member => not_isDigit_of_separator (ends c member)
  simp only [numberLength, Text.takeWhile_append isDigits.2 noDigit, List.drop_left]
  split
  · next tail =>
    have separator : isSeparator '.' = true := ends '.' rfl
    exact absurd separator (by decide)
  · rfl

private theorem numberLength_fraction {whole fraction rest : List Char} (isWhole : IsDigits whole)
    (isFraction : IsDigits fraction) (ends : EndsToken rest) :
    numberLength (whole ++ '.' :: fraction ++ rest) = (whole ++ '.' :: fraction).length := by
  have noDigit : ∀ c ∈ rest.head?, c.isDigit = false :=
    fun c member => not_isDigit_of_separator (ends c member)
  have point : ∀ c ∈ ('.' :: (fraction ++ rest)).head?, c.isDigit = false := by
    rintro _ ⟨⟩
    decide
  have nonempty : fraction.length ≠ 0 := mt List.length_eq_zero_iff.mp isFraction.1
  rw [List.append_assoc, List.cons_append]
  simp only [numberLength, Text.takeWhile_append isWhole.2 point, List.drop_left,
    Text.takeWhile_append isFraction.2 noDigit, if_neg nonempty, List.length_append,
    List.length_cons]
  omega

/-! ## Tokens -/

/-- The characters that begin something else than a name or a number. -/
def reserved : List Char :=
  [' ', '\t', '\r', '\n', '&', '|', '=', '!', '<', '>', '(', ')', ',', '+', '-', '*', '/', '%', '@',
    '"', '\'']

private theorem pairSymbol?_of_notMem {c : Char} (plain : c ∉ reserved) (d : Char) :
    pairSymbol? c d = none := by
  unfold pairSymbol?
  split
  all_goals first
    | rfl
    | exact absurd (by decide) plain

private theorem singleSymbol?_of_notMem {c : Char} (plain : c ∉ reserved) : singleSymbol? c = none := by
  unfold singleSymbol?
  split
  all_goals first
    | rfl
    | exact absurd (by decide) plain

private theorem not_isSeparator_of_notMem {c : Char} (plain : c ∉ reserved) :
    isSeparator c = false := by
  by_contra separator
  rw [Bool.not_eq_false] at separator
  rcases isSeparator_iff.mp separator with rfl | rfl | rfl | rfl
  all_goals exact plain (by decide)

/-- A character that is not reserved begins a name or a number. -/
theorem readToken_plain {c : Char} (plain : c ∉ reserved) (position : Nat) (rest : List Char) :
    readToken position c rest =
      if isNameStart c then
        .ok (nameToken (c :: rest.takeWhile isNamePart),
          ⟨position + (c :: rest.takeWhile isNamePart).length, rest.dropWhile isNamePart⟩)
      else if c.isDigit then
        .ok (.number (String.ofList ((c :: rest).take (numberLength (c :: rest)))),
          ⟨position + numberLength (c :: rest), rest.drop (numberLength (c :: rest) - 1)⟩)
      else .error ⟨.unexpectedCharacter c, position⟩ := by
  have noPair : rest.head?.bind (pairSymbol? c) = none :=
    Option.bind_eq_none_iff.mpr fun d _ => pairSymbol?_of_notMem plain d
  have different : ∀ d ∈ reserved, c ≠ d := fun d member same => plain (same ▸ member)
  have noOperator : (c = '&' || c = '|') = false := by
    simp [different '&' (by decide), different '|' (by decide)]
  have noQuote : (c = '"' || c = '\'') = false := by
    simp [different '"' (by decide), different '\'' (by decide)]
  simp only [readToken, noPair, noOperator, singleSymbol?_of_notMem plain, noQuote,
    Bool.false_eq_true, if_false]

theorem notMem_reserved_of_isNameStart {c : Char} (start : isNameStart c = true) :
    c ∉ reserved := by
  have others : reserved.all (fun d => !isNameStart d) = true := by decide
  intro member
  have noName := List.all_eq_true.mp others c member
  rw [start] at noName
  cases noName

theorem notMem_reserved_of_isDigit {c : Char} (digit : c.isDigit = true) : c ∉ reserved := by
  have others : reserved.all (fun d => !d.isDigit) = true := by decide
  intro member
  have noDigit := List.all_eq_true.mp others c member
  rw [digit] at noDigit
  cases noDigit

private theorem not_isNameStart_of_isDigit {c : Char} (digit : c.isDigit = true) :
    isNameStart c = false := by
  have underscore : c ≠ '_' := by
    rintro rfl
    cases digit
  simp [isNameStart, Text.not_isAlphabetic_of_isDigit digit, underscore]

/-- A name is read up to where no part of a name follows. -/
theorem readToken_name {first : Char} {others rest : List Char} (start : isNameStart first = true)
    (parts : ∀ c ∈ others, isNamePart c = true) (ends : EndsToken rest) (position : Nat) :
    ∃ stop, readToken position first (others ++ rest) =
      .ok (nameToken (first :: others), ⟨stop, rest⟩) := by
  have noPart : ∀ c ∈ rest.head?, isNamePart c = false :=
    fun c member => not_isNamePart_of_separator (ends c member)
  refine ⟨position + (first :: others).length, ?_⟩
  rw [readToken_plain (notMem_reserved_of_isNameStart start), if_pos start,
    Text.takeWhile_append parts noPart, Text.dropWhile_append parts noPart]

/-- A number is read up to where its digits and its fraction end. -/
theorem readToken_number {first : Char} {others rest : List Char} (digit : first.isDigit = true)
    (length : numberLength (first :: others ++ rest) = (first :: others).length) (position : Nat) :
    ∃ stop, readToken position first (others ++ rest) =
      .ok (.number (String.ofList (first :: others)), ⟨stop, rest⟩) := by
  have noName : ¬isNameStart first = true := by
    rw [not_isNameStart_of_isDigit digit]
    exact Bool.false_ne_true
  rw [List.cons_append] at length
  refine ⟨position + (first :: others).length, ?_⟩
  rw [readToken_plain (notMem_reserved_of_isDigit digit), if_neg noName, if_pos digit, length,
    ← List.cons_append, List.take_left, List.length_cons, Nat.add_sub_cancel, List.drop_left]

/-- A quote begins a string and no symbol. -/
theorem readToken_quoted {quote : Char} (isQuote : quote = '"' ∨ quote = '\'') (rest : List Char)
    (position : Nat) :
    readToken position quote rest = (readString quote position (position + 1) rest).map
      fun (text, behind) => (.string (String.ofList text), behind) := by
  have noSingle : singleSymbol? quote = none := by rcases isQuote with rfl | rfl <;> rfl
  have noPair : rest.head?.bind (pairSymbol? quote) = none := by
    refine Option.bind_eq_none_iff.mpr fun d _ => ?_
    rcases isQuote with rfl | rfl <;> rfl
  have noOperator : (quote = '&' || quote = '|') = false := by
    rcases isQuote with rfl | rfl <;> rfl
  have opens : (quote = '"' || quote = '\'') = true := by
    rcases isQuote with rfl | rfl <;> rfl
  simp only [readToken, noPair, noOperator, noSingle, opens, Bool.false_eq_true, if_false, if_true]
  cases readString quote position (position + 1) rest <;> rfl

private theorem readToken_quote {quote : Char} (isQuote : quote = '"' ∨ quote = '\'')
    {text body : List Char} (spelled : SpellsText quote text body) (rest : List Char)
    (position : Nat) :
    ∃ stop, readToken position quote (body ++ quote :: rest) =
      .ok (.string (String.ofList text), ⟨stop, rest⟩) := by
  have escapes : quote ≠ '\\' := by rcases isQuote with rfl | rfl <;> decide
  obtain ⟨stop, read⟩ :=
    readString_spelled position (position + 1) escapes spelled rest
  refine ⟨stop, ?_⟩
  rw [readToken_quoted isQuote, read]
  rfl

/-- What ends a token does not make a symbol of two characters of it. -/
theorem pairSymbol?_of_ends {rest : List Char} (ends : EndsToken rest) (c : Char) :
    rest.head?.bind (pairSymbol? c) = none := by
  rw [Option.bind_eq_none_iff]
  intro d member
  rcases isSeparator_iff.mp (ends d member) with rfl | rfl | rfl | rfl
  all_goals
    unfold pairSymbol?
    split <;> simp_all

theorem readToken_single {c : Char} {sign : Symbol} (known : singleSymbol? c = some sign)
    {rest : List Char} (ends : EndsToken rest) (position : Nat) :
    readToken position c rest = .ok (.symbol sign, ⟨position + 1, rest⟩) := by
  have noPair := pairSymbol?_of_ends ends c
  have noOperator : (c = '&' || c = '|') = false := by
    simp only [Bool.or_eq_false_iff, decide_eq_false_iff_not]
    constructor
    · rintro rfl
      cases known
    · rintro rfl
      cases known
  simp only [readToken, noPair, noOperator, known, Bool.false_eq_true, if_false]

private theorem readToken_pair {c d : Char} {sign : Symbol} (known : pairSymbol? c d = some sign)
    (rest : List Char) (position : Nat) :
    readToken position c (d :: rest) = .ok (.symbol sign, ⟨position + 2, rest⟩) := by
  simp only [readToken, List.head?_cons, Option.bind_some, known, List.tail_cons]

/-- A symbol has one or two characters. -/
theorem spelling_cases (sign : Symbol) :
    (∃ c, sign.spelling.toList = [c] ∧ singleSymbol? c = some sign) ∨
      ∃ c d, sign.spelling.toList = [c, d] ∧ pairSymbol? c d = some sign := by
  cases sign
  all_goals first
    | exact .inl ⟨_, rfl, rfl⟩
    | exact .inr ⟨_, _, rfl, rfl⟩

/-- A token is read from the text in front of which it stands. -/
theorem readToken_spelled {token : Token} {text rest : List Char} (spelled : token.Spells text)
    (ends : EndsToken rest) :
    ∃ first others, text = first :: others ∧ isSeparator first = false ∧
      ∀ position, ∃ stop,
        readToken position first (others ++ rest) = .ok (token, ⟨stop, rest⟩) := by
  cases spelled with
  | @integer digits isDigits =>
    obtain ⟨first, others, rfl⟩ := List.exists_cons_of_ne_nil isDigits.1
    have digit := isDigits.2 first List.mem_cons_self
    exact ⟨first, others, rfl, not_isSeparator_of_notMem (notMem_reserved_of_isDigit digit),
      readToken_number digit (numberLength_integer isDigits ends)⟩
  | @fraction whole fraction isWhole isFraction =>
    obtain ⟨first, others, rfl⟩ := List.exists_cons_of_ne_nil isWhole.1
    have digit := isWhole.2 first List.mem_cons_self
    exact ⟨first, others ++ '.' :: fraction, rfl,
      not_isSeparator_of_notMem (notMem_reserved_of_isDigit digit),
      readToken_number digit (numberLength_fraction isWhole isFraction ends)⟩
  | @string quote text body isQuote inner =>
    refine ⟨quote, body ++ [quote], rfl, ?_, fun position => ?_⟩
    · rcases isQuote with rfl | rfl <;> rfl
    · rw [List.append_assoc, List.singleton_append]
      exact readToken_quote isQuote inner rest position
  | true =>
    have parts := List.all_eq_true.mp (by decide : ['r', 'u', 'e'].all isNamePart = true)
    exact ⟨'t', ['r', 'u', 'e'], rfl, rfl, readToken_name (by decide) parts ends⟩
  | false =>
    have parts := List.all_eq_true.mp (by decide : ['a', 'l', 's', 'e'].all isNamePart = true)
    exact ⟨'f', ['a', 'l', 's', 'e'], rfl, rfl, readToken_name (by decide) parts ends⟩
  | @identifier first others isName =>
    have start : isNameStart first = true := by
      simpa [isNameStart] using isName.begins
    have parts : ∀ c ∈ others, isNamePart c = true := by
      intro c member
      simpa [isNamePart] using isName.goesOn c member
    have token : nameToken (first :: others) = .identifier (String.ofList (first :: others)) := by
      rw [nameToken, if_neg isName.notTrue, if_neg isName.notFalse]
    refine ⟨first, others, rfl,
      not_isSeparator_of_notMem (notMem_reserved_of_isNameStart start), ?_⟩
    rw [← token]
    exact readToken_name start parts ends
  | symbol sign =>
    rcases spelling_cases sign with ⟨c, spelling, known⟩ | ⟨c, d, spelling, known⟩
    · refine ⟨c, [], spelling, ?_,
        fun position => ⟨position + 1, readToken_single known ends position⟩⟩
      by_contra separator
      rw [Bool.not_eq_false] at separator
      rcases isSeparator_iff.mp separator with rfl | rfl | rfl | rfl <;> cases known
    · refine ⟨c, [d], spelling, ?_,
        fun position => ⟨position + 2, readToken_pair known rest position⟩⟩
      by_contra separator
      rw [Bool.not_eq_false] at separator
      rcases isSeparator_iff.mp separator with rfl | rfl | rfl | rfl <;> cases known

/-! ## Scripts -/

theorem IsGap.separators {gap : List Char} (isGap : IsGap gap) : ∀ c ∈ gap, isSeparator c = true :=
  fun c member => isSeparator_iff.mpr (isGap c member)

/-- A scan skips a gap, reads a token and goes on with what is left. -/
theorem scanFrom_eq (position : Nat) (input : List Char) :
    scanFrom position input =
      match input.dropWhile isSeparator with
      | [] => .finish (position + (input.takeWhile isSeparator).length)
      | c :: rest =>
        match readToken (position + (input.takeWhile isSeparator).length) c rest with
        | .error error => .failure error
        | .ok (token, behind) => .more token behind.stop (scanFrom behind.stop behind.rest) := by
  rw [scanFrom]
  split
  · next remaining => simp only [remaining]
  · next c rest remaining =>
    split
    · next failed => simp only [remaining, failed]
    · next succeeded => simp only [remaining, succeeded]

theorem scanFrom_gap {gap : List Char} (isGap : IsGap gap) (position : Nat) :
    scanFrom position gap = .finish (position + gap.length) := by
  rw [scanFrom_eq, List.takeWhile_eq_self_iff.mpr isGap.separators,
    List.dropWhile_eq_nil_iff.mpr isGap.separators]

/-- Behind a gap a scan depends on the token there. -/
theorem scanFrom_solid {gap : List Char} (isGap : IsGap gap) {c : Char}
    (solid : isSeparator c = false) (rest : List Char) (position : Nat) :
    scanFrom position (gap ++ c :: rest) =
      match readToken (position + gap.length) c rest with
      | .error error => .failure error
      | .ok (token, behind) => .more token behind.stop (scanFrom behind.stop behind.rest) := by
  have ends : ∀ d ∈ (c :: rest).head?, isSeparator d = false := by
    rintro _ ⟨⟩
    exact solid
  rw [scanFrom_eq, Text.takeWhile_append isGap.separators ends,
    Text.dropWhile_append isGap.separators ends]

theorem scanFrom_token {gap : List Char} (isGap : IsGap gap) {c : Char}
    (solid : isSeparator c = false) {rest : List Char} {token : Token} {behind : Remainder}
    {position : Nat} (read : readToken (position + gap.length) c rest = .ok (token, behind)) :
    scanFrom position (gap ++ c :: rest) =
      .more token behind.stop (scanFrom behind.stop behind.rest) := by
  rw [scanFrom_solid isGap solid, read]

private theorem toTokens_more (token : Token) (stop : Nat) {rest : TokenStream} {tokens : List Token}
    (others : rest.toTokens = .ok tokens) :
    (TokenStream.more token stop rest).toTokens = .ok (token :: tokens) := by
  simp only [TokenStream.toTokens, TokenStream.error?, TokenStream.lexemes] at others ⊢
  cases fault : rest.error? with
  | some error =>
    rw [fault] at others
    cases others
  | none =>
    rw [fault] at others
    cases others
    rfl

/-- Spelled tokens are found behind any gap. The induction is on the tokens: each is read up to the
gap behind it, which the scan of the others begins with. -/
theorem scanFrom_spelled {tokens : List Token} {text : List Char}
    (spelled : SpellsTokens tokens text) {gap : List Char} (isGap : IsGap gap) (position : Nat) :
    (scanFrom position (gap ++ text)).toTokens = .ok (tokens ++ [.endOfScript]) := by
  induction spelled generalizing gap position with
  | nil =>
    rw [List.append_nil, scanFrom_gap isGap]
    rfl
  | @cons token tokens text behind rest spelled isBehind apart others ih =>
    have ends : EndsToken (behind ++ rest) := by
      cases behind with
      | cons c behind =>
        rintro _ ⟨⟩
        exact isBehind.separators c List.mem_cons_self
      | nil =>
        -- without a gap behind it the token is the last one
        cases others with
        | nil => exact fun c member => absurd member (by simp)
        | cons => exact absurd rfl (apart (List.cons_ne_nil _ _))
    obtain ⟨first, tail, rfl, solid, read⟩ := readToken_spelled spelled ends
    obtain ⟨stop, read⟩ := read (position + gap.length)
    rw [List.append_assoc, List.cons_append, scanFrom_token isGap solid read]
    exact toTokens_more token stop (ih isBehind stop)

/-- The scanner undoes every spelling: tokens that are written with separators between them, and
perhaps before and behind them, are found again, whichever quotes a string has and however each of
its characters is written. -/
theorem tokenize_spelled {tokens : List Token} {text gap : List Char}
    (spelled : SpellsTokens tokens text) (isGap : IsGap gap) :
    tokenize (String.ofList (gap ++ text)) = .ok (tokens ++ [.endOfScript]) := by
  rw [tokenize, scan, String.toList_ofList]
  exact scanFrom_spelled spelled isGap 0

/-- A name, a symbol of two characters, a string with every kind of spelling and a fraction at the
end of the script. -/
theorem tokenize_spelled_escapes :
    SpellsTokens
        [.identifier (String.ofList ['é', '_', '1']), .symbol .lessEqual,
          .string (String.ofList ['"', '\n', 'é', '\'']), .number (String.ofList ['4', '.', '5'])]
        (['é', '_', '1'] ++ [' '] ++ (['<', '='] ++ ['\t', '\n'] ++
          (['\'', '"', '\\', 'n', '\\', 'u', '0', '0', 'E', '9', '\\', '\'', '\''] ++ ['\r'] ++
            (['4', '.', '5'] ++ [] ++ [])))) ∧
      IsGap [' ', ' '] ∧
      tokenize (String.ofList ([' ', ' '] ++ (['é', '_', '1'] ++ [' '] ++
        (['<', '='] ++ ['\t', '\n'] ++
          (['\'', '"', '\\', 'n', '\\', 'u', '0', '0', 'E', '9', '\\', '\'', '\''] ++ ['\r'] ++
            (['4', '.', '5'] ++ [] ++ [])))))) =
        .ok [.identifier (String.ofList ['é', '_', '1']), .symbol .lessEqual,
          .string (String.ofList ['"', '\n', 'é', '\'']), .number (String.ofList ['4', '.', '5']),
          .endOfScript] := by
  have goesOn : ∀ c ∈ ['_', '1'], Text.isAlphanumeric c = true ∨ c = '_' := by
    simp only [List.forall_mem_cons]
    exact ⟨by decide, by decide, nofun⟩
  have name : Token.Spells (.identifier (String.ofList ['é', '_', '1'])) ['é', '_', '1'] :=
    .identifier ⟨by decide, goesOn, by decide, by decide⟩
  have letter : SpellsChar '\'' 'é' ['\\', 'u', '0', '0', 'E', '9'] :=
    .code (by decide) .lower .lower .upper .lower
  have text : SpellsText '\'' ['"', '\n', 'é', '\'']
      ['"', '\\', 'n', '\\', 'u', '0', '0', 'E', '9', '\\', '\''] :=
    .cons (.raw (by decide) (by decide))
      (.cons (.short rfl) (.cons letter (.cons (.short rfl) .nil)))
  have number : Token.Spells (.number (String.ofList ['4', '.', '5'])) ['4', '.', '5'] :=
    @Token.Spells.fraction ['4'] ['5'] (by decide) (by decide)
  have spelled := @SpellsTokens.cons _ _ _ [' '] _ name (by decide) (by decide)
    (@SpellsTokens.cons _ _ _ ['\t', '\n'] _ (.symbol .lessEqual) (by decide) (by decide)
      (@SpellsTokens.cons _ _ _ ['\r'] _ (.string (.inr rfl) text) (by decide) (by decide)
        (@SpellsTokens.cons _ _ _ [] _ number (by decide) (by decide) .nil)))
  have isGap : IsGap [' ', ' '] := by decide
  exact ⟨spelled, isGap, tokenize_spelled spelled isGap⟩

end DerivedFields.Script

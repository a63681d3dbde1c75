import DerivedFields.Json.Number
import DerivedFields.Json.Written
import DerivedFields.Script.Lexer

/-!
# Reading JSON

A recursive descent reader. Each reader returns the rest of the text with a proof that it is
shorter. It reads what the text spells; the value, in which containers may be nested up to 127 deep,
is taken afterwards.
-/

namespace DerivedFields.Json

/-- A result read from the front of `input`, with the text behind it. -/
structure Read (α : Type) (input : List Char) where
  result : α
  rest : List Char
  shorter : rest.length < input.length

/-- The characters between the tokens. -/
def isGap (c : Char) : Bool := c == ' ' || c == '\n' || c == '\t' || c == '\r'

def skipGap (input : List Char) : List Char := input.dropWhile isGap

theorem skipGap_length (input : List Char) : (skipGap input).length ≤ input.length :=
  (List.dropWhile_sublist isGap).length_le

theorem length_lt_of_skipGap {input rest : List Char} {c : Char}
    (skipped : skipGap input = c :: rest) : rest.length < input.length := by
  have := skipGap_length input
  simp only [skipped, List.length_cons] at this
  omega

/-- Four hexadecimal digits. -/
def unit? (a b c d : Char) : Option Nat := do
  some (((← Script.hexDigit? a) * 16 + (← Script.hexDigit? b)) * 256 +
    (← Script.hexDigit? c) * 16 + (← Script.hexDigit? d))

/-- The character of an escape of one letter. -/
def letterEscape? : Char → Option Char
  | '"' => some '"'
  | '\\' => some '\\'
  | '/' => some '/'
  | 'b' => some '\x08'
  | 'f' => some '\x0c'
  | 'n' => some '\n'
  | 'r' => some '\r'
  | 't' => some '\t'
  | _ => none

/-- The character of a surrogate pair. -/
def pair? (high low : Nat) : Option Char :=
  if 0xd800 ≤ high ∧ high < 0xdc00 ∧ 0xdc00 ≤ low ∧ low < 0xe000 then
    Script.charOfCode? (0x10000 + (high - 0xd800) * 0x400 + (low - 0xdc00))
  else none

/-- The characters that codes spell, the two halves of a surrogate pair making one. -/
def charactersOf? : List Nat → Option (List Char)
  | [] => some []
  | [code] => (Script.charOfCode? code).map fun c => [c]
  | code :: next :: codes =>
    match Script.charOfCode? code with
    | some c => (charactersOf? (next :: codes)).map fun characters => c :: characters
    | none => do some ((← pair? code next) :: (← charactersOf? codes))

def textOf? (codes : List Nat) : Option String := (charactersOf? codes).map String.ofList

/-- The code that the text behind a backslash stands for, and the text behind it. -/
def readEscape? : List Char → Option (Nat × List Char)
  | 'u' :: a :: b :: c :: d :: rest => (unit? a b c d).map fun code => (code, rest)
  | e :: rest => (letterEscape? e).map fun decoded => (decoded.toNat, rest)
  | [] => none

theorem readEscape?_length {input behind : List Char} {code : Nat}
    (success : readEscape? input = some (code, behind)) : behind.length < input.length := by
  unfold readEscape? at success
  split at success
  · simp only [Option.map_eq_some_iff, Prod.mk.injEq] at success
    obtain ⟨_, -, -, rfl⟩ := success
    simp only [List.length_cons]
    omega
  · simp only [Option.map_eq_some_iff, Prod.mk.injEq] at success
    obtain ⟨_, -, -, rfl⟩ := success
    simp
  · simp at success

/-- The codes of a string up to its closing quote, and the text behind it. -/
def readCodes? (input : List Char) : Option (Read (List Nat) input) :=
  match input with
  | [] => none
  | c :: rest =>
    if c = '"' then some ⟨[], rest, Nat.lt_succ_self _⟩
    else if c = '\\' then
      match escape : readEscape? rest with
      | none => none
      | some (code, behind) =>
        have := readEscape?_length escape
        (readCodes? behind).map fun read =>
          ⟨code :: read.result, read.rest, Nat.lt_succ_of_lt (Nat.lt_trans read.shorter this)⟩
    else if c.toNat < 0x20 then none
    else (readCodes? rest).map fun read =>
      ⟨c.toNat :: read.result, read.rest, Nat.lt_succ_of_lt read.shorter⟩
termination_by input.length

/-- The values of the digits at the front of a text, and the text behind them. -/
def readDigits (input : List Char) : List Nat × List Char :=
  ((input.takeWhile Char.isDigit).map fun c => c.toNat - '0'.toNat, input.dropWhile Char.isDigit)

/-- The digits before the point: a zero stands alone. -/
def readWhole? (input : List Char) : Option (List Nat × List Char) :=
  match readDigits input with
  | ([], _) => none
  | (0 :: _ :: _, _) => none
  | (digits, rest) => some (digits, rest)

/-- The digits behind the point, if there is one. -/
def readFraction? : List Char → Option (Option (List Nat) × List Char)
  | '.' :: rest =>
    match readDigits rest with
    | ([], _) => none
    | (digits, rest) => some (some digits, rest)
  | input => some (none, input)

/-- The sign of an exponent, and the text behind it. -/
def readSign : List Char → Bool × List Char
  | '-' :: rest => (true, rest)
  | '+' :: rest => (false, rest)
  | input => (false, input)

/-- The exponent, if there is one. -/
def readExponent? (input : List Char) : Option (Option (Bool × List Nat) × List Char) :=
  match input with
  | c :: rest =>
    if c = 'e' || c = 'E' then
      match readDigits (readSign rest).2 with
      | ([], _) => none
      | (digits, behind) => some (some ((readSign rest).1, digits), behind)
    else some (none, input)
  | [] => some (none, input)

/-- Reads a number literal. -/
def readLiteral? (input : List Char) : Option (JsonNumber.Literal × List Char) := do
  let (negative, unsigned) := match input with
    | '-' :: rest => (true, rest)
    | _ => (false, input)
  let (whole, rest) ← readWhole? unsigned
  let (fraction, rest) ← readFraction? rest
  let (exponent, rest) ← readExponent? rest
  some (⟨negative, whole, fraction, exponent⟩, rest)

/-- Reads a value that is one word or a number. -/
def readAtom? (input : List Char) : Option (Written × List Char) :=
  match input with
  | 'n' :: 'u' :: 'l' :: 'l' :: rest => some (.null, rest)
  | 't' :: 'r' :: 'u' :: 'e' :: rest => some (.boolean true, rest)
  | 'f' :: 'a' :: 'l' :: 's' :: 'e' :: rest => some (.boolean false, rest)
  | _ => (readLiteral? input).map fun (literal, rest) => (.number literal.toNumber?, rest)

private theorem readDigits_length (input : List Char) :
    (readDigits input).1.length + (readDigits input).2.length = input.length := by
  simp only [readDigits, List.length_map, ← List.length_append, List.takeWhile_append_dropWhile]

private theorem readWhole?_length {input behind : List Char} {digits : List Nat}
    (success : readWhole? input = some (digits, behind)) : behind.length < input.length := by
  have total := readDigits_length input
  unfold readWhole? at success
  split at success
  · simp at success
  · simp at success
  · next digits' rest' nonempty _ found =>
    simp only [Option.some.injEq, Prod.mk.injEq] at success
    rw [found] at total
    have : 0 < digits'.length := List.length_pos_iff.mpr nonempty
    simp only at total
    rw [← success.2]
    omega

private theorem readFraction?_length {input behind : List Char} {digits : Option (List Nat)}
    (success : readFraction? input = some (digits, behind)) : behind.length ≤ input.length := by
  unfold readFraction? at success
  split at success
  · next rest =>
    have total := readDigits_length rest
    split at success
    · simp at success
    · next found =>
      simp only [Option.some.injEq, Prod.mk.injEq] at success
      rw [found] at total
      simp only [List.length_cons] at total ⊢
      rw [← success.2]
      omega
  · simp only [Option.some.injEq, Prod.mk.injEq] at success
    exact Nat.le_of_eq (by rw [success.2])

private theorem readSign_length (input : List Char) : (readSign input).2.length ≤ input.length := by
  unfold readSign
  split <;> simp

private theorem readExponent?_length {input behind : List Char} {exponent : Option (Bool × List Nat)}
    (success : readExponent? input = some (exponent, behind)) :
    behind.length ≤ input.length := by
  unfold readExponent? at success
  split at success
  · next c rest =>
    have sign := readSign_length rest
    have total := readDigits_length (readSign rest).2
    split at success
    · split at success
      · simp at success
      · next found =>
        simp only [Option.some.injEq, Prod.mk.injEq] at success
        rw [found] at total
        simp only [List.length_cons] at total ⊢
        rw [← success.2]
        omega
    · simp only [Option.some.injEq, Prod.mk.injEq] at success
      exact Nat.le_of_eq (congrArg List.length success.2.symm)
  · simp only [Option.some.injEq, Prod.mk.injEq] at success
    exact Nat.le_of_eq (congrArg List.length success.2.symm)

private theorem readLiteral?_length {input behind : List Char} {literal : JsonNumber.Literal}
    (success : readLiteral? input = some (literal, behind)) : behind.length < input.length := by
  unfold readLiteral? at success
  simp only [Option.bind_eq_bind, Option.bind_eq_some_iff, Prod.exists, Option.some.injEq,
    Prod.mk.injEq] at success
  obtain ⟨_, _, whole, _, _, fraction, _, _, exponent, -, rfl⟩ := success
  have one := readWhole?_length whole
  have two := readFraction?_length fraction
  have three := readExponent?_length exponent
  have unsigned : (match input with
      | '-' :: rest => (true, rest)
      | _ => (false, input)).2.length ≤ input.length := by
    split <;> simp
  omega

/-- A value without parts takes at least one character. -/
theorem readAtom?_length {input behind : List Char} {value : Written}
    (success : readAtom? input = some (value, behind)) : behind.length < input.length := by
  unfold readAtom? at success
  split at success
  · simp only [Option.some.injEq, Prod.mk.injEq] at success
    simp only [← success.2, List.length_cons]
    omega
  · simp only [Option.some.injEq, Prod.mk.injEq] at success
    simp only [← success.2, List.length_cons]
    omega
  · simp only [Option.some.injEq, Prod.mk.injEq] at success
    simp only [← success.2, List.length_cons]
    omega
  · simp only [Option.map_eq_some_iff, Prod.exists, Prod.mk.injEq] at success
    obtain ⟨_, _, found, -, rfl⟩ := success
    exact readLiteral?_length found

/-- Consumes one character, with the gap in front of it. -/
def readMark? (mark : Char) (input : List Char) : Option (Read Unit input) :=
  match skipped : skipGap input with
  | [] => none
  | c :: rest =>
    if c = mark then
      some ⟨(), rest, length_lt_of_skipGap skipped⟩
    else none

/-- Reads the key of a member and the colon behind it. -/
def readKey? (input : List Char) : Option (Read (Option String) input) := do
  let opening ← readMark? '"' input
  let key ← readCodes? opening.rest
  let colon ← readMark? ':' key.rest
  some ⟨textOf? key.result, colon.rest,
    Nat.lt_trans colon.shorter (Nat.lt_trans key.shorter opening.shorter)⟩

mutual

/-- Reads what a value is spelled as. -/
def readValue? (input : List Char) : Option (Read Written input) :=
  match input with
  | [] => none
  | c :: rest =>
    if c = '"' then
      (readCodes? rest).map fun read =>
        ⟨.string (textOf? read.result), read.rest, Nat.lt_succ_of_lt read.shorter⟩
    else if c = '[' then
      match readMark? ']' rest with
      | some close => some ⟨.array [], close.rest, Nat.lt_succ_of_lt close.shorter⟩
      | none => (readItems? rest).map fun read =>
        ⟨.array read.result, read.rest, Nat.lt_succ_of_lt read.shorter⟩
    else if c = '\x7b' then
      match readMark? '\x7d' rest with
      | some close => some ⟨.object [], close.rest, Nat.lt_succ_of_lt close.shorter⟩
      | none => (readMembers? rest).map fun read =>
        ⟨.object read.result, read.rest, Nat.lt_succ_of_lt read.shorter⟩
    else
      match atom : readAtom? (c :: rest) with
      | none => none
      | some (value, behind) => some ⟨value, behind, readAtom?_length atom⟩
termination_by 2 * input.length

/-- Reads the items of an array up to the closing bracket. -/
def readItems? (input : List Char) : Option (Read (List Written) input) :=
  have gap := skipGap_length input
  match readValue? (skipGap input) with
  | none => none
  | some item =>
    have := item.shorter
    match readMark? ',' item.rest with
    | some comma =>
      have := comma.shorter
      (readItems? comma.rest).map fun more =>
        ⟨item.result :: more.result, more.rest, by have := more.shorter; omega⟩
    | none =>
      (readMark? ']' item.rest).map fun close =>
        ⟨[item.result], close.rest, by have := close.shorter; omega⟩
termination_by 2 * input.length + 1

/-- Reads the members of an object up to the closing brace. -/
def readMembers? (input : List Char) :
    Option (Read (List (Option String × Written)) input) :=
  match readKey? input with
  | none => none
  | some key =>
    have := key.shorter
    have gap := skipGap_length key.rest
    match readValue? (skipGap key.rest) with
    | none => none
    | some value =>
      have := value.shorter
      match readMark? ',' value.rest with
      | some comma =>
        have := comma.shorter
        (readMembers? comma.rest).map fun more =>
          ⟨(key.result, value.result) :: more.result, more.rest, by have := more.shorter; omega⟩
      | none =>
        (readMark? '\x7d' value.rest).map fun close =>
          ⟨[(key.result, value.result)], close.rest, by have := close.shorter; omega⟩
termination_by 2 * input.length + 1

end

/-- What a text spells that holds one value and nothing else. -/
def Written.read? (text : String) : Option Written := do
  let value ← readValue? (skipGap text.toList)
  if (skipGap value.rest).isEmpty then some value.result else none

/-- The value of a text that holds one value and nothing else. -/
def read? (text : String) : Option Json := (Written.read? text).bind (Written.toJson? depthLimit)

end DerivedFields.Json

import DerivedFields.Script.Token
import DerivedFields.Text.Digit

/-!
# Dividing a script into tokens

Blanks, tabs and line breaks separate tokens. Each token is the longest that starts at its
character, except that a point belongs to a number only when a digit follows it.
-/

namespace DerivedFields.Script

/-- The characters that may stand between tokens. -/
def isSeparator (c : Char) : Bool :=
  c == ' ' || c == '\t' || c == '\r' || c == '\n'

def isNameStart (c : Char) : Bool := Text.isAlphabetic c || c == '_'
def isNamePart (c : Char) : Bool := Text.isAlphanumeric c || c == '_'

/-- The character that a one-letter escape stands for. -/
def shortEscape? : Char → Option Char
  | 'n' => some '\n'
  | 't' => some '\t'
  | 'r' => some '\r'
  | '"' => some '"'
  | '\'' => some '\''
  | '\\' => some '\\'
  | _ => none

def hexDigit? (c : Char) : Option Nat :=
  if '0' ≤ c ∧ c ≤ '9' then some (c.toNat - '0'.toNat)
  else if 'a' ≤ c ∧ c ≤ 'f' then some (c.toNat - 'a'.toNat + 10)
  else if 'A' ≤ c ∧ c ≤ 'F' then some (c.toNat - 'A'.toNat + 10)
  else none

/-- The character with a code point, if there is one: surrogates have none. -/
def charOfCode? (code : Nat) : Option Char :=
  if valid : code.isValidChar then some (Char.ofNatAux code valid) else none

theorem charOfCode?_toNat (c : Char) : charOfCode? c.toNat = some c := by
  have valid : c.toNat.isValidChar := c.valid
  rw [charOfCode?, dif_pos valid]
  have same := Char.ofNat_toNat c
  rw [Char.ofNat, dif_pos valid] at same
  rw [same]

/-- The character that four hexadecimal digits stand for. -/
def codeEscape? (a b c d : Char) : Option Char := do
  let code := ((← hexDigit? a) * 16 + (← hexDigit? b)) * 256 + (← hexDigit? c) * 16 + (← hexDigit? d)
  charOfCode? code

/-- What reading a token leaves behind: the offset and the text after it. -/
structure Remainder where
  stop : Nat
  rest : List Char

/-- Puts a character in front of the text that was read. -/
def prepend (c : Char) (read : Except LexError (List Char × Remainder)) :
    Except LexError (List Char × Remainder) :=
  read.map fun (text, behind) => (c :: text, behind)

theorem prepend_eq_ok {c : Char} {read : Except LexError (List Char × Remainder)}
    {text : List Char} {behind : Remainder} (success : prepend c read = .ok (text, behind)) :
    ∃ tail, read = .ok (tail, behind) ∧ text = c :: tail := by
  cases read with
  | error => simp [prepend, Except.map] at success
  | ok pair =>
    obtain ⟨tail, rest⟩ := pair
    simp only [prepend, Except.map, Except.ok.injEq, Prod.mk.injEq] at success
    exact ⟨tail, by rw [success.2], success.1.symm⟩

/-- Reads the characters of a string up to its closing quote. `opening` is the offset of the
opening quote and `position` that of the next character. -/
def readString (quote : Char) (opening position : Nat) :
    List Char → Except LexError (List Char × Remainder)
  | [] => .error ⟨.unterminatedString, opening⟩
  | c :: rest =>
    if c = quote then .ok ([], ⟨position + 1, rest⟩)
    else if c = '\\' then
      match rest with
      | [] => .error ⟨.unfinishedEscape, position⟩
      | 'u' :: rest =>
        match rest with
        | h₁ :: h₂ :: h₃ :: h₄ :: rest =>
          match codeEscape? h₁ h₂ h₃ h₄ with
          | some decoded => prepend decoded (readString quote opening (position + 6) rest)
          | none => .error ⟨.badCodeEscape, position⟩
        | _ => .error ⟨.badCodeEscape, position⟩
      | e :: rest =>
        match shortEscape? e with
        | some decoded => prepend decoded (readString quote opening (position + 2) rest)
        | none => .error ⟨.invalidEscape e, position⟩
    else prepend c (readString quote opening (position + 1) rest)

/-- The digits at the start of the text, with a fraction if a point and a digit follow. -/
def numberLength (text : List Char) : Nat :=
  let whole := (text.takeWhile Char.isDigit).length
  match text.drop whole with
  | '.' :: rest =>
    let fraction := (rest.takeWhile Char.isDigit).length
    if fraction = 0 then whole else whole + 1 + fraction
  | _ => whole

/-- A symbol of two characters. -/
def pairSymbol? : Char → Char → Option Symbol
  | '&', '&' => some .conjunction
  | '|', '|' => some .disjunction
  | '=', '=' => some .equal
  | '!', '=' => some .notEqual
  | '<', '=' => some .lessEqual
  | '>', '=' => some .greaterEqual
  | _, _ => none

/-- A symbol of one character. -/
def singleSymbol? : Char → Option Symbol
  | '(' => some .openParen
  | ')' => some .closeParen
  | ',' => some .comma
  | '+' => some .plus
  | '-' => some .minus
  | '*' => some .star
  | '/' => some .slash
  | '%' => some .percent
  | '<' => some .less
  | '>' => some .greater
  | '@' => some .atSign
  | _ => none

/-- The token for a name: the two truth values are no identifiers. -/
def nameToken (name : List Char) : Token :=
  if name = ['t', 'r', 'u', 'e'] then .boolean true
  else if name = ['f', 'a', 'l', 's', 'e'] then .boolean false
  else .identifier (String.ofList name)

/-- Reads the token that starts with `c`, at offset `position`. -/
def readToken (position : Nat) (c : Char) (rest : List Char) : Except LexError (Token × Remainder) :=
  match rest.head?.bind (pairSymbol? c) with
  | some symbol => .ok (.symbol symbol, ⟨position + 2, rest.tail⟩)
  | none =>
    if c = '&' || c = '|' then .error ⟨.loneOperator c, position⟩
    else match singleSymbol? c with
      | some symbol => .ok (.symbol symbol, ⟨position + 1, rest⟩)
      | none =>
        if c = '"' || c = '\'' then do
          let (text, behind) ← readString c position (position + 1) rest
          .ok (.string (String.ofList text), behind)
        else if isNameStart c then
          let name := c :: rest.takeWhile isNamePart
          .ok (nameToken name, ⟨position + name.length, rest.dropWhile isNamePart⟩)
        else if c.isDigit then
          let length := numberLength (c :: rest)
          .ok (.number (String.ofList ((c :: rest).take length)),
            ⟨position + length, rest.drop (length - 1)⟩)
        else .error ⟨.unexpectedCharacter c, position⟩

private theorem readString_length {quote : Char} {opening position : Nat} {input text : List Char}
    {behind : Remainder} (success : readString quote opening position input = .ok (text, behind)) :
    behind.rest.length < input.length := by
  fun_induction readString quote opening position input generalizing text behind with
  | case2 =>
    simp only [Except.ok.injEq, Prod.mk.injEq] at success
    simp [← success.2]
  | case4 _ _ _ _ _ _ _ _ _ ih | case7 _ _ _ _ _ _ _ ih | case9 _ _ _ _ _ ih =>
    obtain ⟨tail, inner, -⟩ := prepend_eq_ok success
    have := ih inner
    simp only [List.length_cons]
    omega
  | _ => simp at success

/-- A token takes at least its first character. -/
theorem readToken_length {position : Nat} {c : Char} {rest : List Char} {token : Token}
    {behind : Remainder} (success : readToken position c rest = .ok (token, behind)) :
    behind.rest.length ≤ rest.length := by
  unfold readToken at success
  split at success
  · simp only [Except.ok.injEq, Prod.mk.injEq] at success
    simp [← success.2]
  · split at success
    · simp at success
    · split at success
      · simp only [Except.ok.injEq, Prod.mk.injEq] at success
        simp [← success.2]
      · split at success
        · cases inner : readString c position (position + 1) rest with
          | error => simp [inner, bind, Except.bind] at success
          | ok pair =>
            obtain ⟨first, second⟩ := pair
            simp only [inner, bind, Except.bind, Except.ok.injEq, Prod.mk.injEq] at success
            have := readString_length inner
            rw [← success.2]
            omega
        · split at success
          · simp only [Except.ok.injEq, Prod.mk.injEq] at success
            rw [← success.2]
            exact (List.dropWhile_sublist _).length_le
          · split at success
            · simp only [Except.ok.injEq, Prod.mk.injEq] at success
              simp [← success.2]
            · simp at success

/-- The tokens of the text from offset `position` on. -/
def scanFrom (position : Nat) (input : List Char) : TokenStream :=
  let start := position + (input.takeWhile isSeparator).length
  match remaining : input.dropWhile isSeparator with
  | [] => .finish start
  | c :: rest =>
    match read : readToken start c rest with
    | .error error => .failure error
    | .ok (token, behind) =>
      have shorter : behind.rest.length < input.length :=
        calc behind.rest.length ≤ rest.length := readToken_length read
          _ < (c :: rest).length := Nat.lt_succ_self _
          _ = (input.dropWhile isSeparator).length := by rw [remaining]
          _ ≤ input.length := (List.dropWhile_sublist isSeparator).length_le
      .more token behind.stop (scanFrom behind.stop behind.rest)
termination_by input.length

/-- The tokens of a script. -/
def scan (script : String) : TokenStream := scanFrom 0 script.toList

/-- All tokens of a script and its end, or the first fault. -/
def tokenize (script : String) : Except LexError (List Token) := (scan script).toTokens

end DerivedFields.Script

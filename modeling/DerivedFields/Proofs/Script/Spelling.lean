import DerivedFields.Script.Token
import DerivedFields.Text.Digit

/-!
# How tokens are spelled

The texts that a list of tokens may be written as, independently of how they are read. A character
of a string has up to three spellings, and each may be chosen on its own. Between two tokens stand
blanks, tabs or line breaks, at least one of them.
-/

namespace DerivedFields.Script

/-- The letter that stands for a character in a short escape. -/
def shortLetter? : Char → Option Char
  | '\n' => some 'n'
  | '\t' => some 't'
  | '\r' => some 'r'
  | '"' => some '"'
  | '\'' => some '\''
  | '\\' => some '\\'
  | _ => none

/-- A hexadecimal digit, its letter in either case. -/
inductive SpellsDigit (value : Nat) : Char → Prop
  | lower : SpellsDigit value value.digitChar
  | upper : SpellsDigit value value.digitChar.toUpper

/-- A character of a string between quotes: as itself, as its short escape, or by its code if that
has no more than four digits. -/
inductive SpellsChar (quote : Char) : Char → List Char → Prop
  | raw {c : Char} (inside : c ≠ quote) (plain : c ≠ '\\') : SpellsChar quote c [c]
  | short {c letter : Char} (known : shortLetter? c = some letter) :
    SpellsChar quote c ['\\', letter]
  | code {c h₁ h₂ h₃ h₄ : Char} (small : c.toNat < 0x10000)
    (first : SpellsDigit (c.toNat / 0x1000) h₁) (second : SpellsDigit (c.toNat / 0x100 % 0x10) h₂)
    (third : SpellsDigit (c.toNat / 0x10 % 0x10) h₃) (fourth : SpellsDigit (c.toNat % 0x10) h₄) :
    SpellsChar quote c ['\\', 'u', h₁, h₂, h₃, h₄]

/-- The characters of a string one after the other. -/
inductive SpellsText (quote : Char) : List Char → List Char → Prop
  | nil : SpellsText quote [] []
  | cons {c : Char} {text spelling body : List Char} (first : SpellsChar quote c spelling)
    (others : SpellsText quote text body) : SpellsText quote (c :: text) (spelling ++ body)

/-- Every string can be written between quotes of either kind. -/
theorem exists_spellsText {quote : Char} (isQuote : quote = '"' ∨ quote = '\'')
    (text : List Char) : ∃ body, SpellsText quote text body := by
  induction text with
  | nil => exact ⟨[], .nil⟩
  | cons c text ih =>
    obtain ⟨body, others⟩ := ih
    by_cases escaped : c = quote ∨ c = '\\'
    · have known : shortLetter? c = some c := by
        rcases escaped with rfl | rfl
        · rcases isQuote with rfl | rfl <;> rfl
        · rfl
      exact ⟨_, .cons (.short known) others⟩
    · obtain ⟨inside, plain⟩ := not_or.mp escaped
      exact ⟨_, .cons (.raw inside plain) others⟩

/-- ASCII digits, at least one. -/
def IsDigits (digits : List Char) : Prop := digits ≠ [] ∧ ∀ c ∈ digits, c.isDigit = true

instance (digits : List Char) : Decidable (IsDigits digits) :=
  decidable_of_iff (digits ≠ [] ∧ digits.all Char.isDigit = true) (by simp [IsDigits])

/-- A name: a letter or underscore, and then letters, digits and underscores. The two truth values
are no names. -/
structure IsName (first : Char) (others : List Char) : Prop where
  begins : Text.isAlphabetic first = true ∨ first = '_'
  goesOn : ∀ c ∈ others, Text.isAlphanumeric c = true ∨ c = '_'
  notTrue : first :: others ≠ ['t', 'r', 'u', 'e']
  notFalse : first :: others ≠ ['f', 'a', 'l', 's', 'e']

/-- The spellings of a token. Its end has none. -/
inductive Token.Spells : Token → List Char → Prop
  | integer {digits : List Char} (isDigits : IsDigits digits) :
    Spells (.number (String.ofList digits)) digits
  | fraction {whole fraction : List Char} (isWhole : IsDigits whole)
    (isFraction : IsDigits fraction) :
    Spells (.number (String.ofList (whole ++ '.' :: fraction))) (whole ++ '.' :: fraction)
  | string {quote : Char} {text body : List Char} (isQuote : quote = '"' ∨ quote = '\'')
    (spelled : SpellsText quote text body) :
    Spells (.string (String.ofList text)) (quote :: body ++ [quote])
  | true : Spells (.boolean true) ['t', 'r', 'u', 'e']
  | false : Spells (.boolean false) ['f', 'a', 'l', 's', 'e']
  | identifier {first : Char} {others : List Char} (isName : IsName first others) :
    Spells (.identifier (String.ofList (first :: others))) (first :: others)
  | symbol (sign : Symbol) : Spells (.symbol sign) sign.spelling.toList

/-- Text that separates tokens, possibly empty. -/
def IsGap (gap : List Char) : Prop := ∀ c ∈ gap, c = ' ' ∨ c = '\t' ∨ c = '\r' ∨ c = '\n'

instance (gap : List Char) : Decidable (IsGap gap) :=
  decidable_of_iff (gap.all fun c => c = ' ' ∨ c = '\t' ∨ c = '\r' ∨ c = '\n')
    (by simp [IsGap])

/-- Tokens with a gap behind each of them. Only the one behind the last may be empty. -/
inductive SpellsTokens : List Token → List Char → Prop
  | nil : SpellsTokens [] []
  | cons {token : Token} {tokens : List Token} {text gap rest : List Char}
    (spelled : token.Spells text) (isGap : IsGap gap) (apart : tokens ≠ [] → gap ≠ [])
    (others : SpellsTokens tokens rest) : SpellsTokens (token :: tokens) (text ++ gap ++ rest)

end DerivedFields.Script

/-!
# Tokens

The lexical units of a script. Number tokens keep their digits as written; string tokens hold the
text that their escapes stand for.
-/

namespace DerivedFields.Script

/-- Operators, delimiters and the attribute marker. -/
inductive Symbol
  | atSign
  | plus
  | minus
  | star
  | slash
  | percent
  | equal
  | notEqual
  | less
  | greater
  | lessEqual
  | greaterEqual
  | conjunction
  | disjunction
  | openParen
  | closeParen
  | comma
  deriving DecidableEq

def Symbol.spelling : Symbol → String
  | .atSign => "@"
  | .plus => "+"
  | .minus => "-"
  | .star => "*"
  | .slash => "/"
  | .percent => "%"
  | .equal => "=="
  | .notEqual => "!="
  | .less => "<"
  | .greater => ">"
  | .lessEqual => "<="
  | .greaterEqual => ">="
  | .conjunction => "&&"
  | .disjunction => "||"
  | .openParen => "("
  | .closeParen => ")"
  | .comma => ","

inductive Token
  | number (digits : String)
  | string (text : String)
  | boolean (value : Bool)
  | identifier (name : String)
  | symbol (sign : Symbol)
  | endOfScript
  deriving DecidableEq

/-- How error messages name a token. -/
def Token.describe : Token → String
  | .number digits => "number " ++ digits
  | .string text => "string '" ++ text ++ "'"
  | .boolean value => "boolean " ++ (if value then "true" else "false")
  | .identifier name => "identifier '" ++ name ++ "'"
  | .symbol sign => "'" ++ sign.spelling ++ "'"
  | .endOfScript => "end of input"

/-- Why a script cannot be divided into tokens. -/
inductive LexFault
  | loneOperator (c : Char)
  | invalidEscape (c : Char)
  | unfinishedEscape
  | badCodeEscape
  | unterminatedString
  | unexpectedCharacter (c : Char)
  deriving DecidableEq

/-- A fault and the offset, in characters, of where it begins. -/
structure LexError where
  fault : LexFault
  position : Nat
  deriving DecidableEq

def LexFault.describe : LexFault → String
  | .loneOperator c =>
    let c := String.singleton c
    "single '" ++ c ++ "' is not an operator (did you mean '" ++ c ++ c ++ "'?)"
  | .invalidEscape c => "invalid escape sequence '\\" ++ String.singleton c ++ "'"
  | .unfinishedEscape => "unfinished escape"
  | .badCodeEscape => "bad \\u escape"
  | .unterminatedString => "unterminated string literal"
  | .unexpectedCharacter c => "unexpected character '" ++ String.singleton c ++ "'"

def LexError.message (error : LexError) : String :=
  "PARSE_ERROR: " ++ error.fault.describe ++ " at position " ++ toString error.position

/-- A script as its tokens, each with the offset behind it, up to the end or the first fault. -/
inductive TokenStream
  | more (token : Token) (stop : Nat) (rest : TokenStream)
  | finish (position : Nat)
  | failure (error : LexError)

namespace TokenStream

/-- The number of tokens before the end or the fault. -/
def size : TokenStream → Nat
  | .more _ _ rest => rest.size + 1
  | .finish _ | .failure _ => 0

/-- The tokens with their stops, the end included. -/
def lexemes : TokenStream → List (Token × Nat)
  | .more token stop rest => (token, stop) :: rest.lexemes
  | .finish position => [(.endOfScript, position)]
  | .failure _ => []

/-- The fault that ends the stream. -/
def error? : TokenStream → Option LexError
  | .more _ _ rest => rest.error?
  | .finish _ => none
  | .failure error => some error

/-- The token at the front and the offset behind it. -/
def front : TokenStream → Token × Nat
  | .more token stop _ => (token, stop)
  | .finish position => (.endOfScript, position)
  | .failure error => (.endOfScript, error.position)

/-- All tokens, closed by the end of the script, or the fault that prevents it. -/
def toTokens (stream : TokenStream) : Except LexError (List Token) :=
  match stream.error? with
  | some error => .error error
  | none => .ok (stream.lexemes.map (·.1))

end TokenStream

end DerivedFields.Script

import DerivedFields.Script.Expr
import DerivedFields.Script.Lexer

/-!
# Parsing

Recursive descent over the tokens of a script. The five binary levels differ only in their
operators, so `precedence` lists them from loosest to tightest and one function reads them all.
Every reader returns the tokens behind what it read together with a proof that there are fewer.

A lexical fault is reported when the token before it is consumed, so it takes precedence over
whatever is wrong with that token.
-/

namespace DerivedFields.Script

inductive ParseError
  | lexical (error : LexError)
  | unexpected (expected found : String) (position : Nat)
  | invalidNumber (digits : String)
  deriving DecidableEq

def ParseError.message : ParseError → String
  | .lexical error => error.message
  | .unexpected expected found position =>
    "PARSE_ERROR: expected " ++ expected ++ " but got " ++ found ++ " at position " ++
      toString position
  | .invalidNumber digits => "PARSE_ERROR: invalid number '" ++ digits ++ "'"

namespace TokenStream

/-- The stream does not begin with a lexical fault. -/
def ready : TokenStream → Except ParseError Unit
  | .failure error => .error (.lexical error)
  | _ => .ok ()

/-- The error that the front token is not what the grammar allows. -/
def unexpected (expected : String) (tokens : TokenStream) : ParseError :=
  .unexpected expected tokens.front.1.describe tokens.front.2

end TokenStream

/-- A result read from the front of `tokens`, with the tokens behind it. -/
structure Parsed (α : Type) (tokens : TokenStream) where
  result : α
  rest : TokenStream
  shorter : rest.size < tokens.size

/-- The operators of one level of precedence. -/
abbrev Level := Symbol → Option BinaryOp

/-- The binary operators from loosest to tightest; each level groups to the left. -/
def precedence : List Level := [
  fun | .disjunction => some .disjunction | _ => none,
  fun | .conjunction => some .conjunction | _ => none,
  fun
    | .equal => some .equal
    | .notEqual => some .notEqual
    | .less => some .less
    | .greater => some .greater
    | .lessEqual => some .lessEqual
    | .greaterEqual => some .greaterEqual
    | _ => none,
  fun | .plus => some .add | .minus => some .subtract | _ => none,
  fun | .star => some .multiply | .slash => some .divide | .percent => some .modulo | _ => none]

/-- The operator at the front of the tokens, if it belongs to the level. -/
def Level.operator? (level : Level) : (tokens : TokenStream) → Option (Parsed BinaryOp tokens)
  | .more (.symbol sign) _ rest => (level sign).map fun op => ⟨op, rest, Nat.lt_succ_self _⟩
  | _ => none

/-- Consumes one symbol. -/
def expectSymbol (expected : Symbol) :
    (tokens : TokenStream) → Except ParseError (Parsed Unit tokens)
  | .more (.symbol sign) stop rest =>
    if sign = expected then do
      rest.ready
      .ok ⟨(), rest, Nat.lt_succ_self _⟩
    else .error ((TokenStream.more (.symbol sign) stop rest).unexpected
      (Token.symbol expected).describe)
  | tokens => .error (tokens.unexpected (Token.symbol expected).describe)

/-- Consumes the name of an attribute. -/
def expectIdentifier : (tokens : TokenStream) → Except ParseError (Parsed String tokens)
  | .more (.identifier name) _ rest => do
    rest.ready
    .ok ⟨name, rest, Nat.lt_succ_self _⟩
  | tokens => .error (tokens.unexpected "identifier")

/-- Reads the segments of a path behind its first. A slash continues the path when an identifier or
an attribute marker follows it, and an attribute ends the path; any other slash is left alone. -/
def parsePath (path : String) : (tokens : TokenStream) →
    Except ParseError { read : String × TokenStream // read.2.size ≤ tokens.size }
  | .more (.symbol .slash) stop (.more (.identifier name) after rest) => do
    rest.ready
    let ⟨read, shorter⟩ ← parsePath (path ++ "/" ++ name) rest
    .ok ⟨read, by simp only [TokenStream.size]; omega⟩
  | .more (.symbol .slash) stop (.more (.symbol .atSign) after rest) => do
    rest.ready
    let name ← expectIdentifier rest
    .ok ⟨(path ++ "/@" ++ name.result, name.rest), by
      have := name.shorter
      simp only [TokenStream.size]
      omega⟩
  | .more (.symbol .slash) _ (.failure error) => .error (.lexical error)
  | tokens => .ok ⟨(path, tokens), Nat.le_refl _⟩

mutual

/-- Reads an expression of the loosest of the given levels. -/
def parseLevels (levels : List Level) (tokens : TokenStream) :
    Except ParseError (Parsed Expr tokens) :=
  match levels with
  | [] => parseUnary tokens
  | level :: tighter => do
    let first ← parseLevels tighter tokens
    let ⟨read, shorter⟩ ← parseChain level tighter first.result first.rest
    .ok ⟨read.1, read.2, Nat.lt_of_le_of_lt shorter first.shorter⟩
termination_by (tokens.size, levels.length + 3)
decreasing_by
  · exact Prod.Lex.right _ (by simp)
  · exact Prod.Lex.right _ (by simp)
  · exact Prod.Lex.left _ _ first.shorter

/-- Reads further operators of a level with their right operands. -/
def parseChain (level : Level) (tighter : List Level) (left : Expr) (tokens : TokenStream) :
    Except ParseError { read : Expr × TokenStream // read.2.size ≤ tokens.size } :=
  match level.operator? tokens with
  | none => .ok ⟨(left, tokens), Nat.le_refl _⟩
  | some op => do
    op.rest.ready
    let right ← parseLevels tighter op.rest
    let ⟨read, shorter⟩ ← parseChain level tighter (.binary op.result left right.result) right.rest
    .ok ⟨read, by have := op.shorter; have := right.shorter; omega⟩
termination_by (tokens.size, 0)
decreasing_by
  · exact Prod.Lex.left _ _ op.shorter
  · exact Prod.Lex.left _ _ (Nat.lt_trans right.shorter op.shorter)

/-- Reads any number of minus signs and the operand behind them. -/
def parseUnary (tokens : TokenStream) : Except ParseError (Parsed Expr tokens) :=
  match tokens with
  | .more (.symbol .minus) _ rest => do
    rest.ready
    let operand ← parseUnary rest
    .ok ⟨.negate operand.result, operand.rest, Nat.lt_succ_of_lt operand.shorter⟩
  | tokens => parsePrimary tokens
termination_by (tokens.size, 2)
decreasing_by
  · exact Prod.Lex.left _ _ (Nat.lt_succ_self _)
  · exact Prod.Lex.right _ (by decide)

/-- Reads a literal, a parenthesised expression, a call or a path. -/
def parsePrimary (tokens : TokenStream) : Except ParseError (Parsed Expr tokens) :=
  match tokens with
  | .more (.boolean value) _ rest => do
    rest.ready
    .ok ⟨.boolean value, rest, Nat.lt_succ_self _⟩
  | .more (.number digits) _ rest => do
    rest.ready
    match Decimal.ofText? digits.toList with
    | some value => .ok ⟨.number value, rest, Nat.lt_succ_self _⟩
    | none => .error (.invalidNumber digits)
  | .more (.string text) _ rest => do
    rest.ready
    .ok ⟨.string text, rest, Nat.lt_succ_self _⟩
  | .more (.symbol .openParen) _ rest => do
    rest.ready
    let inner ← parseLevels precedence rest
    let close ← expectSymbol .closeParen inner.rest
    .ok ⟨inner.result, close.rest,
      Nat.lt_succ_of_lt (Nat.lt_trans close.shorter inner.shorter)⟩
  | .more (.identifier name) _ (.more (.symbol .openParen) _ rest) => do
    rest.ready
    let arguments ← parseArguments rest
    .ok ⟨.call name arguments.result, arguments.rest,
      Nat.lt_succ_of_lt (Nat.lt_succ_of_lt arguments.shorter)⟩
  | .more (.identifier name) _ rest => do
    rest.ready
    let ⟨read, shorter⟩ ← parsePath name rest
    .ok ⟨.field read.1, read.2, Nat.lt_succ_of_le shorter⟩
  | tokens => .error (tokens.unexpected "expression")
termination_by (tokens.size, 1)
decreasing_by
  · exact Prod.Lex.left _ _ (Nat.lt_succ_self _)
  · exact Prod.Lex.left _ _ (Nat.lt_succ_of_lt (Nat.lt_succ_self _))

/-- Reads the arguments of a call and the closing parenthesis. -/
def parseArguments (tokens : TokenStream) : Except ParseError (Parsed (List Expr) tokens) :=
  match tokens with
  | .more (.symbol .closeParen) _ rest => do
    rest.ready
    .ok ⟨[], rest, Nat.lt_succ_self _⟩
  | tokens => do
    let first ← parseLevels precedence tokens
    let ⟨read, shorter⟩ ← parseMoreArguments first.rest
    let close ← expectSymbol .closeParen read.2
    .ok ⟨first.result :: read.1, close.rest,
      Nat.lt_trans close.shorter (Nat.lt_of_le_of_lt shorter first.shorter)⟩
termination_by (tokens.size, precedence.length + 4)
decreasing_by
  · exact Prod.Lex.right _ (by omega)
  · exact Prod.Lex.left _ _ first.shorter

/-- Reads the arguments behind the first, each after a comma. -/
def parseMoreArguments (tokens : TokenStream) :
    Except ParseError { read : List Expr × TokenStream // read.2.size ≤ tokens.size } :=
  match tokens with
  | .more (.symbol .comma) _ rest => do
    rest.ready
    let next ← parseLevels precedence rest
    let ⟨read, shorter⟩ ← parseMoreArguments next.rest
    .ok ⟨(next.result :: read.1, read.2),
      Nat.le_succ_of_le (Nat.le_trans shorter (Nat.le_of_lt next.shorter))⟩
  | tokens => .ok ⟨([], tokens), Nat.le_refl _⟩
termination_by (tokens.size, 0)
decreasing_by
  · exact Prod.Lex.left _ _ (Nat.lt_succ_self _)
  · exact Prod.Lex.left _ _ (Nat.lt_succ_of_lt next.shorter)

end

/-- Parses a complete script; tokens behind the expression are an error. -/
def parseStream (tokens : TokenStream) : Except ParseError Expr := do
  tokens.ready
  let parsed ← parseLevels precedence tokens
  match parsed.rest with
  | .finish _ => .ok parsed.result
  | rest => .error (rest.unexpected Token.endOfScript.describe)

/-- Parses the text of a script. -/
def parse (script : String) : Except ParseError Expr := parseStream (scan script)

end DerivedFields.Script

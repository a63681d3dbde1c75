import DerivedFields.Script.Parser

/-!
# What the readers of scripts return

The readers return tokens together with a proof that these are fewer than before. Here that proof
is left out, so that each reader has equations for what it does with the tokens in front of it. In a
script without lexical faults no reader has to look whether one is near.
-/

namespace DerivedFields.Script

namespace TokenStream

/-- The tokens of a stream up to its end, which is the last of them. -/
def tokens (stream : TokenStream) : List Token := stream.lexemes.map (·.1)

theorem tokens_more (token : Token) (stop : Nat) (rest : TokenStream) :
    (more token stop rest).tokens = token :: rest.tokens := rfl

theorem size_lt_more (token : Token) (stop : Nat) (rest : TokenStream) :
    rest.size < (more token stop rest).size := Nat.lt_succ_self _

/-- No lexical fault ends the stream. -/
def Complete (stream : TokenStream) : Prop := stream.error? = none

theorem Complete.ready {stream : TokenStream} (complete : stream.Complete) :
    stream.ready = .ok () := by
  cases stream with
  | more | finish => rfl
  | failure error => cases complete

/-- The tokens of a complete stream are those of a stream behind the first, except at the end. -/
theorem Complete.eq_more {stream : TokenStream} {token : Token} {behind : List Token}
    (complete : stream.Complete) (begins : stream.tokens = token :: behind)
    (inside : token ≠ .endOfScript) :
    ∃ stop rest, stream = .more token stop rest ∧ rest.Complete ∧ rest.tokens = behind := by
  cases stream with
  | more first stop rest =>
    obtain ⟨rfl, rfl⟩ := List.cons.inj begins
    exact ⟨stop, rest, rfl, complete, rfl⟩
  | finish position => exact absurd (List.cons.inj begins).1.symm inside
  | failure error => cases complete

/-- A complete stream has tokens left. -/
theorem Complete.tokens_ne_nil {stream : TokenStream} (complete : stream.Complete) :
    stream.tokens ≠ [] := by
  cases stream with
  | more | finish => exact List.cons_ne_nil _ _
  | failure error => cases complete

/-- The end of the script is the last token, and stands behind all others. -/
theorem Complete.tokens_eq {stream : TokenStream} (complete : stream.Complete) :
    stream.tokens = stream.tokens.dropLast ++ [.endOfScript] := by
  induction stream with
  | more token stop rest ih =>
    have inner : rest.Complete := complete
    calc token :: rest.tokens = token :: (rest.tokens.dropLast ++ [.endOfScript]) := by
          rw [← ih inner]
      _ = (token :: rest.tokens).dropLast ++ [.endOfScript] := by
          rw [List.dropLast_cons_of_ne_nil inner.tokens_ne_nil, List.cons_append]
  | finish position => rfl
  | failure error => cases complete

/-- The end of the script is the last token of a complete stream. -/
theorem Complete.eq_finish {stream : TokenStream} (complete : stream.Complete)
    (ended : stream.tokens = [.endOfScript]) : ∃ position, stream = .finish position := by
  cases stream with
  | more token stop rest =>
    have inner : rest.Complete := complete
    exact absurd (List.cons.inj ended).2 inner.tokens_ne_nil
  | finish position => exact ⟨position, rfl⟩
  | failure error => cases complete

end TokenStream

open TokenStream

variable {α : Type} {stream rest : TokenStream} {stop : Nat}

/-- What was read and the tokens behind it. -/
def Parsed.behind (parsed : Parsed α stream) : α × TokenStream := (parsed.result, parsed.rest)

def readLevels (levels : List Level) (stream : TokenStream) :
    Except ParseError (Expr × TokenStream) :=
  (parseLevels levels stream).map Parsed.behind

def readChain (level : Level) (tighter : List Level) (left : Expr) (stream : TokenStream) :
    Except ParseError (Expr × TokenStream) :=
  (parseChain level tighter left stream).map Subtype.val

def readUnary (stream : TokenStream) : Except ParseError (Expr × TokenStream) :=
  (parseUnary stream).map Parsed.behind

def readPrimary (stream : TokenStream) : Except ParseError (Expr × TokenStream) :=
  (parsePrimary stream).map Parsed.behind

def readPath (path : String) (stream : TokenStream) : Except ParseError (String × TokenStream) :=
  (parsePath path stream).map Subtype.val

def readArguments (stream : TokenStream) : Except ParseError (List Expr × TokenStream) :=
  (parseArguments stream).map Parsed.behind

def readMoreArguments (stream : TokenStream) : Except ParseError (List Expr × TokenStream) :=
  (parseMoreArguments stream).map Subtype.val

theorem readLevels_nil (stream : TokenStream) : readLevels [] stream = readUnary stream := by
  simp only [readLevels, readUnary, parseLevels]

theorem readLevels_cons (level : Level) (tighter : List Level) (stream : TokenStream) :
    readLevels (level :: tighter) stream =
      readLevels tighter stream >>= fun (first, rest) => readChain level tighter first rest := by
  simp only [readLevels, parseLevels]
  cases parseLevels tighter stream with
  | error error => rfl
  | ok first =>
    simp only [bind, Except.bind, readChain, Parsed.behind, Except.map]
    cases parseChain level tighter first.result first.rest with
    | error error => rfl
    | ok read => rfl

/-- A chain goes on at an operator of its level. -/
theorem readChain_operator {level : Level} {sign : Symbol} {op : BinaryOp}
    (complete : rest.Complete) (spelled : level sign = some op) (tighter : List Level)
    (left : Expr) :
    readChain level tighter left (.more (.symbol sign) stop rest) =
      readLevels tighter rest >>= fun (right, behind) =>
        readChain level tighter (.binary op left right) behind := by
  rw [readChain, parseChain]
  simp only [Level.operator?, spelled, Option.map_some, complete.ready]
  simp only [bind, Except.bind, readLevels]
  cases parseLevels tighter rest with
  | error error => rfl
  | ok right =>
    simp only [readChain, Parsed.behind, Except.map]
    cases parseChain level tighter (.binary op left right.result) right.rest with
    | error error => rfl
    | ok read => rfl

/-- A chain ends at everything else. -/
theorem readChain_stop {level : Level} (ended : ∀ sign stop rest,
      stream = .more (.symbol sign) stop rest → level sign = none) (tighter : List Level)
    (left : Expr) : readChain level tighter left stream = .ok (left, stream) := by
  have none : level.operator? stream = none := by
    unfold Level.operator?
    split
    · rw [ended _ _ _ rfl, Option.map_none]
    · rfl
  rw [readChain, parseChain]
  simp only [none]
  rfl

theorem readUnary_minus (complete : rest.Complete) :
    readUnary (.more (.symbol .minus) stop rest) =
      (readUnary rest).map fun (operand, behind) => (.negate operand, behind) := by
  rw [readUnary, parseUnary]
  simp only [complete.ready, bind, Except.bind, readUnary]
  cases parseUnary rest with
  | error error => rfl
  | ok operand => rfl

theorem readUnary_primary (other : ∀ stop rest, stream ≠ .more (.symbol .minus) stop rest) :
    readUnary stream = readPrimary stream := by
  rw [readUnary, parseUnary]
  · rfl
  · exact other

theorem readPrimary_boolean (complete : rest.Complete) (value : Bool) :
    readPrimary (.more (.boolean value) stop rest) = .ok (.boolean value, rest) := by
  rw [readPrimary, parsePrimary]
  simp only [complete.ready]
  rfl

theorem readPrimary_number (complete : rest.Complete) (digits : String) :
    readPrimary (.more (.number digits) stop rest) =
      match Decimal.ofText? digits.toList with
      | some value => .ok (.number value, rest)
      | none => .error (.invalidNumber digits) := by
  rw [readPrimary, parsePrimary]
  simp only [complete.ready, bind, Except.bind]
  cases Decimal.ofText? digits.toList <;> rfl

theorem readPrimary_string (complete : rest.Complete) (text : String) :
    readPrimary (.more (.string text) stop rest) = .ok (.string text, rest) := by
  rw [readPrimary, parsePrimary]
  simp only [complete.ready]
  rfl

theorem readPrimary_finish (position : Nat) :
    readPrimary (.finish position) =
      .error ((TokenStream.finish position).unexpected "expression") := by
  rw [readPrimary, parsePrimary]
  · rfl
  all_goals simp

theorem readPrimary_end (stop : Nat) (rest : TokenStream) :
    readPrimary (.more .endOfScript stop rest) =
      .error ((TokenStream.more .endOfScript stop rest).unexpected "expression") := by
  rw [readPrimary, parsePrimary]
  · rfl
  all_goals simp

/-- No other symbol begins an operand. -/
theorem readPrimary_symbol {sign : Symbol} (other : sign ≠ .openParen) (stop : Nat)
    (rest : TokenStream) :
    readPrimary (.more (.symbol sign) stop rest) =
      .error ((TokenStream.more (.symbol sign) stop rest).unexpected "expression") := by
  rw [readPrimary, parsePrimary]
  · rfl
  all_goals simp [other]

/-- The tokens behind a symbol that has to be there. -/
def readSymbol (expected : Symbol) (stream : TokenStream) : Except ParseError TokenStream :=
  (expectSymbol expected stream).map (·.rest)

theorem readSymbol_self (complete : rest.Complete) (expected : Symbol) :
    readSymbol expected (.more (.symbol expected) stop rest) = .ok rest := by
  rw [readSymbol, expectSymbol, if_pos rfl, complete.ready]
  rfl

theorem readPrimary_parentheses (complete : rest.Complete) :
    readPrimary (.more (.symbol .openParen) stop rest) =
      readLevels precedence rest >>= fun (inner, behind) =>
        (readSymbol .closeParen behind).map fun last => (inner, last) := by
  rw [readPrimary, parsePrimary]
  simp only [complete.ready, bind, Except.bind, readLevels]
  cases parseLevels precedence rest with
  | error error => rfl
  | ok inner =>
    simp only [Parsed.behind, readSymbol, Except.map]
    cases expectSymbol .closeParen inner.rest <;> rfl

theorem readPrimary_call (complete : rest.Complete) (name : String) (after : Nat) :
    readPrimary (.more (.identifier name) stop (.more (.symbol .openParen) after rest)) =
      (readArguments rest).map fun (arguments, behind) => (.call name arguments, behind) := by
  rw [readPrimary, parsePrimary]
  simp only [complete.ready, bind, Except.bind, readArguments]
  cases parseArguments rest <;> rfl

theorem readPrimary_path (complete : rest.Complete) (name : String)
    (noCall : ∀ after behind, rest ≠ .more (.symbol .openParen) after behind) :
    readPrimary (.more (.identifier name) stop rest) =
      (readPath name rest).map fun (path, behind) => (.field path, behind) := by
  rw [readPrimary, parsePrimary]
  · simp only [complete.ready, bind, Except.bind, readPath]
    cases parsePath name rest <;> rfl
  · exact noCall

theorem readPath_name (complete : rest.Complete) (path name : String) (after : Nat) :
    readPath path (.more (.symbol .slash) stop (.more (.identifier name) after rest)) =
      readPath (path ++ "/" ++ name) rest := by
  rw [readPath, parsePath]
  simp only [complete.ready, bind, Except.bind, readPath]
  cases parsePath (path ++ "/" ++ name) rest <;> rfl

/-- The name that has to be there, and the tokens behind it. -/
def readIdentifier (stream : TokenStream) : Except ParseError (String × TokenStream) :=
  (expectIdentifier stream).map Parsed.behind

theorem readIdentifier_self (complete : rest.Complete) (name : String) :
    readIdentifier (.more (.identifier name) stop rest) = .ok (name, rest) := by
  rw [readIdentifier, expectIdentifier, complete.ready]
  rfl

theorem readPath_attribute (complete : rest.Complete) (path : String) (after : Nat) :
    readPath path (.more (.symbol .slash) stop (.more (.symbol .atSign) after rest)) =
      (readIdentifier rest).map fun (name, behind) => (path ++ "/@" ++ name, behind) := by
  rw [readPath, parsePath]
  simp only [complete.ready, bind, Except.bind, readIdentifier]
  cases expectIdentifier rest <;> rfl

theorem readPath_stop (complete : stream.Complete) (path : String)
    (noName : ∀ stop name after rest,
      stream ≠ .more (.symbol .slash) stop (.more (.identifier name) after rest))
    (noAttribute : ∀ stop after rest,
      stream ≠ .more (.symbol .slash) stop (.more (.symbol .atSign) after rest)) :
    readPath path stream = .ok (path, stream) := by
  rw [readPath, parsePath]
  · rfl
  · exact noName
  · exact noAttribute
  · rintro stop error rfl
    cases complete

theorem readArguments_close (complete : rest.Complete) :
    readArguments (.more (.symbol .closeParen) stop rest) = .ok ([], rest) := by
  rw [readArguments, parseArguments]
  simp only [complete.ready]
  rfl

theorem readArguments_first (other : ∀ stop rest, stream ≠ .more (.symbol .closeParen) stop rest) :
    readArguments stream =
      readLevels precedence stream >>= fun (first, rest) =>
        readMoreArguments rest >>= fun (others, behind) =>
          (readSymbol .closeParen behind).map fun last => (first :: others, last) := by
  rw [readArguments, parseArguments]
  · simp only [bind, Except.bind, readLevels]
    cases parseLevels precedence stream with
    | error error => rfl
    | ok first =>
      simp only [Parsed.behind, readMoreArguments, Except.map]
      cases parseMoreArguments first.rest with
      | error error => rfl
      | ok read =>
        simp only [readSymbol]
        cases expectSymbol .closeParen read.1.2 <;> rfl
  · exact other

theorem readMoreArguments_comma (complete : rest.Complete) :
    readMoreArguments (.more (.symbol .comma) stop rest) =
      readLevels precedence rest >>= fun (next, behind) =>
        (readMoreArguments behind).map fun (others, last) => (next :: others, last) := by
  rw [readMoreArguments, parseMoreArguments]
  simp only [complete.ready, bind, Except.bind, readLevels]
  cases parseLevels precedence rest with
  | error error => rfl
  | ok next =>
    simp only [Parsed.behind, readMoreArguments, Except.map]
    cases parseMoreArguments next.rest <;> rfl

theorem readMoreArguments_stop (other : ∀ stop rest, stream ≠ .more (.symbol .comma) stop rest) :
    readMoreArguments stream = .ok ([], stream) := by
  rw [readMoreArguments, parseMoreArguments]
  · rfl
  · exact other

/-- A script means what is read from its tokens if nothing is left behind it. -/
theorem parseStream_eq (complete : stream.Complete) :
    parseStream stream = readLevels precedence stream >>= fun (expr, behind) =>
      match behind with
      | .finish _ => .ok expr
      | behind => .error (behind.unexpected Token.endOfScript.describe) := by
  simp only [parseStream, complete.ready, bind, Except.bind, readLevels]
  cases parseLevels precedence stream <;> rfl

end DerivedFields.Script

import DerivedFields.Script.Parser

/-!
# The grammar of scripts

What a script may look like, independently of how it is read. A derivation starts with some tokens
and leaves others behind. The phrases are listed from loosest to tightest: the operands of a phrase
are phrases of the next kind, and a phrase that repeats its operators groups to the left.

A path takes as many segments as it can, so that a slash in front of a name or an attribute marker
never divides by the path before it.
-/

namespace DerivedFields.Script

/-- The kinds of phrases, from loosest to tightest. -/
inductive Phrase
  | disjunction
  | conjunction
  | comparison
  | sum
  | product
  | unary
  | primary
  deriving DecidableEq

namespace Phrase

/-- The kind of the operands of a phrase. -/
def operand? : Phrase → Option Phrase
  | .disjunction => some .conjunction
  | .conjunction => some .comparison
  | .comparison => some .sum
  | .sum => some .product
  | .product => some .unary
  | .unary => some .primary
  | .primary => none

/-- The signs that may stand between the operands of a phrase. -/
def operators : Phrase → List (Symbol × BinaryOp)
  | .disjunction => [(.disjunction, .disjunction)]
  | .conjunction => [(.conjunction, .conjunction)]
  | .comparison => [(.equal, .equal), (.notEqual, .notEqual), (.less, .less), (.greater, .greater),
      (.lessEqual, .lessEqual), (.greaterEqual, .greaterEqual)]
  | .sum => [(.plus, .add), (.minus, .subtract)]
  | .product => [(.star, .multiply), (.slash, .divide), (.percent, .modulo)]
  | .unary | .primary => []

end Phrase

/-- Whether tokens behind a name of a path continue it. -/
inductive ContinuesPath : List Token → Prop
  | segment (name : String) (rest : List Token) :
    ContinuesPath (.symbol .slash :: .identifier name :: rest)
  | marker (rest : List Token) : ContinuesPath (.symbol .slash :: .symbol .atSign :: rest)

/-- The tokens behind a name of a path begin with the segments that spell `text`. -/
inductive DerivesPath : List Token → String → List Token → Prop
  | stop {tokens : List Token} (ended : ¬ContinuesPath tokens) : DerivesPath tokens "" tokens
  | segment {name text : String} {tokens rest : List Token}
    (onward : DerivesPath tokens text rest) :
    DerivesPath (.symbol .slash :: .identifier name :: tokens) ("/" ++ name ++ text) rest
  | marker {name : String} {rest : List Token} :
    DerivesPath (.symbol .slash :: .symbol .atSign :: .identifier name :: rest) ("/@" ++ name) rest

mutual

/-- Tokens begin with a phrase that means an expression. -/
inductive Derives : Phrase → List Token → Expr → List Token → Prop
  | operand {phrase tighter : Phrase} {tokens rest : List Token} {expr : Expr}
    (next : phrase.operand? = some tighter) (operand : Derives tighter tokens expr rest) :
    Derives phrase tokens expr rest
  | operator {phrase tighter : Phrase} {sign : Symbol} {op : BinaryOp}
    {tokens behind rest : List Token} {left right : Expr}
    (next : phrase.operand? = some tighter) (spelled : (sign, op) ∈ phrase.operators)
    (onLeft : Derives phrase tokens left (.symbol sign :: behind))
    (onRight : Derives tighter behind right rest) :
    Derives phrase tokens (.binary op left right) rest
  | negation {tokens rest : List Token} {expr : Expr} (operand : Derives .unary tokens expr rest) :
    Derives .unary (.symbol .minus :: tokens) (.negate expr) rest
  | boolean {value : Bool} {rest : List Token} :
    Derives .primary (.boolean value :: rest) (.boolean value) rest
  | number {digits : String} {value : Decimal} {rest : List Token}
    (fits : Decimal.ofText? digits.toList = some value) :
    Derives .primary (.number digits :: rest) (.number value) rest
  | string {text : String} {rest : List Token} :
    Derives .primary (.string text :: rest) (.string text) rest
  | parentheses {tokens rest : List Token} {expr : Expr}
    (inner : Derives .disjunction tokens expr (.symbol .closeParen :: rest)) :
    Derives .primary (.symbol .openParen :: tokens) expr rest
  | call {name : String} {tokens rest : List Token} {arguments : List Expr}
    (inner : DerivesArguments tokens arguments rest) :
    Derives .primary (.identifier name :: .symbol .openParen :: tokens) (.call name arguments) rest
  | path {name text : String} {tokens rest : List Token} (onward : DerivesPath tokens text rest) :
    Derives .primary (.identifier name :: tokens) (.field (name ++ text)) rest

/-- Tokens begin with the arguments of a call and the parenthesis that closes it. -/
inductive DerivesArguments : List Token → List Expr → List Token → Prop
  | none {rest : List Token} : DerivesArguments (.symbol .closeParen :: rest) [] rest
  | some {tokens behind rest : List Token} {first : Expr} {others : List Expr}
    (inner : Derives .disjunction tokens first behind)
    (onward : DerivesMoreArguments behind others rest) :
    DerivesArguments tokens (first :: others) rest

/-- Tokens begin with further arguments, each behind a comma, and the closing parenthesis. -/
inductive DerivesMoreArguments : List Token → List Expr → List Token → Prop
  | none {rest : List Token} : DerivesMoreArguments (.symbol .closeParen :: rest) [] rest
  | some {tokens behind rest : List Token} {next : Expr} {others : List Expr}
    (inner : Derives .disjunction tokens next behind)
    (onward : DerivesMoreArguments behind others rest) :
    DerivesMoreArguments (.symbol .comma :: tokens) (next :: others) rest

end

end DerivedFields.Script

import DerivedFields.Decimal.Literal

/-!
# Expressions

What a script means before it is evaluated. Parentheses leave no trace; a call keeps its name as it
is spelled in the script.
-/

namespace DerivedFields.Script

inductive BinaryOp
  | equal
  | notEqual
  | less
  | greater
  | lessEqual
  | greaterEqual
  | add
  | subtract
  | multiply
  | divide
  | modulo
  | conjunction
  | disjunction
  deriving DecidableEq

def BinaryOp.spelling : BinaryOp → String
  | .equal => "=="
  | .notEqual => "!="
  | .less => "<"
  | .greater => ">"
  | .lessEqual => "<="
  | .greaterEqual => ">="
  | .add => "+"
  | .subtract => "-"
  | .multiply => "*"
  | .divide => "/"
  | .modulo => "%"
  | .conjunction => "&&"
  | .disjunction => "||"

inductive Expr
  | boolean (value : Bool)
  | number (value : Decimal)
  | string (text : String)
  | field (path : String)
  | negate (operand : Expr)
  | binary (op : BinaryOp) (left right : Expr)
  | call (name : String) (arguments : List Expr)

end DerivedFields.Script

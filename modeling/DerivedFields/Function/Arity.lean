/-!
# Arity

How many arguments a function takes.
-/

namespace DerivedFields

inductive Arity
  | exact (count : Nat)
  | range (fewest most : Nat)
  | atLeast (fewest : Nat)
  deriving DecidableEq

namespace Arity

def accepts : Arity → Nat → Bool
  | .exact n, count => count == n
  | .range fewest most, count => fewest ≤ count && count ≤ most
  | .atLeast fewest, count => fewest ≤ count

def toText : Arity → String
  | .exact n => toString n
  | .range fewest most =>
    toString fewest ++ (if most = fewest + 1 then " or " else "..") ++ toString most
  | .atLeast fewest => ">= " ++ toString fewest

end Arity

end DerivedFields

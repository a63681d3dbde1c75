import DerivedFields.Fault

/-!
# Numbers in words

English names of the integers below a quadrillion, in the short scale: hundreds, tens joined to
ones by a hyphen, and a name for every third power of ten.
-/

namespace DerivedFields

def smallNumberWords : List String := [
  "zero", "one", "two", "three", "four", "five", "six", "seven", "eight", "nine", "ten", "eleven",
  "twelve", "thirteen", "fourteen", "fifteen", "sixteen", "seventeen", "eighteen", "nineteen"]

/-- The names of the multiples of ten, from twenty on. -/
def tensWords : List String := [
  "twenty", "thirty", "forty", "fifty", "sixty", "seventy", "eighty", "ninety"]

/-- The names of the powers of a thousand, from the first on. -/
def scaleWords : List String := ["thousand", "million", "billion", "trillion"]

/-- The name of a number below twenty. -/
def smallWord (n : Nat) : String := smallNumberWords.getD n ""

/-- The words of a number below a hundred; none for zero. -/
def tensPhrase (n : Nat) : List String :=
  if n = 0 then []
  else if n < 20 then [smallWord n]
  else
    let tens := tensWords.getD (n / 10 - 2) ""
    [if n % 10 = 0 then tens else tens ++ "-" ++ smallWord (n % 10)]

/-- The words of a number below a thousand; none for zero. -/
def hundredsPhrase (n : Nat) : List String :=
  (if n < 100 then [] else [smallWord (n / 100), "hundred"]) ++ tensPhrase (n % 100)

/-- The words of a number whose lowest three digits count powers of a thousand that `scales` names,
the first of them being the present one. -/
def groupsPhrase : List (List String) → Nat → List String
  | [], _ => []
  | scale :: scales, n =>
    groupsPhrase scales (n / 1000) ++
      if n % 1000 = 0 then [] else hundredsPhrase (n % 1000) ++ scale

/-- The words of a natural number. -/
def naturalPhrase (n : Nat) : List String :=
  if n = 0 then ["zero"] else groupsPhrase ([] :: scaleWords.map ([·])) n

/-- The text of an integer in words. -/
def numberToWords (n : Int) : Except EvalError String :=
  if wordsLimit ≤ n.natAbs then .error (.range (.unnamedNumber n))
  else .ok (" ".intercalate ((if n < 0 then ["minus"] else []) ++ naturalPhrase n.natAbs))

end DerivedFields

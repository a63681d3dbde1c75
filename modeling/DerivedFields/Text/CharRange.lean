/-!
# Ranges of characters

Character classes beyond ASCII are kept as lists of inclusive code point ranges.
-/

namespace DerivedFields.Text

/-- A character lies in one of the inclusive code point ranges of a table. -/
def inRanges (ranges : List (Nat × Nat)) (c : Char) : Bool :=
  ranges.any fun range => range.1 ≤ c.toNat && c.toNat ≤ range.2

end DerivedFields.Text

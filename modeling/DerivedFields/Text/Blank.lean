/-!
# Blank characters

The characters with the property *White_Space*, and trimming by it. Blank text is text that
trims to nothing.
-/

namespace DerivedFields.Text

/-- The property *White_Space*. -/
def isBlank (c : Char) : Bool :=
  let code := c.toNat
  (0x09 ≤ code && code ≤ 0x0d) || code == 0x20 || code == 0x85 || code == 0xa0 ||
    code == 0x1680 || (0x2000 ≤ code && code ≤ 0x200a) || code == 0x2028 || code == 0x2029 ||
    code == 0x202f || code == 0x205f || code == 0x3000

/-- Drops characters of a class from the end. -/
def dropEndWhile (drop : Char → Bool) (text : List Char) : List Char :=
  (text.reverse.dropWhile drop).reverse

/-- Drops characters of a class from both ends. -/
def stripWhile (drop : Char → Bool) (text : List Char) : List Char :=
  dropEndWhile drop (text.dropWhile drop)

def trimStart (text : List Char) : List Char := text.dropWhile isBlank
def trimEnd (text : List Char) : List Char := dropEndWhile isBlank text

/-- Text without the blanks at both ends. -/
def trim (text : List Char) : List Char := stripWhile isBlank text

/-- Nothing is dropped from text that has no blanks. -/
theorem trim_of_noBlank {text : List Char} (noBlank : ∀ c ∈ text, isBlank c = false) :
    trim text = text := by
  have keeps (part : List Char) (inside : ∀ c ∈ part, c ∈ text) :
      part.dropWhile isBlank = part := by
    cases part with
    | nil => rfl
    | cons c rest =>
      apply List.dropWhile_cons_of_neg
      rw [noBlank c (inside c List.mem_cons_self)]
      exact Bool.false_ne_true
  rw [trim, stripWhile, dropEndWhile, keeps text fun _ member => member,
    keeps text.reverse fun _ member => List.mem_reverse.mp member, List.reverse_reverse]

/-- Text of blanks only, the empty text included. -/
def allBlank (text : List Char) : Bool := text.all isBlank

end DerivedFields.Text

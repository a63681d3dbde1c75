import DerivedFields.Text.Case
import DerivedFields.Text.Digit
import DerivedFields.Text.Search

/-!
# Positions in a text

Positions count characters from one, offsets from zero. No position is out of range: one that lies
outside the text is taken as its start or end, or finds nothing.
-/

namespace DerivedFields.Text

/-- Text with another put in at an offset. -/
def insertAt (offset : Int) (inserted text : List Char) : List Char :=
  text.take offset.toNat ++ inserted ++ text.drop offset.toNat

/-- Offset of the first occurrence that is not before `start`. -/
def firstFrom? (pattern text : List Char) (start : Nat) : Option Nat :=
  if text.length < start then none
  else (indexOf? pattern (text.drop start)).map (start + ·)

/-- The greatest offset up to `start` at which the pattern occurs. -/
def lastUpTo? (pattern text : List Char) : Nat → Option Nat
  | 0 => if pattern.isPrefixOf text then some 0 else none
  | start + 1 =>
    if pattern.isPrefixOf (text.drop (start + 1)) then some (start + 1)
    else lastUpTo? pattern text start

/-- The text from a position on; nothing if the position is outside. -/
def substringFrom (text : List Char) (position : Int) : List Char :=
  if position < 1 ∨ text.length < position then [] else text.drop (position - 1).toNat

/-- Text with `count` characters from a position on replaced. -/
def replaceRange (text : List Char) (position count : Int) (replacement : List Char) : List Char :=
  let start := min (max position 1 - 1).toNat text.length
  let stop := min (start + count.toNat) text.length
  text.take start ++ replacement ++ text.drop stop

/-- The text before the first occurrence of a separator, or all of it. -/
def before (separator text : List Char) : List Char :=
  match cutFirst? separator text with
  | some (first, _) => first
  | none => text

/-- The text behind the first occurrence of a separator, or all of it. -/
def after (separator text : List Char) : List Char :=
  match cutFirst? separator text with
  | some (_, second) => second
  | none => text

/-- Upper case for the first letter or digit of every word and lower case for the others;
`newWord` tells that the next one begins a word. -/
def titleFrom (newWord : Bool) : List Char → List Char
  | [] => []
  | c :: text =>
    if isAlphanumeric c then
      (if newWord then upperChar c else lowerChar c) ++ titleFrom false text
    else c :: titleFrom true text

def titleCase (text : List Char) : List Char := titleFrom true text

end DerivedFields.Text

import DerivedFields.Text.Search

/-!
# Names of months and weekdays

A name begins with its three letter form. Reading takes the short form in any case, and where full
names are read, also the rest of the full name if it follows.
-/

namespace DerivedFields.Calendar

/-- A name as its short form and what the full form adds. -/
structure Name where
  short : String
  ending : String

def Name.full (name : Name) : String := name.short ++ name.ending

def months : List Name := [
  ⟨"Jan", "uary"⟩, ⟨"Feb", "ruary"⟩, ⟨"Mar", "ch"⟩, ⟨"Apr", "il"⟩, ⟨"May", ""⟩, ⟨"Jun", "e"⟩,
  ⟨"Jul", "y"⟩, ⟨"Aug", "ust"⟩, ⟨"Sep", "tember"⟩, ⟨"Oct", "ober"⟩, ⟨"Nov", "ember"⟩,
  ⟨"Dec", "ember"⟩]

/-- The weekdays from Monday on. -/
def weekdays : List Name := [
  ⟨"Mon", "day"⟩, ⟨"Tue", "sday"⟩, ⟨"Wed", "nesday"⟩, ⟨"Thu", "rsday"⟩, ⟨"Fri", "day"⟩,
  ⟨"Sat", "urday"⟩, ⟨"Sun", "day"⟩]

/-- The form of the name with an index. -/
def nameText (full : Bool) (names : List Name) (index : Nat) : List Char :=
  match names[index]? with
  | some name => (if full then name.full else name.short).toList
  | none => []

/-- What follows a word at the start of the text, up to the case of ASCII letters. -/
def dropWord? (word : String) (text : List Char) : Option (List Char) :=
  if (text.take word.length).map Char.toLower = word.toList.map Char.toLower then
    some (text.drop word.length)
  else none

/-- Reads a name: its index counted from `index` on, and the text behind it. -/
def readNameFrom? (full : Bool) (index : Nat) : List Name → List Char → Option (Nat × List Char)
  | [], _ => none
  | name :: names, text =>
    match dropWord? name.short text with
    | some rest => some (index, if full then (dropWord? name.ending rest).getD rest else rest)
    | none => readNameFrom? full (index + 1) names text

/-- Reads a name at the start of the text. -/
def readName? (full : Bool) (names : List Name) (text : List Char) : Option (Nat × List Char) :=
  readNameFrom? full 0 names text

end DerivedFields.Calendar

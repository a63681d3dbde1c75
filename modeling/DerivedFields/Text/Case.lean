import DerivedFields.Text.CaseTable
import DerivedFields.Text.Cased

/-!
# Upper and lower case

Full case mapping of text. One character may become several, and a capital sigma becomes the final
form at the end of a word. `foldAscii` and `equalsIgnoringCase` touch ASCII letters only.
-/

namespace DerivedFields.Text

/-- Upper case of one character. -/
def upperChar (c : Char) : List Char :=
  if c.toNat < 0x80 then [c.toUpper]
  else match upperExpansions.lookup c.toNat with
    | some codes => codes.map Char.ofNat
    | none => [Char.ofNat (CaseRun.apply upperRuns c.toNat)]

/-- Lower case of one character on its own. -/
def lowerChar (c : Char) : List Char :=
  if c.toNat < 0x80 then [c.toLower]
  else if c.toNat == 0x130 then ['i', Char.ofNat 0x307]
  else [Char.ofNat (CaseRun.apply lowerRuns c.toNat)]

def upper (text : List Char) : List Char := text.flatMap upperChar

/-- The nearest character that is not case-ignorable is cased. -/
def reachesCased (text : List Char) : Bool :=
  match text.dropWhile isCaseIgnorable with
  | c :: _ => isCased c
  | [] => false

/-- Lower case of text that follows `before`, the characters before it in reverse. -/
def lowerAfter (before : List Char) : List Char → List Char
  | [] => []
  | c :: rest =>
    let mapped :=
      if c.toNat == 0x3a3 then
        [Char.ofNat (if reachesCased before && !reachesCased rest then 0x3c2 else 0x3c3)]
      else lowerChar c
    mapped ++ lowerAfter (c :: before) rest

def lower (text : List Char) : List Char := lowerAfter [] text

/-- Lower case of ASCII letters, all else unchanged. -/
def foldAscii (text : String) : String := String.ofList (text.toList.map Char.toLower)

/-- Equal up to the case of ASCII letters. -/
def equalsIgnoringCase (left right : String) : Bool :=
  left.toList.map Char.toLower == right.toList.map Char.toLower

end DerivedFields.Text

import DerivedFields.Script.Lexer
import DerivedFields.Text.Search

/-!
# Escaped characters in XML

Five characters are written as entities, in text and in attribute values alike. Reading knows these
five entities and character references, and refuses everything else that begins with an ampersand.
-/

namespace DerivedFields.Xml

def escapeChar (c : Char) : List Char :=
  if c = '<' then ['&', 'l', 't', ';']
  else if c = '>' then ['&', 'g', 't', ';']
  else if c = '&' then ['&', 'a', 'm', 'p', ';']
  else if c = '\'' then ['&', 'a', 'p', 'o', 's', ';']
  else if c = '"' then ['&', 'q', 'u', 'o', 't', ';']
  else [c]

def escape (text : String) : List Char := text.toList.flatMap escapeChar

/-- A number in ASCII digits of a base; the digits are checked by `digit?`. -/
def readCode? (base : Nat) (digit? : Char → Option Nat) : List Char → Option Nat
  | [] => none
  | digits => digits.foldlM (fun code c => (digit? c).map (code * base + ·)) 0

def decimalDigit? (c : Char) : Option Nat :=
  if c.isDigit then some (c.toNat - '0'.toNat) else none

/-- The character that the text between ampersand and semicolon stands for. -/
def reference? : List Char → Option Char
  | ['l', 't'] => some '<'
  | ['g', 't'] => some '>'
  | ['a', 'm', 'p'] => some '&'
  | ['a', 'p', 'o', 's'] => some '\''
  | ['q', 'u', 'o', 't'] => some '"'
  | '#' :: 'x' :: digits => do
    let code ← readCode? 16 Script.hexDigit? digits
    if code = 0 then none else Script.charOfCode? code
  | '#' :: digits => do
    let code ← readCode? 10 decimalDigit? digits
    if code = 0 then none else Script.charOfCode? code
  | _ => none

/-- Text with its references decoded; `reading` holds the reference that is being read, in reverse.
Another ampersand inside a reference is an error, and so is the end of the text. -/
def unescapeFrom? (reading : Option (List Char)) : List Char → Option (List Char)
  | [] => if reading.isSome then none else some []
  | c :: rest =>
    match reading with
    | none => if c = '&' then unescapeFrom? (some []) rest else (unescapeFrom? none rest).map (c :: ·)
    | some reversed =>
      if c = '&' then none
      else if c = ';' then do
        let decoded ← reference? reversed.reverse
        (unescapeFrom? none rest).map (decoded :: ·)
      else unescapeFrom? (some (c :: reversed)) rest

def unescape? (text : List Char) : Option String := (unescapeFrom? none text).map String.ofList

end DerivedFields.Xml

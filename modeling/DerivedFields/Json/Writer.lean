import DerivedFields.Json.Number

/-!
# Writing JSON

Compact text has no gaps at all. Pretty text puts every item and member on a line of its own,
indented by two blanks for each container around it; an empty container stays on one line.
-/

namespace DerivedFields.Json

def hexDigits : Nat → Char
  | 10 => 'a'
  | 11 => 'b'
  | 12 => 'c'
  | 13 => 'd'
  | 14 => 'e'
  | 15 => 'f'
  | n => Char.ofNat ('0'.toNat + n)

/-- A character inside a string: quotes, backslashes and control characters are escaped. -/
def escapeChar (c : Char) : List Char :=
  if c = '"' then ['\\', '"']
  else if c = '\\' then ['\\', '\\']
  else if c = '\x08' then ['\\', 'b']
  else if c = '\x0c' then ['\\', 'f']
  else if c = '\n' then ['\\', 'n']
  else if c = '\r' then ['\\', 'r']
  else if c = '\t' then ['\\', 't']
  else if c.toNat < 0x20 then
    ['\\', 'u', '0', '0', hexDigits (c.toNat / 16), hexDigits (c.toNat % 16)]
  else [c]

/-- A string literal. -/
def quoted (text : String) : List Char := '"' :: text.toList.flatMap escapeChar ++ ['"']

/-- A literal without parts. -/
def atomText : Json → List Char
  | .boolean true => ['t', 'r', 'u', 'e']
  | .boolean false => ['f', 'a', 'l', 's', 'e']
  | .number value => value.toText
  | .string text => quoted text
  | _ => ['n', 'u', 'l', 'l']

mutual

/-- Text without gaps. -/
def compact : Json → List Char
  | .array items => '[' :: compactItems items ++ [']']
  | .object members => '\x7b' :: compactMembers members ++ ['\x7d']
  | atom => atomText atom

def compactItems : List Json → List Char
  | [] => []
  | [item] => compact item
  | item :: items => compact item ++ ',' :: compactItems items

def compactMembers : List (String × Json) → List Char
  | [] => []
  | [(key, value)] => quoted key ++ ':' :: compact value
  | (key, value) :: members => quoted key ++ ':' :: compact value ++ ',' :: compactMembers members

end

/-- A line break and the indentation of a depth. -/
def newLine (depth : Nat) : List Char := '\n' :: List.replicate (2 * depth) ' '

mutual

/-- Text with a line for every item and member. -/
def pretty (depth : Nat) : Json → List Char
  | .array [] => ['[', ']']
  | .array items => '[' :: prettyItems (depth + 1) items ++ newLine depth ++ [']']
  | .object [] => ['\x7b', '\x7d']
  | .object members => '\x7b' :: prettyMembers (depth + 1) members ++ newLine depth ++ ['\x7d']
  | atom => atomText atom

def prettyItems (depth : Nat) : List Json → List Char
  | [] => []
  | [item] => newLine depth ++ pretty depth item
  | item :: items => newLine depth ++ pretty depth item ++ ',' :: prettyItems depth items

def prettyMembers (depth : Nat) : List (String × Json) → List Char
  | [] => []
  | [(key, value)] => newLine depth ++ quoted key ++ ':' :: ' ' :: pretty depth value
  | (key, value) :: members =>
    newLine depth ++ quoted key ++ ':' :: ' ' :: pretty depth value ++
      ',' :: prettyMembers depth members

end

def toCompactText (json : Json) : String := String.ofList json.compact
def toPrettyText (json : Json) : String := String.ofList (json.pretty 0)

end DerivedFields.Json

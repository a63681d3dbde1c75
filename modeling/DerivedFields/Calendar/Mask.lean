import DerivedFields.Calendar.Field
import DerivedFields.Fault

/-!
# Date masks

A mask is a sequence of fields and literal characters. Letters are fields; text in single quotes is
literal, and two quotes are one. A text is read in two passes: it must have the form of the mask,
and then the fields are read from left to right, each as long as it can be.
-/

namespace DerivedFields

inductive MaskItem
  | literal (c : Char)
  | field (field : DateField)
  deriving DecidableEq

/-- A compiled mask and the text that it was compiled from. -/
structure DateMask where
  source : String
  items : List MaskItem
  deriving DecidableEq

/-- The text up to the closing quote, and what follows. Two quotes are one. -/
def quotedText? : List Char → Option (List Char × List Char)
  | [] => none
  | '\'' :: '\'' :: rest => (quotedText? rest).map fun (text, behind) => ('\'' :: text, behind)
  | '\'' :: rest => some ([], rest)
  | c :: rest => (quotedText? rest).map fun (text, behind) => (c :: text, behind)

private theorem quotedText?_length {input text behind : List Char}
    (found : quotedText? input = some (text, behind)) : behind.length < input.length := by
  fun_induction quotedText? input generalizing text behind with
  | case1 => simp at found
  | case2 rest ih =>
    obtain ⟨⟨first, second⟩, inner, same⟩ := Option.map_eq_some_iff.1 found
    simp only [Prod.mk.injEq] at same
    have := ih inner
    rw [← same.2]
    simp only [List.length_cons]
    omega
  | case3 rest =>
    simp only [Option.some.injEq, Prod.mk.injEq] at found
    simp [← found.2]
  | case4 c rest _ _ ih =>
    obtain ⟨⟨first, second⟩, inner, same⟩ := Option.map_eq_some_iff.1 found
    simp only [Prod.mk.injEq] at same
    have := ih inner
    rw [← same.2]
    simp only [List.length_cons]
    omega

/-- The literal behind an opening quote, and what follows. An empty literal is a quote. -/
def readLiteral? : List Char → Option (List Char × List Char)
  | '\'' :: rest => some (['\''], rest)
  | input => quotedText? input

theorem readLiteral?_length {input text behind : List Char}
    (found : readLiteral? input = some (text, behind)) : behind.length ≤ input.length := by
  unfold readLiteral? at found
  split at found
  · simp only [Option.some.injEq, Prod.mk.injEq] at found
    simp [← found.2]
  · exact Nat.le_of_lt (quotedText?_length found)

/-- The items of the rest of a mask. -/
def compileFrom (mask : String) (input : List Char) : Except DateFault (List MaskItem) :=
  match input with
  | [] => .ok []
  | '\'' :: rest =>
    match found : readLiteral? rest with
    | none => .error (.unterminatedQuote mask)
    | some (text, behind) =>
      have := readLiteral?_length found
      (compileFrom mask behind).map fun items => text.map .literal ++ items
  | c :: rest =>
    if c.isAlpha then
      match DateField.ofRun? c ((rest.takeWhile (· == c)).length + 1) with
      | none => .error (.unsupportedField mask (String.ofList (c :: rest.takeWhile (· == c))))
      | some field =>
        have := (List.dropWhile_sublist (l := rest) (· == c)).length_le
        (compileFrom mask (rest.dropWhile (· == c))).map fun items => .field field :: items
    else (compileFrom mask rest).map fun items => .literal c :: items
termination_by input.length
decreasing_by all_goals simp only [List.length_cons]; omega

namespace MaskItem

/-- The item in the notation of percent signs, which doubles a percent sign itself. -/
def percentText : MaskItem → List Char
  | .literal c => if c = '%' then ['%', '%'] else [c]
  | .field part => part.percentText.toList

def isDatePart : MaskItem → Bool
  | .literal _ => false
  | .field part => part.isDatePart

def write (value : DateTime) : MaskItem → List Char
  | .literal c => [c]
  | .field part => part.write value

/-- The text has the form of the item. -/
def admits : MaskItem → List Char → Bool
  | .literal c => (· == [c])
  | .field part => part.admits

/-- Reads the item at the start of the text. A blank stands for any number of blanks. -/
def read? (parts : DateParts) (text : List Char) : MaskItem → Option (DateParts × List Char)
  | .literal c =>
    if Text.isBlank c then some (parts, Text.trimStart text)
    else (Text.dropPrefix? [c] text).map ((parts, ·))
  | .field part => part.read? parts text

/-- The text is divided into pieces of the form of the items, one for each. -/
def fits : List MaskItem → List Char → Bool
  | [], text => text.isEmpty
  | item :: items, text =>
    (List.range (text.length + 1)).any fun n => item.admits (text.take n) && fits items (text.drop n)

/-- Reads the items from left to right, up to the end of the text. -/
def readAll? (parts : DateParts) : List MaskItem → List Char → Option DateParts
  | [], text => if text.isEmpty then some parts else none
  | item :: items, text => do
    let (parts, rest) ← item.read? parts text
    readAll? parts items rest

end MaskItem

namespace DateMask

def compile (mask : String) : Except DateFault DateMask :=
  (compileFrom mask mask.toList).map fun items => ⟨mask, items⟩

/-- The mask in the notation of percent signs. -/
def percentText (mask : DateMask) : String :=
  String.ofList (mask.items.flatMap MaskItem.percentText)

/-- A mask without any part of a date. -/
def isTimeOnly (mask : DateMask) : Bool := !mask.items.any MaskItem.isDatePart

/-- The masks that make sense for writing only. -/
def outputOnly : List String := ["yyyy"]

/-- The date-time that the parts read with this mask stand for. A time alone is on the first day of
1970, and a date without a complete time is at midnight. -/
def ofParts? (mask : DateMask) (parts : DateParts) : Option DateTime :=
  if mask.isTimeOnly then parts.time?.map fun time => ⟨Date.epoch, time⟩
  else match parts.dateTime? with
    | some value => some value
    | none => parts.date?.map fun date => ⟨date, TimeOfDay.midnight⟩

/-- Reads a text of the form of the mask. -/
def read? (mask : DateMask) (input : String) : Option DateTime :=
  if MaskItem.fits mask.items input.toList then
    (MaskItem.readAll? DateParts.none mask.items input.toList).bind mask.ofParts?
  else none

def parse (mask : DateMask) (input : String) : Except DateFault DateTime :=
  if outputOnly.contains mask.source then .error (.outputOnly mask.source)
  else match mask.read? input with
    | some value => .ok value
    | none => .error (.invalid input mask.source)

def format (mask : DateMask) (value : DateTime) : String :=
  String.ofList (mask.items.flatMap (MaskItem.write value))

/-- The input masks that are tried when none is given, in this order. -/
def supportedSources : List String := [
  "yyyy-MM-dd'T'HH:mm:ss",
  "MM-dd-yyyy",
  "MMMM dd, yyyy",
  "MM/dd/yyyy",
  "yyyy-MM-dd",
  "HH:mm:ss",
  "hh:mm:ss a"]

def supported : List DateMask := supportedSources.filterMap fun source => (compile source).toOption

/-- Reads a text with the first supported mask that takes it. -/
def autodetect (input : String) : Except DateFault DateTime :=
  match supported.findSome? fun mask => (mask.parse input).toOption with
  | some value => .ok value
  | none => .error (.undetected input)

/-- The first supported mask that takes both texts. -/
def common? (first second : String) : Option DateMask :=
  supported.find? fun mask => (mask.parse first).isOk && (mask.parse second).isOk

end DateMask

end DerivedFields

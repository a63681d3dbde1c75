/-!
# Occurrences and lines

Finding one text in another, the two parts around the first occurrence, and replacing all
occurrences from left to right. The empty text occurs before every character and at the end. Runs
of characters of one class are found with the functions for lists.
-/

namespace DerivedFields.Text

/-- A run of characters of a class ends where no character of the class follows. -/
theorem takeWhile_append {p : Char → Bool} {run rest : List Char} (all : ∀ c ∈ run, p c = true)
    (ends : ∀ c ∈ rest.head?, p c = false) : (run ++ rest).takeWhile p = run := by
  rw [List.takeWhile_append_of_pos all]
  cases rest with
  | nil => rw [List.takeWhile_nil, List.append_nil]
  | cons c tail =>
    have stop : ¬p c = true := by
      rw [ends c rfl]
      exact Bool.false_ne_true
    rw [List.takeWhile_cons_of_neg stop, List.append_nil]

/-- Behind a run of characters of a class stands what does not go on with it. -/
theorem dropWhile_append {p : Char → Bool} {run rest : List Char} (all : ∀ c ∈ run, p c = true)
    (ends : ∀ c ∈ rest.head?, p c = false) : (run ++ rest).dropWhile p = rest := by
  rw [List.dropWhile_append_of_pos all]
  cases rest with
  | nil => rw [List.dropWhile_nil]
  | cons c tail =>
    have stop : ¬p c = true := by
      rw [ends c rfl]
      exact Bool.false_ne_true
    rw [List.dropWhile_cons_of_neg stop]

/-- What is left of `text` behind `pattern`, if it starts with it. -/
def dropPrefix? : (pattern text : List Char) → Option (List Char)
  | [], text => some text
  | p :: pattern, c :: text => if p = c then dropPrefix? pattern text else none
  | _ :: _, [] => none

theorem dropPrefix?_eq_some {pattern text rest : List Char}
    (found : dropPrefix? pattern text = some rest) : text = pattern ++ rest := by
  fun_induction dropPrefix? pattern text with
  | case1 text => simpa using found
  | case2 p pattern text ih => simp [ih found]
  | case3 => simp at found
  | case4 => simp at found

/-- The text before and behind the first occurrence of `pattern`. -/
def cutFirst? (pattern : List Char) (text : List Char) : Option (List Char × List Char) :=
  match dropPrefix? pattern text with
  | some rest => some ([], rest)
  | none => match text with
    | [] => none
    | c :: text => (cutFirst? pattern text).map fun (before, after) => (c :: before, after)

theorem cutFirst?_eq_some {pattern text before after : List Char}
    (found : cutFirst? pattern text = some (before, after)) :
    text = before ++ pattern ++ after := by
  induction text generalizing before after with
  | nil =>
    unfold cutFirst? at found
    split at found
    · next rest start =>
      simp only [Option.some.injEq, Prod.mk.injEq] at found
      rw [dropPrefix?_eq_some start, ← found.1, ← found.2, List.nil_append]
    · simp at found
  | cons c text ih =>
    unfold cutFirst? at found
    split at found
    · next rest start =>
      simp only [Option.some.injEq, Prod.mk.injEq] at found
      rw [dropPrefix?_eq_some start, ← found.1, ← found.2, List.nil_append]
    · obtain ⟨⟨first, second⟩, inner, same⟩ := Option.map_eq_some_iff.1 found
      simp only [Prod.mk.injEq] at same
      rw [ih inner, ← same.1, ← same.2]
      simp

/-- Offset of the first occurrence of `pattern`. -/
def indexOf? (pattern text : List Char) : Option Nat :=
  (cutFirst? pattern text).map (·.1.length)

/-- Replaces the occurrences of a nonempty pattern, leftmost first. The number counts the characters
of the last occurrence that are still to be dropped. -/
def replaceFrom (pattern replacement : List Char) : Nat → List Char → List Char
  | _, [] => []
  | skip + 1, _ :: text => replaceFrom pattern replacement skip text
  | 0, c :: text =>
    if (dropPrefix? pattern (c :: text)).isSome then
      replacement ++ replaceFrom pattern replacement (pattern.length - 1) text
    else c :: replaceFrom pattern replacement 0 text

/-- All occurrences of `pattern` replaced. An empty pattern puts the replacement around every
character. -/
def replaceAll (pattern replacement text : List Char) : List Char :=
  match pattern with
  | [] => replacement ++ text.flatMap fun c => c :: replacement
  | _ :: _ => replaceFrom pattern replacement 0 text

/-- The pieces of `text` between the occurrences of a separating character. -/
def splitAtChar (separator : Char) : List Char → List (List Char)
  | [] => [[]]
  | c :: text =>
    if c = separator then [] :: splitAtChar separator text
    else match splitAtChar separator text with
      | piece :: pieces => (c :: piece) :: pieces
      | [] => [[c]]

theorem splitAtChar_ne_nil (separator : Char) (text : List Char) :
    splitAtChar separator text ≠ [] := by
  cases text with
  | nil => exact List.cons_ne_nil _ _
  | cons c text =>
    rw [splitAtChar]
    split
    · exact List.cons_ne_nil _ _
    · split <;> exact List.cons_ne_nil _ _

/-- The pieces on both sides of a separating character. -/
theorem splitAtChar_append (separator : Char) (before after : List Char) :
    splitAtChar separator (before ++ separator :: after) =
      splitAtChar separator before ++ splitAtChar separator after := by
  induction before with
  | nil => simp only [List.nil_append, splitAtChar, if_true, List.singleton_append]
  | cons c before ih =>
    rw [List.cons_append, splitAtChar, splitAtChar, ih]
    split
    · rfl
    · cases pieces : splitAtChar separator before with
      | nil => exact absurd pieces (splitAtChar_ne_nil separator before)
      | cons piece pieces => rfl

/-- The pieces of two texts with a slash between them. -/
theorem splitAtChar_slash (first second : String) :
    splitAtChar '/' (first ++ "/" ++ second).toList =
      splitAtChar '/' first.toList ++ splitAtChar '/' second.toList := by
  rw [String.toList_append, String.toList_append, List.append_assoc]
  exact splitAtChar_append '/' first.toList second.toList

/-- Text without the separating character is one piece. -/
theorem splitAtChar_of_notMem {separator : Char} {text : List Char} (absent : separator ∉ text) :
    splitAtChar separator text = [text] := by
  induction text with
  | nil => rfl
  | cons c text ih =>
    rw [List.mem_cons, not_or] at absent
    rw [splitAtChar, if_neg (Ne.symm absent.1), ih absent.2]

/-- The text before and behind the first character of a class. -/
def cutAtChar? (isCut : Char → Bool) : List Char → Option (List Char × List Char)
  | [] => none
  | c :: text =>
    if isCut c then some ([], text)
    else (cutAtChar? isCut text).map fun (before, after) => (c :: before, after)

/-- Joins pieces with a separator between them. -/
def joinWith (separator : List Char) : List (List Char) → List Char
  | [] => []
  | [piece] => piece
  | piece :: pieces => piece ++ separator ++ joinWith separator pieces

/-! ## Lines

A line ends at a line feed, with or without a carriage return in front of it. A line feed at the
end of the text begins no further line. -/

/-- A line without the carriage return that belongs to its line feed. -/
def dropCarriageReturn (line : List Char) : List Char :=
  if line.getLast? = some '\r' then line.dropLast else line

/-- Pieces between line feeds as lines. Only the last has no line feed behind it. -/
def linesOf : List (List Char) → List (List Char)
  | [] => []
  | [last] => if last.isEmpty then [] else [last]
  | line :: rest => dropCarriageReturn line :: linesOf rest

def lines (text : String) : List (List Char) := linesOf (splitAtChar '\n' text.toList)

end DerivedFields.Text

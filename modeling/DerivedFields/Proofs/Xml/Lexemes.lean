import DerivedFields.Proofs.Xml.Parts
import DerivedFields.Xml.Writer

/-!
# Reading back tags

What is written of a text has neither brackets nor quotes, and its entities are read as the
characters that they stand for. So a tag ends at the bracket that was written to end it, each value
at its second quote, and well-formed names end where blanks, equals signs and brackets follow.
-/

namespace DerivedFields.Xml

/-! ## Escapes -/

/-- The five characters that are escaped. -/
def escapedChars : List Char := ['<', '>', '&', '\'', '"']

theorem escapeChar_of_notMem {c : Char} (plain : c ∉ escapedChars) : escapeChar c = [c] := by
  simp only [escapedChars, List.mem_cons, List.not_mem_nil, or_false, not_or] at plain
  simp only [escapeChar, plain, if_false]

private theorem unescapeFrom?_escapeChar (c : Char) (rest : List Char) :
    unescapeFrom? none (escapeChar c ++ rest) = (unescapeFrom? none rest).map (c :: ·) := by
  by_cases special : c ∈ escapedChars
  · simp only [escapedChars, List.mem_cons, List.not_mem_nil, or_false] at special
    rcases special with rfl | rfl | rfl | rfl | rfl <;> rfl
  · have plain : c ≠ '&' := fun same => special (by rw [same]; decide)
    rw [escapeChar_of_notMem special, List.singleton_append, unescapeFrom?, if_neg plain]

/-- Text is read back from its escaped form. -/
theorem unescape?_escape (text : String) : unescape? (escape text) = some text := by
  have decoded (characters : List Char) :
      unescapeFrom? none (characters.flatMap escapeChar) = some characters := by
    induction characters with
    | nil => rfl
    | cons c rest ih =>
      rw [List.flatMap_cons, unescapeFrom?_escapeChar, ih, Option.map_some]
  rw [unescape?, escape, decoded, Option.map_some, String.ofList_toList]

/-- No character of escaped text is a bracket or a quote. -/
theorem ne_of_mem_escape {c mark : Char} {text : String} (member : c ∈ escape text)
    (special : mark ∈ ['<', '>', '"', '\'']) : c ≠ mark := by
  have among : ∀ d ∈ ['<', '>', '"', '\''], d ∈ escapedChars := forall_mem_of_all (by decide)
  have entities : ∀ d ∈ escapedChars.flatMap escapeChar, d ∉ ['<', '>', '"', '\''] :=
    forall_mem_of_all (by decide)
  obtain ⟨d, -, inside⟩ := List.mem_flatMap.mp member
  rintro rfl
  by_cases escaped : d ∈ escapedChars
  · exact entities c (List.mem_flatMap.mpr ⟨d, escaped, inside⟩) special
  · rw [escapeChar_of_notMem escaped] at inside
    obtain rfl := List.mem_singleton.mp inside
    exact escaped (among c special)

/-! ## Ends of tags -/

/-- A tag goes on behind this part of it. -/
def Passes (part : List Char) : Prop :=
  ∀ rest, cutTag? none (part ++ rest) =
    (cutTag? none rest).map fun (tag, behind) => (part ++ tag, behind)

private theorem passes_nil : Passes [] := by
  intro rest
  rw [List.nil_append]
  exact (Option.map_id' ..).symm

private theorem Passes.append {first second : List Char} (passes : Passes first)
    (onward : Passes second) :
    Passes (first ++ second) := by
  intro rest
  rw [List.append_assoc, passes, onward, Option.map_map]
  simp only [Function.comp_def, List.append_assoc]

private theorem cutTag?_cons_plain {c : Char} (plain : c ∉ ['>', '"', '\'']) (rest : List Char) :
    cutTag? none (c :: rest) =
      (cutTag? none rest).map fun (tag, behind) => (c :: tag, behind) := by
  simp only [List.mem_cons, List.not_mem_nil, or_false, not_or] at plain
  simp [cutTag?, plain]

/-- Characters that are neither quotes nor closing brackets stand for themselves. -/
theorem passes_plain {part : List Char} (plain : ∀ c ∈ part, c ∉ ['>', '"', '\'']) :
    Passes part := by
  induction part with
  | nil => exact passes_nil
  | cons c part ih =>
    have onward := ih fun d member => plain d (List.mem_cons_of_mem _ member)
    intro rest
    rw [List.cons_append, cutTag?_cons_plain (plain c List.mem_cons_self), onward, Option.map_map]
    rfl

/-- A value in quotes may hold anything but its quote. -/
theorem passes_quoted {value : List Char} (inside : ∀ c ∈ value, c ≠ '"') :
    Passes ('"' :: (value ++ ['"'])) := by
  have quoted (rest : List Char) : cutTag? (some '"') (value ++ '"' :: rest) =
      (cutTag? none rest).map fun (tag, behind) => (value ++ '"' :: tag, behind) := by
    induction value with
    | nil => rfl
    | cons c value ih =>
      have here : (if c = '"' then none else some '"') = some '"' :=
        if_neg (inside c List.mem_cons_self)
      have onward := ih fun d member => inside d (List.mem_cons_of_mem _ member)
      rw [List.cons_append, cutTag?, here]
      simp only [onward, Option.map_map, Function.comp_def, List.cons_append]
  intro rest
  have opened : cutTag? none ('"' :: (value ++ '"' :: rest)) =
      (cutTag? (some '"') (value ++ '"' :: rest)).map fun (tag, behind) =>
        ('"' :: tag, behind) := rfl
  rw [List.cons_append, List.append_assoc, List.singleton_append, opened, quoted, Option.map_map]
  simp only [Function.comp_def, List.cons_append, List.append_assoc, List.nil_append]

private theorem cutTag?_of_passes {part : List Char} (passes : Passes part) (rest : List Char) :
    cutTag? none (part ++ '>' :: rest) = some (part, rest) := by
  rw [passes]
  simp [cutTag?]

variable {name : String}

private theorem passes_name (wellFormed : isName name = true) : Passes name.toList := by
  have within : ∀ c ∈ ['>', '"', '\''], c ∈ syntaxChars := forall_mem_of_all (by decide)
  exact passes_plain fun c member quote =>
    notMem_syntaxChars_of_isName wellFormed c member (within c quote)

private theorem passes_attributesText {attributes : List (String × String)}
    (wellFormed : ∀ entry ∈ attributes, isName entry.1 = true) :
    Passes (attributesText attributes) := by
  induction attributes with
  | nil => exact passes_nil
  | cons entry rest ih =>
    have blank : Passes [' '] := passes_plain (forall_mem_of_all (by decide))
    have equals : Passes ['='] := passes_plain (forall_mem_of_all (by decide))
    have key := passes_name (wellFormed entry List.mem_cons_self)
    have value : Passes ('"' :: (escape entry.2 ++ ['"'])) :=
      passes_quoted fun _ member => ne_of_mem_escape member (by decide)
    have others := ih fun other member => wellFormed other (List.mem_cons_of_mem _ member)
    have whole := ((((blank.append key).append equals).append value).append others)
    simpa [attributesText] using whole

/-! ## Names and values -/

private theorem cutQuoted?_escape (value : String) (rest : List Char) :
    cutQuoted? '"' (escape value ++ '"' :: rest) = some (escape value, rest) := by
  have quoted (text : List Char) (inside : ∀ c ∈ text, c ≠ '"') :
      cutQuoted? '"' (text ++ '"' :: rest) = some (text, rest) := by
    unfold cutQuoted?
    induction text with
    | nil => rfl
    | cons c text ih =>
      have here : (c == '"') = false := beq_false_of_ne (inside c List.mem_cons_self)
      have onward := ih fun d member => inside d (List.mem_cons_of_mem _ member)
      simp only [List.cons_append, Text.cutAtChar?, here, Bool.false_eq_true, if_false, onward,
        Option.map_some]
  exact quoted _ fun _ member => ne_of_mem_escape member (by decide)

/-- A name has neither blanks nor equals signs. -/
theorem not_isSpace_of_isName (wellFormed : isName name = true) :
    ∀ c ∈ name.toList, isSpace c = false := fun c member =>
  Bool.eq_false_iff.mpr fun space =>
    notMem_syntaxChars_of_isName wellFormed c member (mem_syntaxChars_of_isSpace space)

/-- An attribute is read back, unless its key was there before. -/
theorem readAttributes?_cons {keys : List String} {key : String} (wellFormed : isName key = true)
    (fresh : key ∉ keys) (value : String) (next : List Char) :
    readAttributes? keys (' ' :: (key.toList ++ '=' :: '"' :: (escape value ++ '"' :: next))) =
      (readAttributes? (key :: keys) next).map ((key, value) :: ·) := by
  obtain ⟨c, text, split⟩ := List.exists_cons_of_ne_nil (ne_nil_of_isName wellFormed)
  have noSpace := not_isSpace_of_isName wellFormed
  rw [split] at noSpace ⊢
  have blanks (rest : List Char) : (' ' :: c :: rest).dropWhile isSpace = c :: rest := by
    have here := noSpace c List.mem_cons_self
    rw [List.dropWhile_cons_of_pos (by decide), List.dropWhile_cons_of_neg (by simp [here])]
  have inKey : ∀ d ∈ text, (d != '=' && !isSpace d) = true := by
    intro d member
    have present : d ∈ key.toList := by rw [split]; exact List.mem_cons_of_mem _ member
    have different : d ≠ '=' := by
      rintro rfl
      exact notMem_syntaxChars_of_isName wellFormed _ present (by decide)
    simp [different, noSpace d (List.mem_cons_of_mem _ member)]
  have taken (rest : List Char) :
      (text ++ '=' :: rest).takeWhile (fun c => c != '=' && !isSpace c) = text := by
    rw [List.takeWhile_append_of_pos inKey, List.takeWhile_cons_of_neg (by decide),
      List.append_nil]
  have dropped (rest : List Char) :
      ((text ++ '=' :: rest).dropWhile (fun c => c != '=' && !isSpace c)).dropWhile isSpace =
        '=' :: rest := by
    rw [List.dropWhile_append_of_pos inKey, List.dropWhile_cons_of_neg (by decide),
      List.dropWhile_cons_of_neg (by decide)]
  have whole : String.ofList (c :: text) = key := by rw [← split, String.ofList_toList]
  rw [readAttributes?]
  split
  · next empty =>
    rw [List.cons_append, blanks] at empty
    cases empty
  · next d others start =>
    rw [List.cons_append, blanks] at start
    obtain ⟨rfl, rfl⟩ := List.cons.inj start
    have absent : ¬keys.contains key = true := by simpa using fresh
    simp only [taken, whole]
    rw [if_neg absent]
    split
    · next rest equals =>
      rw [dropped] at equals
      obtain rfl := (List.cons.inj equals).2
      split
      · next quote behind opened =>
        obtain ⟨rfl, rfl⟩ := List.cons.inj opened
        rw [if_pos (by decide)]
        split
        · next unclosed => rw [cutQuoted?_escape] at unclosed; cases unclosed
        · next raw rest closed =>
          rw [cutQuoted?_escape] at closed
          cases closed
          simp only [unescape?_escape]
      · next opened => cases opened
    · next other => exact absurd (dropped _) (other _)

private theorem attributesText_cons (entry : String × String) (rest : List (String × String)) :
    attributesText (entry :: rest) =
      ' ' :: (entry.1.toList ++ '=' :: '"' :: (escape entry.2 ++ '"' :: attributesText rest)) := by
  simp [attributesText]

private theorem readAttributes?_attributesText {attributes : List (String × String)}
    (wellFormed : ∀ entry ∈ attributes, isName entry.1 = true)
    (distinct : (attributes.map Prod.fst).Nodup) {keys : List String}
    (fresh : ∀ entry ∈ attributes, entry.1 ∉ keys) :
    readAttributes? keys (attributesText attributes) = some attributes := by
  induction attributes generalizing keys with
  | nil =>
    rw [attributesText, List.flatMap_nil, readAttributes?]
    split
    · rfl
    · next start => cases start
  | cons entry rest ih =>
    rw [List.map_cons, List.nodup_cons] at distinct
    have later : ∀ other ∈ rest, other.1 ∉ entry.1 :: keys := fun other member => by
      rw [List.mem_cons, not_or]
      refine ⟨fun same => distinct.1 ?_, fresh other (List.mem_cons_of_mem _ member)⟩
      exact List.mem_map.mpr ⟨other, member, same⟩
    have others := ih (fun other member => wellFormed other (List.mem_cons_of_mem _ member)) distinct.2
      later
    rw [attributesText_cons, readAttributes?_cons (wellFormed entry List.mem_cons_self)
      (fresh entry List.mem_cons_self), others, Option.map_some]

private theorem readTag?_attributesText (wellNamed : isName name = true)
    {attributes : List (String × String)}
    (wellFormed : ∀ entry ∈ attributes, isName entry.1 = true)
    (distinct : (attributes.map Prod.fst).Nodup) :
    readTag? (name.toList ++ attributesText attributes) = some (name.toList, attributes) := by
  have inName : ∀ c ∈ name.toList, (!isSpace c) = true := fun c member => by
    rw [not_isSpace_of_isName wellNamed c member, Bool.not_false]
  have ends : (attributesText attributes).takeWhile (fun c => !isSpace c) = [] ∧
      (attributesText attributes).dropWhile (fun c => !isSpace c) = attributesText attributes := by
    cases attributes with
    | nil => exact ⟨rfl, rfl⟩
    | cons entry rest =>
      rw [attributesText_cons]
      exact ⟨List.takeWhile_cons_of_neg (by decide), List.dropWhile_cons_of_neg (by decide)⟩
  have read : readAttributes? [] (attributesText attributes) = some attributes :=
    readAttributes?_attributesText wellFormed distinct fun _ _ => List.not_mem_nil
  rw [readTag?, List.takeWhile_append_of_pos inName, List.dropWhile_append_of_pos inName, ends.1,
    ends.2, read, Option.map_some, List.append_nil]

/-! ## Markup -/

/-- What begins with a name behind an opening bracket is a tag. -/
theorem readMarkup?_of_passes (wellFormed : isName name = true) {tail : List Char}
    (passes : Passes (name.toList ++ tail)) {markup : Markup}
    (opened : openingMarkup? (name.toList ++ tail) = some markup) (rest : List Char) :
    readMarkup? (name.toList ++ tail ++ '>' :: rest) = some (markup, rest) := by
  have cut := cutTag?_of_passes passes rest
  obtain ⟨c, text, split⟩ := List.exists_cons_of_ne_nil (ne_nil_of_isName wellFormed)
  have first : c ∉ syntaxChars :=
    notMem_syntaxChars_of_isName wellFormed c (by rw [split]; exact List.mem_cons_self)
  rw [split] at cut opened ⊢
  simp only [List.cons_append] at cut opened ⊢
  rw [readMarkup?.eq_def]
  split
  case h_6 same => cases same
  case h_7 => simp only [cut, opened, Option.bind_eq_bind, Option.bind_some]
  all_goals
    next same =>
      obtain ⟨rfl, -⟩ := List.cons.inj same
      exact absurd (by decide) first

section

variable {attributes : List (String × String)} (wellNamed : isName name = true)
  (wellFormed : ∀ entry ∈ attributes, isName entry.1 = true)
  (distinct : (attributes.map Prod.fst).Nodup)

include wellNamed wellFormed distinct

/-- A start tag is read back. -/
theorem readMarkup?_opening (rest : List Char) :
    readMarkup? (name.toList ++ attributesText attributes ++ '>' :: rest) =
      some (.opening name.toList attributes, rest) := by
  refine readMarkup?_of_passes wellNamed
    ((passes_name wellNamed).append (passes_attributesText wellFormed)) ?_ rest
  have noSlash : (name.toList ++ attributesText attributes).getLast? ≠ some '/' := by
    rcases List.eq_nil_or_concat attributes with rfl | ⟨front, entry, rfl⟩
    · rw [attributesText, List.flatMap_nil, List.append_nil]
      intro last
      exact notMem_syntaxChars_of_isName wellNamed _ (List.mem_of_getLast? last) (by decide)
    · rw [attributesText, List.concat_eq_append, List.flatMap_append, List.flatMap_singleton,
        ← List.append_assoc, ← List.append_assoc, List.getLast?_concat]
      decide
  rw [openingMarkup?, if_neg noSlash, readTag?_attributesText wellNamed wellFormed distinct,
    Option.map_some]

/-- The tag of an empty element is read back. -/
theorem readMarkup?_empty (rest : List Char) :
    readMarkup? (name.toList ++ attributesText attributes ++ '/' :: '>' :: rest) =
      some (.empty name.toList attributes, rest) := by
  have passes : Passes (name.toList ++ (attributesText attributes ++ ['/'])) :=
    (passes_name wellNamed).append
      ((passes_attributesText wellFormed).append (passes_plain (forall_mem_of_all (by decide))))
  have opened : openingMarkup? (name.toList ++ (attributesText attributes ++ ['/'])) =
      some (.empty name.toList attributes) := by
    rw [openingMarkup?, ← List.append_assoc, if_pos List.getLast?_concat, List.dropLast_concat,
      readTag?_attributesText wellNamed wellFormed distinct, Option.map_some]
  have read := readMarkup?_of_passes wellNamed passes opened rest
  simpa using read

end

/-- An end tag is read back. -/
theorem readMarkup?_closing (wellFormed : isName name = true) (rest : List Char) :
    readMarkup? ('/' :: (name.toList ++ '>' :: rest)) = some (.closing name.toList, rest) := by
  have kept : closingName name.toList = name.toList := by
    have noSpace : ∀ c ∈ name.toList.reverse, isSpace c = false := fun c member =>
      not_isSpace_of_isName wellFormed c (List.mem_reverse.mp member)
    have whole : name.toList.reverse.dropWhile isSpace = name.toList.reverse := by
      cases last : name.toList.reverse with
      | nil => rfl
      | cons c front =>
        rw [last] at noSpace
        exact List.dropWhile_cons_of_neg (by simp [noSpace c List.mem_cons_self])
    rw [closingName, whole, List.reverse_reverse, ite_self]
  rw [readMarkup?, cutTag?_of_passes (passes_name wellFormed)]
  simp [kept]

/-- Closing brackets end character data where they are first. A bracket at the end of the data goes
with the two behind it only. -/
theorem cutFirst?_append {text : List Char} (legible : Text.cutFirst? [']', ']', '>'] text = none)
    (rest : List Char) :
    Text.cutFirst? [']', ']', '>'] (text ++ ']' :: ']' :: '>' :: rest) = some (text, rest) := by
  induction text with
  | nil => rfl
  | cons c text ih =>
    rw [Text.cutFirst?] at legible
    split at legible
    · cases legible
    · next start =>
      have onward := ih (Option.map_eq_none_iff.mp legible)
      have elsewhere :
          Text.dropPrefix? [']', ']', '>'] (c :: (text ++ ']' :: ']' :: '>' :: rest)) = none := by
        rcases text with _ | ⟨d, _ | ⟨e, text⟩⟩
        · simp [Text.dropPrefix?]
        · simp [Text.dropPrefix?]
        · simpa [Text.dropPrefix?] using start
      rw [List.cons_append, Text.cutFirst?, elsewhere]
      simp only [onward, Option.map_some]

/-- Character data is read back. -/
theorem readMarkup?_cdata {text : List Char}
    (legible : Text.cutFirst? [']', ']', '>'] text = none) (rest : List Char) :
    readMarkup? ('!' :: '[' :: 'C' :: 'D' :: 'A' :: 'T' :: 'A' :: '[' ::
        (text ++ ']' :: ']' :: '>' :: rest)) =
      some (.cdata text, rest) := by
  have cut := cutFirst?_append legible rest
  have found : Text.cutFirst? [']', ']', '>'] ('C' :: 'D' :: 'A' :: 'T' :: 'A' :: '[' ::
      (text ++ ']' :: ']' :: '>' :: rest)) =
        some ('C' :: 'D' :: 'A' :: 'T' :: 'A' :: '[' :: text, rest) := by
    simp [Text.cutFirst?, Text.dropPrefix?, cut]
  rw [readMarkup?, found]
  rfl

end DerivedFields.Xml

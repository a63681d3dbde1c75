import Mathlib.Tactic.FinCases
import DerivedFields.Proofs.Text.Occurrences
import DerivedFields.Script.Entity
import DerivedFields.Xml.Escape

/-!
# Entities in scripts

The five entities are decoded one kind after the other, each in the whole text. That is the same as one
pass from left to right that looks at no character twice. A kind of entity that is decoded later is
found where it would have been found before: what is decoded in its place is no character of it, and
no other entity begins inside of it. So the ampersand has to be the last.
-/

namespace DerivedFields.Script

/-- One pass from left to right: behind an entity it goes on with what follows the entity. -/
def decodeOnce : List Char → List Char
  | '&' :: 'l' :: 't' :: ';' :: text => '<' :: decodeOnce text
  | '&' :: 'g' :: 't' :: ';' :: text => '>' :: decodeOnce text
  | '&' :: 'q' :: 'u' :: 'o' :: 't' :: ';' :: text => '"' :: decodeOnce text
  | '&' :: 'a' :: 'p' :: 'o' :: 's' :: ';' :: text => '\'' :: decodeOnce text
  | '&' :: 'a' :: 'm' :: 'p' :: ';' :: text => '&' :: decodeOnce text
  | c :: text => c :: decodeOnce text
  | [] => []

/-! ## One pass for the entities of a table -/

/-- The first entity of a table with which a text begins. -/
def entityAt? (table : List (List Char × Char)) (text : List Char) : Option (List Char × Char) :=
  table.find? fun entry => entry.1.isPrefixOf text

/-- One pass for all entities of a table. The number counts the characters of the last entity that are
still to be dropped. -/
def passFrom (table : List (List Char × Char)) : ℕ → List Char → List Char
  | _, [] => []
  | skip + 1, _ :: text => passFrom table skip text
  | 0, c :: text =>
    match entityAt? table (c :: text) with
    | some (entity, decoded) => decoded :: passFrom table (entity.length - 1) text
    | none => c :: passFrom table 0 text

def pass (table : List (List Char × Char)) (text : List Char) : List Char := passFrom table 0 text

/-- An ampersand and no other one behind it. -/
def IsEntity (entity : List Char) : Prop := ∃ name, entity = '&' :: name ∧ '&' ∉ name

variable {table : List (List Char × Char)} {name text : List Char} {c decoded : Char}

@[simp] theorem pass_nil (table : List (List Char × Char)) : pass table [] = [] := by
  rw [pass, passFrom]

private theorem passFrom_eq_drop (table : List (List Char × Char)) (skip : ℕ) (text : List Char) :
    passFrom table skip text = pass table (text.drop skip) := by
  induction text generalizing skip with
  | nil => rw [List.drop_nil, pass_nil, passFrom]
  | cons c text ih =>
    cases skip with
    | zero => rfl
    | succ skip => rw [passFrom, List.drop_succ_cons, ih]

private theorem pass_of_none (plain : entityAt? table (c :: text) = none) :
    pass table (c :: text) = c :: pass table text := by
  rw [pass, passFrom, plain]
  rfl

private theorem pass_of_some (name rest : List Char)
    (found : entityAt? table ('&' :: name ++ rest) = some ('&' :: name, decoded)) :
    pass table ('&' :: name ++ rest) = decoded :: pass table rest := by
  have length : ('&' :: name).length - 1 = name.length := rfl
  rw [List.cons_append] at found ⊢
  rw [pass, passFrom, found]
  change decoded :: passFrom table (('&' :: name).length - 1) (name ++ rest) = _
  rw [length, passFrom_eq_drop, List.drop_left]

/-- Where an entity is found, the text is an ampersand, the name of the entity, and a rest. -/
theorem exists_of_entityAt? (isEntity : ∀ entry ∈ table, IsEntity entry.1)
    {entry : List Char × Char} (found : entityAt? table text = some entry) :
    entry ∈ table ∧ ∃ name rest, entry = ('&' :: name, entry.2) ∧ text = '&' :: name ++ rest := by
  have member := List.mem_of_find?_eq_some found
  obtain ⟨name, same, -⟩ := isEntity _ member
  have begins : entry.1.isPrefixOf text = true := by
    have held := List.find?_some found
    exact held
  obtain ⟨rest, rfl⟩ := List.isPrefixOf_iff_prefix.mp begins
  exact ⟨member, name, rest, Prod.ext same rfl, congrArg (· ++ rest) same⟩

private theorem entityAt?_append (table : List (List Char × Char)) (entity : List Char) (decoded : Char)
    (text : List Char) : entityAt? (table ++ [(entity, decoded)]) text =
      (entityAt? table text).or (if entity.isPrefixOf text then some (entity, decoded) else none) := by
  rw [entityAt?, List.find?_append, List.find?_singleton]
  rfl

private theorem pass_empty (text : List Char) : pass [] text = text := by
  induction text with
  | nil => exact pass_nil []
  | cons c text ih => rw [pass_of_none rfl, ih]

/-! ## A pass for one more entity -/

section

variable (isEntity : ∀ entry ∈ table, IsEntity entry.1)
include isEntity

/-- A pass neither makes nor destroys a text without ampersands of which no character is decoded. -/
theorem dropPrefix?_pass {pattern : List Char} (plain : '&' ∉ pattern)
    (fresh : ∀ entry ∈ table, entry.2 ∉ pattern) (text : List Char) :
    Text.dropPrefix? pattern (pass table text) =
      (Text.dropPrefix? pattern text).map (pass table) := by
  induction pattern generalizing text with
  | nil => rfl
  | cons p pattern ih =>
    rw [List.mem_cons, not_or] at plain
    have others (entry) (member : entry ∈ table) : entry.2 ≠ p ∧ entry.2 ∉ pattern := by
      simpa [eq_comm] using fresh entry member
    cases text with
    | nil => rw [pass_nil]; rfl
    | cons c text =>
      cases found : entityAt? table (c :: text) with
      | none =>
        rw [pass_of_none found, Text.dropPrefix?, Text.dropPrefix?,
          ih plain.2 fun entry member => (others entry member).2]
        split <;> rfl
      | some entry =>
        obtain ⟨member, name, rest, same, whole⟩ := exists_of_entityAt? isEntity found
        rw [whole, same] at found
        rw [whole, pass_of_some _ _ found, List.cons_append, Text.dropPrefix?, Text.dropPrefix?,
          if_neg (others _ member).1.symm, if_neg (Ne.symm plain.1)]
        rfl

variable (plain : '&' ∉ name) (fresh : ∀ entry ∈ table, entry.2 ∉ '&' :: name)
include plain fresh

/-- An entity that is not in the table begins behind a pass where it began before. -/
theorem dropPrefix?_cons_pass (c : Char) (text : List Char) :
    Text.dropPrefix? ('&' :: name) (c :: pass table text) =
      (Text.dropPrefix? ('&' :: name) (c :: text)).map (pass table) := by
  have freshName (entry) (member : entry ∈ table) : entry.2 ∉ name :=
    fun inside => fresh entry member (List.mem_cons_of_mem _ inside)
  rw [Text.dropPrefix?, Text.dropPrefix?, dropPrefix?_pass isEntity plain freshName]
  split <;> rfl

/-- Replacing one more entity behind a pass, and a pass for that entity too, write the same character for
the start of a text and go on behind the same characters. -/
theorem exists_pass_step (decoded c : Char) (text : List Char) :
    ∃ written rest, rest.length ≤ text.length ∧
      Text.replaceAll ('&' :: name) [decoded] (pass table (c :: text)) =
        written :: Text.replaceAll ('&' :: name) [decoded] (pass table rest) ∧
      pass (table ++ [('&' :: name, decoded)]) (c :: text) =
        written :: pass (table ++ [('&' :: name, decoded)]) rest := by
  have added := entityAt?_append table ('&' :: name) decoded (c :: text)
  have moved := dropPrefix?_cons_pass isEntity plain fresh c text
  cases found : entityAt? table (c :: text) with
  | some entry =>
    -- What is written here is no ampersand, so the new entity does not begin with it.
    obtain ⟨member, other, rest, same, whole⟩ := exists_of_entityAt? isEntity found
    have differs : ¬ '&' :: name <+: entry.2 :: pass table rest := by
      intro begins
      have first : '&' = entry.2 := (List.cons_prefix_cons.mp begins).1
      exact fresh entry member (first ▸ List.mem_cons_self)
    have behind : text = other ++ rest := (List.cons.inj whole).2
    rw [found, Option.some_or, whole, same] at added
    rw [whole, same] at found
    refine ⟨entry.2, rest, ?_, ?_, ?_⟩
    · rw [behind, List.length_append]
      omega
    · rw [whole, pass_of_some _ _ found, Text.replaceAll_cons differs]
    · rw [whole, pass_of_some _ _ added]
  | none =>
    rw [found, Option.none_or] at added
    rw [pass_of_none found]
    cases begins : Text.dropPrefix? ('&' :: name) (c :: text) with
    | some rest =>
      have whole := Text.dropPrefix?_eq_some begins
      have behind : text = name ++ rest := (List.cons.inj whole).2
      rw [begins, Option.map_some] at moved
      rw [whole, if_pos (List.isPrefixOf_iff_prefix.mpr (List.prefix_append _ _))] at added
      refine ⟨decoded, rest, ?_, ?_, ?_⟩
      · rw [behind, List.length_append]
        omega
      · rw [Text.dropPrefix?_eq_some moved, Text.replaceAll_append]
        rfl
      · rw [whole, pass_of_some _ _ added]
    | none =>
      have differs := Text.dropPrefix?_eq_none_iff.mp begins
      rw [begins, Option.map_none] at moved
      rw [if_neg (fun held => differs (List.isPrefixOf_iff_prefix.mp held))] at added
      refine ⟨c, text, le_rfl, ?_, pass_of_none added⟩
      exact Text.replaceAll_cons (Text.dropPrefix?_eq_none_iff.mp moved)

/-- A pass followed by replacing one more entity is a pass for that entity too, if nothing decoded
before is a character of it. -/
theorem replaceAll_pass (decoded : Char) (text : List Char) :
    Text.replaceAll ('&' :: name) [decoded] (pass table text) =
      pass (table ++ [('&' :: name, decoded)]) text := by
  induction size : text.length using Nat.strong_induction_on generalizing text with
  | _ bound ih =>
    cases text with
    | nil => rw [pass_nil, pass_nil]; rfl
    | cons c text =>
      obtain ⟨written, rest, shorter, replaced, passed⟩ :=
        exists_pass_step isEntity plain fresh decoded c text
      rw [List.length_cons] at size
      rw [replaced, passed, ih rest.length (by omega) rest rfl]

end

/-! ## All five entities -/

/-- Replacing the entities of a table one kind after the other is one pass for all of them, if nothing
that is decoded earlier is a character of a later entity. -/
theorem foldl_replaceAll_pass {done todo : List (List Char × Char)}
    (isEntity : ∀ entry ∈ done ++ todo, IsEntity entry.1)
    (ordered : (done ++ todo).Pairwise fun earlier later => earlier.2 ∉ later.1) (text : List Char) :
    todo.foldl (fun text (entity, c) => Text.replaceAll entity [c] text) (pass done text) =
      pass (done ++ todo) text := by
  induction todo generalizing done with
  | nil => rw [List.append_nil]; rfl
  | cons entry todo ih =>
    obtain ⟨entity, decoded⟩ := entry
    obtain ⟨name, rfl, plain⟩ : IsEntity entity :=
      isEntity (entity, decoded) (List.mem_append_right _ List.mem_cons_self)
    have before (earlier) (member : earlier ∈ done) : IsEntity earlier.1 :=
      isEntity earlier (List.mem_append_left _ member)
    have fresh (earlier) (member : earlier ∈ done) : earlier.2 ∉ '&' :: name :=
      (List.pairwise_append.mp ordered).2.2 earlier member _ List.mem_cons_self
    have same : done ++ ('&' :: name, decoded) :: todo =
        done ++ [('&' :: name, decoded)] ++ todo := List.append_cons ..
    rw [same] at isEntity ordered ⊢
    rw [List.foldl_cons, ← ih isEntity ordered, ← replaceAll_pass before plain fresh]

private theorem pass_entities (text : List Char) : pass entities text = decodeOnce text := by
  fun_induction decodeOnce text with
  | case1 text ih => rw [← ih]; exact pass_of_some ['l', 't', ';'] text rfl
  | case2 text ih => rw [← ih]; exact pass_of_some ['g', 't', ';'] text rfl
  | case3 text ih => rw [← ih]; exact pass_of_some ['q', 'u', 'o', 't', ';'] text rfl
  | case4 text ih => rw [← ih]; exact pass_of_some ['a', 'p', 'o', 's', ';'] text rfl
  | case5 text ih => rw [← ih]; exact pass_of_some ['a', 'm', 'p', ';'] text rfl
  | case6 c text less greater quote apostrophe ampersand ih =>
    have plain : entityAt? entities (c :: text) = none := by
      rw [entityAt?, List.find?_eq_none]
      intro entry member begins
      obtain ⟨rest, same⟩ := List.isPrefixOf_iff_prefix.mp begins
      fin_cases member <;> obtain ⟨rfl, rfl⟩ := List.cons.inj same
      · exact less rest rfl rfl
      · exact greater rest rfl rfl
      · exact quote rest rfl rfl
      · exact apostrophe rest rfl rfl
      · exact ampersand rest rfl rfl
    rw [pass_of_none plain, ih]
  | case7 => exact pass_nil entities

private theorem decodeOnce_cons (plain : c ≠ '&') (text : List Char) :
    decodeOnce (c :: text) = c :: decodeOnce text := by
  rw [decodeOnce] <;> exact fun _ same => absurd same plain

/-- The entity that is written for a character is decoded to it, and others stand as they are. -/
theorem decodeOnce_escapeChar (c : Char) (text : List Char) :
    decodeOnce (Xml.escapeChar c ++ text) = c :: decodeOnce text := by
  rw [Xml.escapeChar]
  split_ifs with less greater ampersand apostrophe quote
  · subst less; rfl
  · subst greater; rfl
  · subst ampersand; rfl
  · subst apostrophe; rfl
  · subst quote; rfl
  · exact decodeOnce_cons ampersand text

private theorem decodeOnce_escape (text : String) : decodeOnce (Xml.escape text) = text.toList := by
  rw [Xml.escape]
  induction text.toList with
  | nil => rfl
  | cons c rest ih => rw [List.flatMap_cons, decodeOnce_escapeChar, ih]

private theorem decodeEntities_eq (script : String) :
    decodeEntities script = String.ofList (decodeOnce script.toList) := by
  have isEntity : ∀ entry ∈ [] ++ entities, IsEntity entry.1 := by
    simp [entities, IsEntity]
  have ordered : List.Pairwise (fun earlier later => earlier.2 ∉ later.1) ([] ++ entities) := by decide
  have passes := foldl_replaceAll_pass isEntity ordered script.toList
  rw [pass_empty, List.nil_append, pass_entities] at passes
  rw [decodeEntities, passes]

/-- Decoding one kind of entity after the other is one pass, in which no decoded text is decoded again.
So a text comes back whose special characters were all written as entities. -/
theorem decodeEntities_single_pass (script : String) :
    decodeEntities script = String.ofList (decodeOnce script.toList) ∧
      decodeEntities (String.ofList (Xml.escape script)) = script := by
  refine ⟨decodeEntities_eq script, ?_⟩
  rw [decodeEntities_eq, String.toList_ofList, decodeOnce_escape, String.ofList_toList]

example : decodeEntities "&amp;amp;lt; &am&lt;p;" = "&amp;lt; &am<p;" := by decide

end DerivedFields.Script

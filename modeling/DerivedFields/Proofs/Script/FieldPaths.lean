import Mathlib
import DerivedFields.Proofs.Document.PathText
import DerivedFields.Proofs.Evaluation.Parametricity
import DerivedFields.Proofs.Script.Spelling
import DerivedFields.Proofs.Stateful

/-!
# The paths of a script

A script spells a path with the names of elements and perhaps, behind the last slash, the marker and
the name of an attribute. No name has a slash in it or begins with the marker. So a path that the
parser puts together is printed as it was put together, and it can be written to.
-/

namespace DerivedFields.Script

open Stateful (bind_eq_ok)

/-- A text that is a name. -/
def IsNameText (text : List Char) : Prop := ∃ first others, IsName first others ∧ text = first :: others

private theorem IsName.notMem_slash {first : Char} {others : List Char} (isName : IsName first others) :
    '/' ∉ first :: others := by
  intro member
  rcases List.mem_cons.mp member with rfl | inside
  · exact absurd isName.begins (by decide)
  · exact absurd (isName.goesOn _ inside) (by decide)

/-- A name is a piece of a path, and stands for an element. -/
theorem IsNameText.isPiece {text : List Char} (isName : IsNameText text) :
    Path.IsPiece text ∧ (PathSegment.ofText text).isAttribute = false := by
  obtain ⟨first, others, isName, rfl⟩ := isName
  refine ⟨⟨List.cons_ne_nil _ _, isName.notMem_slash⟩, ?_⟩
  have noMarker : first ≠ '@' := by
    rintro rfl
    exact absurd isName.begins (by decide)
  unfold PathSegment.ofText
  split
  · next same => exact absurd (List.cons.inj same).1 noMarker
  · rfl

/-! ## Names -/

/-- What stands where a name begins is a name or one of the truth values. -/
theorem isNameText_of_nameToken {first : Char} {others : List Char} {name : String}
    (start : isNameStart first = true) (parts : ∀ c ∈ others, isNamePart c = true)
    (named : nameToken (first :: others) = .identifier name) : IsNameText name.toList := by
  unfold nameToken at named
  split at named
  · cases named
  · next notTrue =>
    split at named
    · cases named
    · next notFalse =>
      obtain rfl := Token.identifier.inj named
      refine ⟨first, others, ⟨?_, fun c member => ?_, notTrue, notFalse⟩, String.toList_ofList⟩
      · simpa [isNameStart] using start
      · simpa [isNamePart] using parts c member

/-- The scanner takes nothing but names for identifiers. -/
theorem isNameText_of_readToken {position : Nat} {c : Char} {rest : List Char} {name : String}
    {behind : Remainder} (read : readToken position c rest = .ok (.identifier name, behind)) :
    IsNameText name.toList := by
  unfold readToken at read
  split at read
  · cases read
  · split at read
    · cases read
    · split at read
      · cases read
      · split at read
        · obtain ⟨inner, -, same⟩ := bind_eq_ok read
          cases same
        · split at read
          · next start =>
            exact isNameText_of_nameToken start (List.all_eq_true.mp List.all_takeWhile)
              (Prod.mk.inj (Except.ok.inj read)).1
          · split at read <;> cases read

namespace TokenStream

/-- The identifiers of a stream are names. -/
def Named : TokenStream → Prop
  | more token _ rest => (∀ name, token = .identifier name → IsNameText name.toList) ∧ rest.Named
  | finish _ | failure _ => True

end TokenStream

private theorem named_scanFrom (position : Nat) (input : List Char) :
    (scanFrom position input).Named := by
  fun_induction scanFrom position input with
  | case1 => trivial
  | case2 => trivial
  | case3 position input start c rest remaining token behind read shorter ih =>
    refine ⟨?_, ih⟩
    rintro name rfl
    exact isNameText_of_readToken read

/-! ## Paths -/

/-- The names of elements with slashes between them. -/
def NamesElements (path : String) : Prop :=
  ∃ names, names ≠ [] ∧ (∀ name ∈ names, IsNameText name) ∧ path = Path.join names

/-- The names of elements, and perhaps that of an attribute behind them. -/
inductive NamesPlace : String → Prop
  | element {path : String} (elements : NamesElements path) : NamesPlace path
  | marked {path name : String} (elements : NamesElements path) (isName : IsNameText name.toList) :
    NamesPlace (path ++ "/@" ++ name)

private theorem namesElements_name {name : String} (isName : IsNameText name.toList) :
    NamesElements name := by
  refine ⟨[name.toList], List.cons_ne_nil _ _, List.forall_mem_singleton.mpr isName, ?_⟩
  rw [Path.join, Text.joinWith, String.ofList_toList]

private theorem NamesElements.append {path name : String} (elements : NamesElements path)
    (isName : IsNameText name.toList) : NamesElements (path ++ "/" ++ name) := by
  obtain ⟨names, nonempty, all, rfl⟩ := elements
  refine ⟨names ++ [name.toList], by simp, ?_, ?_⟩
  · simpa [or_imp, forall_and] using ⟨all, isName⟩
  · rw [Path.join, Path.join, Text.joinWith_concat _ nonempty, ← String.toList_inj]
    simp

/-- A path that a script spells is printed as it is spelled, and can be written to. -/
theorem NamesPlace.canonical {text : String} (place : NamesPlace text) :
    Path.parseTarget text = .ok (Path.parse text) ∧ (Path.parse text).toText = text := by
  suffices pieces : ∃ parts last, (∀ name ∈ parts, IsNameText name) ∧ Path.IsPiece last ∧
      last ≠ ['@'] ∧ text = Path.join (parts ++ [last]) by
    obtain ⟨parts, last, names, isPiece, named, rfl⟩ := pieces
    have all : ∀ piece ∈ parts ++ [last], Path.IsPiece piece := by
      intro piece member
      rcases List.mem_append.mp member with inside | ended
      · exact (names piece inside).isPiece.1
      · obtain rfl := List.mem_singleton.mp ended
        exact isPiece
    exact ⟨Path.parseTarget_join all (fun piece member => (names piece member).isPiece.2) named,
      Path.toText_parse_join all⟩
  cases place with
  | element elements =>
    obtain ⟨names, nonempty, all, rfl⟩ := elements
    have last := all _ (List.getLast_mem nonempty)
    refine ⟨names.dropLast, names.getLast nonempty, fun name member => all name ?_, last.isPiece.1, ?_, ?_⟩
    · exact List.dropLast_subset _ member
    · intro marker
      exact absurd (marker ▸ last.isPiece.2) (by decide)
    · rw [List.dropLast_concat_getLast]
  | @marked path name elements isName =>
    obtain ⟨names, nonempty, all, rfl⟩ := elements
    obtain ⟨⟨notEmpty, noSlash⟩, -⟩ := isName.isPiece
    refine ⟨names, '@' :: name.toList, all, ⟨List.cons_ne_nil _ _, ?_⟩, ?_, ?_⟩
    · rw [List.mem_cons, not_or]
      exact ⟨by decide, noSlash⟩
    · exact fun alone => notEmpty (List.cons.inj alone).2
    · rw [Path.join, Path.join, Text.joinWith_concat _ nonempty, ← String.toList_inj]
      simp

/-- What was read, apart from the tokens behind it, names places only, and these tokens are named. -/
def Places (fields : List String) (rest : TokenStream) : Prop :=
  rest.Named ∧ ∀ path ∈ fields, NamesPlace path

private theorem named_operator {level : Level} {tokens : TokenStream} {op : Parsed BinaryOp tokens}
    (named : tokens.Named) (found : level.operator? tokens = some op) : op.rest.Named := by
  unfold Level.operator? at found
  split at found
  · obtain ⟨_, -, rfl⟩ := Option.map_eq_some_iff.mp found
    exact named.2
  · cases found

private theorem named_expectSymbol {expected : Symbol} {tokens : TokenStream}
    {parsed : Parsed Unit tokens}
    (named : tokens.Named) (read : expectSymbol expected tokens = .ok parsed) : parsed.rest.Named := by
  unfold expectSymbol at read
  split at read
  · split at read
    · obtain ⟨_, -, same⟩ := bind_eq_ok read
      cases same
      exact named.2
    · cases read
  · cases read

private theorem named_expectIdentifier {tokens : TokenStream} {parsed : Parsed String tokens}
    (named : tokens.Named) (read : expectIdentifier tokens = .ok parsed) :
    IsNameText parsed.result.toList ∧ parsed.rest.Named := by
  unfold expectIdentifier at read
  split at read
  · obtain ⟨_, -, same⟩ := bind_eq_ok read
    cases same
    exact ⟨named.1 _ rfl, named.2⟩
  · cases read

/-- A path goes on with names, and ends with that of an attribute if it has one. -/
theorem places_parsePath {path : String} {tokens : TokenStream} (named : tokens.Named)
    (elements : NamesElements path) {read : { read : String × TokenStream // read.2.size ≤ tokens.size }}
    (success : parsePath path tokens = .ok read) : Places [read.1.1] read.1.2 := by
  fun_induction parsePath path tokens with
  | case1 path stop name after rest ih =>
    obtain ⟨_, -, success⟩ := bind_eq_ok success
    obtain ⟨⟨inner, shorter⟩, onward, same⟩ := bind_eq_ok success
    cases same
    exact ih named.2.2 (elements.append (named.2.1 name rfl)) onward
  | case2 path stop after rest =>
    obtain ⟨_, -, success⟩ := bind_eq_ok success
    obtain ⟨name, found, same⟩ := bind_eq_ok success
    cases same
    obtain ⟨isName, behind⟩ := named_expectIdentifier named.2.2 found
    exact ⟨behind, List.forall_mem_singleton.mpr (.marked elements isName)⟩
  | case3 => cases success
  | case4 path tokens =>
    cases success
    exact ⟨named, List.forall_mem_singleton.mpr (.element elements)⟩

/-! Whatever the parser reads from named tokens names places only. There is one statement for each of
its readers, and they call each other as the readers do. -/

mutual

private theorem places_parseLevels {levels : List Level} {tokens : TokenStream}
    {parsed : Parsed Expr tokens}
    (named : tokens.Named) (read : parseLevels levels tokens = .ok parsed) :
    Places parsed.result.fields parsed.rest := by
  match levels, read with
  | [], read =>
    rw [parseLevels] at read
    exact places_parseUnary named read
  | level :: tighter, read =>
    rw [parseLevels] at read
    obtain ⟨first, readFirst, read⟩ := bind_eq_ok read
    obtain ⟨⟨whole, shorter⟩, readChain, same⟩ := bind_eq_ok read
    cases same
    have places := places_parseChain (places_parseLevels named readFirst) readChain
    exact places
termination_by (tokens.size, levels.length + 3)
decreasing_by
  · exact Prod.Lex.right _ (by simp)
  · exact Prod.Lex.right _ (by simp)
  · exact Prod.Lex.left _ _ first.shorter

private theorem places_parseChain {level : Level} {tighter : List Level} {left : Expr}
    {tokens : TokenStream}
    {read : { read : Expr × TokenStream // read.2.size ≤ tokens.size }}
    (places : Places left.fields tokens) (success : parseChain level tighter left tokens = .ok read) :
    Places read.1.1.fields read.1.2 := by
  rw [parseChain] at success
  cases found : level.operator? tokens with
  | none =>
    rw [found] at success
    cases success
    exact places
  | some op =>
    rw [found] at success
    obtain ⟨_, -, success⟩ := bind_eq_ok success
    obtain ⟨right, readRight, success⟩ := bind_eq_ok success
    obtain ⟨⟨whole, shorter⟩, readChain, same⟩ := bind_eq_ok success
    cases same
    obtain ⟨behind, onRight⟩ := places_parseLevels (named_operator places.1 found) readRight
    have joined : Places (Expr.binary op.result left right.result).fields right.rest :=
      ⟨behind, List.forall_mem_append.mpr ⟨places.2, onRight⟩⟩
    have longer := places_parseChain joined readChain
    exact longer
termination_by (tokens.size, 0)
decreasing_by
  · exact Prod.Lex.left _ _ op.shorter
  · exact Prod.Lex.left _ _ (Nat.lt_trans right.shorter op.shorter)

private theorem places_parseUnary {tokens : TokenStream} {parsed : Parsed Expr tokens}
    (named : tokens.Named) (read : parseUnary tokens = .ok parsed) :
    Places parsed.result.fields parsed.rest := by
  rw [parseUnary.eq_def] at read
  split at read
  · obtain ⟨_, -, read⟩ := bind_eq_ok read
    obtain ⟨operand, readOperand, same⟩ := bind_eq_ok read
    cases same
    have places := places_parseUnary named.2 readOperand
    exact places
  · exact places_parsePrimary named read
termination_by (tokens.size, 2)
decreasing_by
  all_goals subst_vars
  · exact Prod.Lex.left _ _ (Nat.lt_succ_self _)
  · exact Prod.Lex.right _ (by decide)

private theorem places_parsePrimary {tokens : TokenStream} {parsed : Parsed Expr tokens}
    (named : tokens.Named) (read : parsePrimary tokens = .ok parsed) :
    Places parsed.result.fields parsed.rest := by
  rw [parsePrimary.eq_def] at read
  split at read
  · -- a truth value
    obtain ⟨_, -, same⟩ := bind_eq_ok read
    cases same
    exact ⟨named.2, fun _ member => absurd member List.not_mem_nil⟩
  · -- a number, if it is one
    obtain ⟨_, -, read⟩ := bind_eq_ok read
    split at read
    · cases read
      exact ⟨named.2, fun _ member => absurd member List.not_mem_nil⟩
    · cases read
  · -- a text
    obtain ⟨_, -, same⟩ := bind_eq_ok read
    cases same
    exact ⟨named.2, fun _ member => absurd member List.not_mem_nil⟩
  · -- parentheses
    obtain ⟨_, -, read⟩ := bind_eq_ok read
    obtain ⟨inner, readInner, read⟩ := bind_eq_ok read
    obtain ⟨close, readClose, same⟩ := bind_eq_ok read
    cases same
    obtain ⟨behind, places⟩ := places_parseLevels named.2 readInner
    exact ⟨named_expectSymbol behind readClose, places⟩
  · -- a call
    obtain ⟨_, -, read⟩ := bind_eq_ok read
    obtain ⟨arguments, readArguments, same⟩ := bind_eq_ok read
    cases same
    exact places_parseArguments named.2.2 readArguments
  · -- a path
    obtain ⟨_, -, read⟩ := bind_eq_ok read
    obtain ⟨⟨whole, shorter⟩, onward, same⟩ := bind_eq_ok read
    cases same
    exact places_parsePath named.2 (namesElements_name (named.1 _ rfl)) onward
  · cases read
termination_by (tokens.size, 1)
decreasing_by
  all_goals subst_vars
  · exact Prod.Lex.left _ _ (Nat.lt_succ_self _)
  · exact Prod.Lex.left _ _ (Nat.lt_succ_of_lt (Nat.lt_succ_self _))

private theorem places_parseArguments {tokens : TokenStream} {parsed : Parsed (List Expr) tokens}
    (named : tokens.Named) (read : parseArguments tokens = .ok parsed) :
    Places (Expr.fieldsOf parsed.result) parsed.rest := by
  rw [parseArguments.eq_def] at read
  split at read
  · obtain ⟨_, -, same⟩ := bind_eq_ok read
    cases same
    exact ⟨named.2, fun _ member => absurd member List.not_mem_nil⟩
  · obtain ⟨first, readFirst, read⟩ := bind_eq_ok read
    obtain ⟨⟨others, shorter⟩, readOthers, read⟩ := bind_eq_ok read
    obtain ⟨close, readClose, same⟩ := bind_eq_ok read
    cases same
    obtain ⟨behind, firstPlaces⟩ := places_parseLevels named readFirst
    obtain ⟨ended, otherPlaces⟩ := places_parseMoreArguments behind readOthers
    exact ⟨named_expectSymbol ended readClose,
      List.forall_mem_append.mpr ⟨firstPlaces, otherPlaces⟩⟩
termination_by (tokens.size, precedence.length + 4)
decreasing_by
  all_goals subst_vars
  · exact Prod.Lex.right _ (by omega)
  · exact Prod.Lex.left _ _ first.shorter

private theorem places_parseMoreArguments {tokens : TokenStream}
    {read : { read : List Expr × TokenStream // read.2.size ≤ tokens.size }}
    (named : tokens.Named) (success : parseMoreArguments tokens = .ok read) :
    Places (Expr.fieldsOf read.1.1) read.1.2 := by
  rw [parseMoreArguments.eq_def] at success
  split at success
  · obtain ⟨_, -, success⟩ := bind_eq_ok success
    obtain ⟨next, readNext, success⟩ := bind_eq_ok success
    obtain ⟨⟨others, shorter⟩, readOthers, same⟩ := bind_eq_ok success
    cases same
    obtain ⟨behind, nextPlaces⟩ := places_parseLevels named.2 readNext
    obtain ⟨ended, otherPlaces⟩ := places_parseMoreArguments behind readOthers
    exact ⟨ended, List.forall_mem_append.mpr ⟨nextPlaces, otherPlaces⟩⟩
  · cases success
    exact ⟨named, fun _ member => absurd member List.not_mem_nil⟩
termination_by (tokens.size, 0)
decreasing_by
  all_goals subst_vars
  · exact Prod.Lex.left _ _ (Nat.lt_succ_self _)
  · exact Prod.Lex.left _ _ (Nat.lt_succ_of_lt next.shorter)

end

/-- The fields of a script that is parsed name places. -/
theorem namesPlace_of_parse {script : String} {expr : Expr} (parsed : parse script = .ok expr) :
    ∀ text ∈ expr.fields, NamesPlace text := by
  unfold parse parseStream at parsed
  obtain ⟨_, -, parsed⟩ := bind_eq_ok parsed
  obtain ⟨whole, read, ended⟩ := bind_eq_ok parsed
  obtain ⟨-, places⟩ := places_parseLevels (named_scanFrom 0 script.toList) read
  split at ended
  · cases ended
    exact places
  · cases ended

end DerivedFields.Script

namespace DerivedFields

/-- A path has one text that is printed: read again it is the same path, and so is any other text with
the same pieces between its slashes, and no text without them. A text is a target if its path has steps
of which only the last is an attribute, with a name, and the target is then this path. Each path that
a script spells is a target and is printed as it is spelled. -/
theorem Path.canonical_text :
    (∀ text, parse (parse text).toText = parse text) ∧
      (∀ first second, parse first = parse second ↔ pieces first = pieces second) ∧
      (∀ text target, parseTarget text = .ok target ↔
        target = parse text ∧ ∃ parents last, (parse text).segments = parents ++ [last] ∧
          (∀ segment ∈ parents, segment.isAttribute = false) ∧ last ≠ .attribute "") ∧
      ∀ script expr, Script.parse script = .ok expr → ∀ text ∈ expr.fields,
        parseTarget text = .ok (parse text) ∧ (parse text).toText = text := by
  refine ⟨parse_toText_parse, fun _ _ => parse_eq_parse_iff, fun _ _ => parseTarget_eq_ok_iff_concat, ?_⟩
  intro script expr parsed text member
  exact (Script.namesPlace_of_parse parsed text member).canonical

/-- A path with an attribute among the arguments of a call, and a target whose text is another. -/
theorem Path.canonical_text_attribute :
    let expr : Script.Expr := .binary .divide (.call "f" [.field "a/b/@c"]) (.field "d")
    let target : Path := ⟨[.element "a", .attribute "@b"]⟩
    (Script.parse "f(a / b/@ c)/d" = .ok expr ∧ "a/b/@c" ∈ expr.fields) ∧
      (parseTarget "a/b/@c" = .ok (parse "a/b/@c") ∧ (parse "a/b/@c").toText = "a/b/@c") ∧
      parseTarget "/a//@@b/" = .ok target ∧ parse "/a//@@b/" = parse "a/@@b" ∧
      target.toText = "a/@@b" := by
  intro expr target
  obtain ⟨-, same, targets, spelled⟩ := Path.canonical_text
  have parsed : Script.parse "f(a / b/@ c)/d" = .ok expr := by cbv
  have member : "a/b/@c" ∈ expr.fields := by decide
  have steps : target = parse "/a//@@b/" := by decide
  exact ⟨⟨parsed, member⟩, spelled _ _ parsed _ member,
    (targets _ _).mpr ⟨steps, [.element "a"], .attribute "@b", steps ▸ rfl, by decide, by decide⟩,
    (same _ _).mpr (by decide), by decide⟩

end DerivedFields

import DerivedFields.Proofs.Stateful
import DerivedFields.Proofs.Script.Grammar
import DerivedFields.Proofs.Script.Reading

/-!
# What the readers accept is derived

The levels of precedence that a reader works through belong to a kind of phrases. Each reader
returns what the grammar derives from the tokens that it consumed; the proof follows the calls of
the readers, whose tokens become fewer.
-/

namespace DerivedFields.Script

open Stateful (bind_eq_ok map_eq_ok)
open TokenStream

/-- The levels of a kind of phrases and of its operands. -/
inductive Phrase.ReadBy : Phrase → List Level → Prop
  | unary : ReadBy .unary []
  | level {phrase next : Phrase} {level : Level} {tighter : List Level}
    (operand : phrase.operand? = some next)
    (spelled : ∀ sign op, level sign = some op ↔ (sign, op) ∈ phrase.operators)
    (inner : next.ReadBy tighter) : phrase.ReadBy (level :: tighter)

/-- The levels of precedence are those of the loosest phrases. -/
theorem Phrase.readBy_precedence : ReadBy .disjunction precedence := by
  refine .level rfl ?_ (.level rfl ?_ (.level rfl ?_ (.level rfl ?_ (.level rfl ?_ .unary))))
  all_goals
    intro sign op
    cases sign <;> simp [operators, eq_comm]

variable {α : Type} {stream rest : TokenStream} {expr : Expr}

private theorem size_lt_of_behind {result : Except ParseError (Parsed α stream)} {value : α}
    (read : result.map Parsed.behind = .ok (value, rest)) : rest.size < stream.size := by
  obtain ⟨parsed, -, behind⟩ := map_eq_ok read
  cases behind
  exact parsed.shorter

private theorem readSymbol_sound {expected : Symbol} (complete : stream.Complete)
    (read : readSymbol expected stream = .ok rest) :
    rest.Complete ∧ stream.tokens = .symbol expected :: rest.tokens := by
  unfold readSymbol expectSymbol at read
  split at read
  · rename_i sign stop behind
    have inner : behind.Complete := complete
    split at read
    · subst sign
      rw [inner.ready] at read
      cases read
      exact ⟨inner, rfl⟩
    · cases read
  · cases read

private theorem readIdentifier_sound {name : String} (complete : stream.Complete)
    (read : readIdentifier stream = .ok (name, rest)) :
    rest.Complete ∧ stream.tokens = .identifier name :: rest.tokens := by
  unfold readIdentifier expectIdentifier at read
  split at read
  · rename_i found stop behind
    have inner : behind.Complete := complete
    rw [inner.ready] at read
    cases read
    exact ⟨inner, rfl⟩
  · cases read

private theorem readPath_sound {path whole : String} (complete : stream.Complete)
    (read : readPath path stream = .ok (whole, rest)) :
    rest.Complete ∧ ∃ text, whole = path ++ text ∧ DerivesPath stream.tokens text rest.tokens := by
  induction path, stream using parsePath.induct with
  | case1 path stop name after behind ih =>
    have inner : behind.Complete := complete
    rw [readPath_name inner] at read
    obtain ⟨complete, text, rfl, onward⟩ := ih inner read
    refine ⟨complete, "/" ++ name ++ text, ?_, .segment onward⟩
    simp only [String.append_assoc]
  | case2 path stop after behind =>
    have inner : behind.Complete := complete
    rw [readPath_attribute inner] at read
    obtain ⟨⟨name, last⟩, found, same⟩ := map_eq_ok read
    cases same
    obtain ⟨complete, begins⟩ := readIdentifier_sound inner found
    refine ⟨complete, "/@" ++ name, ?_, ?_⟩
    · simp only [String.append_assoc]
    · change DerivesPath (_ :: _ :: behind.tokens) _ _
      rw [begins]
      exact .marker
  | case3 path stop error => cases complete
  | case4 path stream noName noAttribute noFault =>
    have ended : ¬ContinuesPath stream.tokens := by
      intro continues
      generalize begins : stream.tokens = tokens at continues
      cases continues with
      | segment name behind =>
        obtain ⟨stop, next, rfl, complete, begins⟩ := complete.eq_more begins Token.noConfusion
        obtain ⟨after, last, rfl, -, -⟩ := complete.eq_more begins Token.noConfusion
        exact noName _ _ _ _ rfl
      | marker behind =>
        obtain ⟨stop, next, rfl, complete, begins⟩ := complete.eq_more begins Token.noConfusion
        obtain ⟨after, last, rfl, -, -⟩ := complete.eq_more begins Token.noConfusion
        exact noAttribute _ _ _ rfl
    rw [readPath_stop complete path noName noAttribute] at read
    cases read
    exact ⟨complete, "", String.append_empty.symm, .stop ended⟩

/-- The readers of all levels return what is derived, as long as there are few tokens to read. -/
def SoundBelow (bound : Nat) : Prop :=
  ∀ {phrase : Phrase} {levels : List Level} {stream rest : TokenStream} {expr : Expr},
    stream.size < bound → phrase.ReadBy levels → stream.Complete →
    readLevels levels stream = .ok (expr, rest) →
    rest.Complete ∧ Derives phrase stream.tokens expr rest.tokens

variable {bound : Nat}

/-- Further arguments are derived once the parenthesis behind them closes the call. -/
theorem readMoreArguments_sound {stream : TokenStream} {others : List Expr}
    (sound : SoundBelow bound) (small : stream.size < bound) (complete : stream.Complete)
    (read : readMoreArguments stream = .ok (others, rest)) :
    rest.Complete ∧ ∀ last, rest.tokens = .symbol .closeParen :: last →
      DerivesMoreArguments stream.tokens others last := by
  by_cases comma : ∃ stop behind, stream = .more (.symbol .comma) stop behind
  · obtain ⟨stop, behind, rfl⟩ := comma
    have smaller : behind.size < bound := Nat.lt_trans (size_lt_more _ stop behind) small
    have behindComplete : behind.Complete := complete
    rw [readMoreArguments_comma behindComplete] at read
    obtain ⟨⟨next, inner⟩, readNext, read⟩ := bind_eq_ok read
    obtain ⟨⟨more, final⟩, readMore, same⟩ := map_eq_ok read
    cases same
    have shorter := size_lt_of_behind readNext
    obtain ⟨innerComplete, derived⟩ :=
      sound smaller Phrase.readBy_precedence behindComplete readNext
    obtain ⟨complete, onward⟩ := readMoreArguments_sound sound (Nat.lt_trans shorter smaller)
      innerComplete readMore
    exact ⟨complete, fun last closed => .some derived (onward last closed)⟩
  · rw [readMoreArguments_stop fun stop behind same => comma ⟨stop, behind, same⟩] at read
    cases read
    refine ⟨complete, fun last closed => ?_⟩
    rw [closed]
    exact .none
termination_by stream.size
decreasing_by
  subst_vars
  exact Nat.lt_trans shorter (size_lt_more _ _ _)

private theorem readArguments_sound {arguments : List Expr} (sound : SoundBelow bound)
    (small : stream.size < bound) (complete : stream.Complete)
    (read : readArguments stream = .ok (arguments, rest)) :
    rest.Complete ∧ DerivesArguments stream.tokens arguments rest.tokens := by
  by_cases close : ∃ stop behind, stream = .more (.symbol .closeParen) stop behind
  · obtain ⟨stop, behind, rfl⟩ := close
    have behindComplete : behind.Complete := complete
    rw [readArguments_close behindComplete] at read
    cases read
    exact ⟨complete, .none⟩
  · rw [readArguments_first fun stop behind same => close ⟨stop, behind, same⟩] at read
    obtain ⟨⟨first, behind⟩, readFirst, read⟩ := bind_eq_ok read
    obtain ⟨⟨others, more⟩, readOthers, read⟩ := bind_eq_ok read
    obtain ⟨last, readClose, same⟩ := map_eq_ok read
    cases same
    have shorter := size_lt_of_behind readFirst
    obtain ⟨complete, derived⟩ := sound small Phrase.readBy_precedence complete readFirst
    obtain ⟨complete, onward⟩ :=
      readMoreArguments_sound sound (Nat.lt_trans shorter small) complete readOthers
    obtain ⟨complete, closed⟩ := readSymbol_sound complete readClose
    exact ⟨complete, .some derived (onward _ closed)⟩

/-- A token that begins no operand is refused. -/
theorem readPrimary_sound (sound : SoundBelow stream.size) (complete : stream.Complete)
    (read : readPrimary stream = .ok (expr, rest)) :
    rest.Complete ∧ Derives .primary stream.tokens expr rest.tokens := by
  cases stream with
  | finish position =>
    rw [readPrimary_finish] at read
    cases read
  | failure error => cases complete
  | more token stop behind =>
    have behindComplete : behind.Complete := complete
    have small : behind.size < (more token stop behind).size := size_lt_more token stop behind
    cases token with
    | boolean value =>
      rw [readPrimary_boolean behindComplete] at read
      cases read
      exact ⟨behindComplete, .boolean⟩
    | string text =>
      rw [readPrimary_string behindComplete] at read
      cases read
      exact ⟨behindComplete, .string⟩
    | number digits =>
      rw [readPrimary_number behindComplete] at read
      cases fits : Decimal.ofText? digits.toList with
      | none =>
        rw [fits] at read
        cases read
      | some value =>
        rw [fits] at read
        cases read
        exact ⟨behindComplete, .number fits⟩
    | endOfScript =>
      rw [readPrimary_end] at read
      cases read
    | symbol sign =>
      by_cases opening : sign = .openParen
      · subst opening
        rw [readPrimary_parentheses behindComplete] at read
        obtain ⟨⟨inner, more⟩, readInner, read⟩ := bind_eq_ok read
        obtain ⟨last, readClose, same⟩ := map_eq_ok read
        cases same
        obtain ⟨complete, derived⟩ := sound small Phrase.readBy_precedence behindComplete readInner
        obtain ⟨complete, closed⟩ := readSymbol_sound complete readClose
        rw [closed] at derived
        exact ⟨complete, .parentheses derived⟩
      · rw [readPrimary_symbol opening] at read
        cases read
    | identifier name =>
      by_cases call : ∃ after inner, behind = .more (.symbol .openParen) after inner
      · obtain ⟨after, inner, rfl⟩ := call
        have innerComplete : inner.Complete := complete
        rw [readPrimary_call innerComplete] at read
        obtain ⟨⟨arguments, last⟩, readInner, same⟩ := map_eq_ok read
        cases same
        obtain ⟨complete, derived⟩ := readArguments_sound sound
          (Nat.lt_trans (size_lt_more _ after inner) small) innerComplete readInner
        exact ⟨complete, .call derived⟩
      · have noCall (after : Nat) (inner : TokenStream) :
            behind ≠ .more (.symbol .openParen) after inner :=
          fun same => call ⟨after, inner, same⟩
        rw [readPrimary_path behindComplete _ noCall] at read
        obtain ⟨⟨path, last⟩, readOnward, same⟩ := map_eq_ok read
        cases same
        obtain ⟨complete, text, rfl, onward⟩ := readPath_sound behindComplete readOnward
        exact ⟨complete, .path onward⟩

private theorem readUnary_sound (sound : SoundBelow stream.size) (complete : stream.Complete)
    (read : readUnary stream = .ok (expr, rest)) :
    rest.Complete ∧ Derives .unary stream.tokens expr rest.tokens := by
  by_cases minus : ∃ stop behind, stream = .more (.symbol .minus) stop behind
  · obtain ⟨stop, behind, rfl⟩ := minus
    have behindComplete : behind.Complete := complete
    rw [readUnary_minus behindComplete, ← readLevels_nil] at read
    obtain ⟨⟨operand, last⟩, readOperand, same⟩ := map_eq_ok read
    cases same
    obtain ⟨complete, derived⟩ :=
      sound (size_lt_more _ stop behind) .unary behindComplete readOperand
    exact ⟨complete, .negation derived⟩
  · rw [readUnary_primary fun stop behind same => minus ⟨stop, behind, same⟩] at read
    obtain ⟨complete, derived⟩ := readPrimary_sound sound complete read
    exact ⟨complete, .operand rfl derived⟩

/-- A chain that goes on behind a phrase makes it a longer phrase of its kind. -/
theorem readChain_sound {stream : TokenStream} {phrase next : Phrase} {level : Level}
    {tighter : List Level} {start : List Token} {left : Expr} (sound : SoundBelow bound)
    (small : stream.size < bound)
    (operand : phrase.operand? = some next)
    (spelled : ∀ sign op, level sign = some op ↔ (sign, op) ∈ phrase.operators)
    (inner : next.ReadBy tighter) (complete : stream.Complete)
    (onLeft : Derives phrase start left stream.tokens)
    (read : readChain level tighter left stream = .ok (expr, rest)) :
    rest.Complete ∧ Derives phrase start expr rest.tokens := by
  by_cases goesOn : ∃ sign op stop behind,
    stream = .more (.symbol sign) stop behind ∧ level sign = some op
  · obtain ⟨sign, op, stop, behind, rfl, found⟩ := goesOn
    have smaller : behind.size < bound := Nat.lt_trans (size_lt_more _ stop behind) small
    have behindComplete : behind.Complete := complete
    rw [readChain_operator behindComplete found] at read
    obtain ⟨⟨right, last⟩, readRight, read⟩ := bind_eq_ok read
    have shorter := size_lt_of_behind readRight
    obtain ⟨complete, onRight⟩ := sound smaller inner behindComplete readRight
    have longer := Derives.operator operand ((spelled sign op).mp found) onLeft onRight
    exact readChain_sound sound (Nat.lt_trans shorter smaller) operand spelled inner complete longer
      read
  · rw [readChain_stop] at read
    · cases read
      exact ⟨complete, onLeft⟩
    · rintro sign stop behind rfl
      cases found : level sign with
      | none => rfl
      | some op => exact absurd ⟨sign, op, stop, behind, rfl, found⟩ goesOn
termination_by stream.size
decreasing_by
  subst_vars
  exact Nat.lt_trans shorter (size_lt_more _ _ _)

/-- What is read at the levels of a phrase is such a phrase. -/
theorem readLevels_sound {phrase : Phrase} {levels : List Level} (sound : SoundBelow stream.size)
    (grammar : phrase.ReadBy levels) (complete : stream.Complete)
    (read : readLevels levels stream = .ok (expr, rest)) :
    rest.Complete ∧ Derives phrase stream.tokens expr rest.tokens := by
  induction grammar generalizing expr rest with
  | unary =>
    rw [readLevels_nil] at read
    exact readUnary_sound sound complete read
  | level operand spelled inner ih =>
    rw [readLevels_cons] at read
    obtain ⟨⟨first, behind⟩, readFirst, read⟩ := bind_eq_ok read
    have shorter := size_lt_of_behind readFirst
    obtain ⟨complete, derived⟩ := ih readFirst
    exact readChain_sound sound shorter operand spelled inner complete (.operand operand derived)
      read

/-- The readers are sound however many tokens there are. -/
theorem soundBelow (bound : Nat) : SoundBelow bound := by
  induction bound with
  | zero =>
    intro _ _ _ _ _ small
    cases small
  | succ bound ih =>
    intro phrase levels stream rest expr small grammar complete read
    refine readLevels_sound ?_ grammar complete read
    intro phrase levels inner rest expr smaller
    exact ih (by omega)

end DerivedFields.Script

import Mathlib
import DerivedFields.Proofs.Script.Soundness

/-!
# What is derived is read

A derivation does not show what the readers look at behind a phrase: they go on as long as they can.
So a phrase is read to its end where nothing follows that could continue its operands, and what
follows goes to the chain of its own level. With this, a script is read as an expression exactly if
its tokens derive that expression.
-/

namespace DerivedFields.Script

open Stateful (bind_eq_ok)
open TokenStream

/-- The level of a sign among the operators, counted from the loosest. -/
def Symbol.rank : Symbol → Nat
  | .disjunction => 0
  | .conjunction => 1
  | .equal | .notEqual | .less | .greater | .lessEqual | .greaterEqual => 2
  | .plus | .minus => 3
  | .star | .slash | .percent => 4
  | .atSign | .openParen | .closeParen | .comma => 5

namespace Phrase

def rank : Phrase → Nat
  | .disjunction => 0
  | .conjunction => 1
  | .comparison => 2
  | .sum => 3
  | .product => 4
  | .unary => 5
  | .primary => 6

private theorem rank_of_mem_operators (phrase : Phrase) :
    ∀ pair ∈ phrase.operators, pair.1.rank = phrase.rank ∧ pair.1 ≠ .openParen := by
  cases phrase <;> decide

private theorem rank_of_operand? {phrase next : Phrase} (operand : phrase.operand? = some next) :
    next.rank = phrase.rank + 1 := by
  cases phrase <;> cases operand <;> rfl

private theorem not_readBy_primary (levels : List Level) : ¬ReadBy .primary levels := by
  rintro ⟨⟩
  contradiction

/-- The operators at the levels of a phrase are no looser than its own. -/
theorem ReadBy.rank_le {phrase : Phrase} {levels : List Level} (grammar : phrase.ReadBy levels)
    {level : Level} (member : level ∈ levels) {sign : Symbol} {op : BinaryOp}
    (found : level sign = some op) : phrase.rank ≤ sign.rank := by
  induction grammar with
  | unary => cases member
  | level operand spelled inner ih =>
    rcases List.mem_cons.mp member with rfl | deeper
    · exact Nat.le_of_eq (rank_of_mem_operators _ _ ((spelled sign op).mp found)).1.symm
    · have := rank_of_operand? operand
      have := ih deeper
      omega

end Phrase

/-- Tokens do not continue what the levels read, nor make a name before them a call. -/
def Follows (levels : List Level) (tokens : List Token) : Prop :=
  ∀ sign rest, tokens = .symbol sign :: rest →
    sign ≠ .openParen ∧ ∀ level ∈ levels, level sign = none

/-- An operator follows what the tighter levels read. -/
theorem follows_operator {phrase next : Phrase} {tighter : List Level} {sign : Symbol}
    {op : BinaryOp} (operand : phrase.operand? = some next) (inner : next.ReadBy tighter)
    (spelled : (sign, op) ∈ phrase.operators) (rest : List Token) :
    Follows tighter (.symbol sign :: rest) := by
  obtain ⟨rank, other⟩ := phrase.rank_of_mem_operators _ spelled
  rintro _ _ ⟨⟩
  refine ⟨other, fun level member => ?_⟩
  cases found : level sign with
  | none => rfl
  | some op =>
    have := inner.rank_le member found
    have := Phrase.rank_of_operand? operand
    simp only at rank
    omega

private theorem follows_closeParen (rest : List Token) :
    Follows precedence (.symbol .closeParen :: rest) := by
  rintro _ _ ⟨⟩
  decide

private theorem follows_comma (rest : List Token) :
    Follows precedence (.symbol .comma :: rest) := by
  rintro _ _ ⟨⟩
  decide

private theorem follows_end : Follows precedence [.endOfScript] := by
  rintro _ _ ⟨⟩

/-- What the loosest of the levels reads behind a first operand. -/
def readOnward : List Level → Expr → TokenStream → Except ParseError (Expr × TokenStream)
  | [], left, stream => .ok (left, stream)
  | level :: tighter, left, stream => readChain level tighter left stream

private theorem readOnward_stop {levels : List Level} {stream : TokenStream}
    (follows : Follows levels stream.tokens) (left : Expr) :
    readOnward levels left stream = .ok (left, stream) := by
  cases levels with
  | nil => rfl
  | cons level tighter =>
    refine readChain_stop ?_ tighter left
    rintro sign stop rest rfl
    exact (follows sign rest.tokens rfl).2 level List.mem_cons_self

/-- A phrase is read up to the tokens behind it, if they do not continue its operands. -/
def Phrase.Read (phrase : Phrase) (stream : TokenStream) (expr : Expr) (behind : TokenStream) :
    Prop :=
  (phrase = .primary → Follows [] behind.tokens → readPrimary stream = .ok (expr, behind)) ∧
    ∀ levels, phrase.ReadBy levels → Follows levels.tail behind.tokens →
      readLevels levels stream = readOnward levels expr behind

theorem readPath_complete {tokens rest : List Token} {text : String}
    (derived : DerivesPath tokens text rest) {stream : TokenStream} (complete : stream.Complete)
    (begins : stream.tokens = tokens) (path : String) :
    ∃ behind, behind.Complete ∧ behind.tokens = rest ∧
      readPath path stream = .ok (path ++ text, behind) := by
  induction derived generalizing stream path with
  | stop ended =>
    subst begins
    refine ⟨stream, complete, rfl, ?_⟩
    rw [String.append_empty]
    refine readPath_stop complete path ?_ ?_
    · rintro _ _ _ _ rfl
      exact ended (.segment _ _)
    · rintro _ _ _ rfl
      exact ended (.marker _)
  | segment onward ih =>
    rename_i name text tokens rest
    obtain ⟨_, _, rfl, complete, begins⟩ := complete.eq_more begins Token.noConfusion
    obtain ⟨_, inner, rfl, complete, begins⟩ := complete.eq_more begins Token.noConfusion
    obtain ⟨behind, behindComplete, same, read⟩ := ih complete begins (path ++ "/" ++ name)
    refine ⟨behind, behindComplete, same, ?_⟩
    rw [readPath_name complete, read]
    simp only [String.append_assoc]
  | marker =>
    rename_i name rest
    obtain ⟨_, _, rfl, complete, begins⟩ := complete.eq_more begins Token.noConfusion
    obtain ⟨_, inner, rfl, complete, begins⟩ := complete.eq_more begins Token.noConfusion
    have innerComplete := complete
    obtain ⟨_, behind, rfl, complete, begins⟩ := complete.eq_more begins Token.noConfusion
    refine ⟨behind, complete, begins, ?_⟩
    rw [readPath_attribute innerComplete, readIdentifier_self complete]
    simp only [Except.map, String.append_assoc]

variable {stream behind : TokenStream} {expr : Expr}

private theorem Follows.tail {levels : List Level} {tokens : List Token}
    (follows : Follows levels tokens) :
    Follows levels.tail tokens := by
  intro sign rest begins
  obtain ⟨other, none⟩ := follows sign rest begins
  exact ⟨other, fun level member => none level (List.mem_of_mem_tail member)⟩

namespace Phrase.Read

/-- Its levels read a phrase to its end where its own operators do not follow either. -/
theorem levels {phrase : Phrase} {levels : List Level} (read : phrase.Read stream expr behind)
    (grammar : phrase.ReadBy levels) (follows : Follows levels behind.tokens) :
    readLevels levels stream = .ok (expr, behind) := by
  rw [read.2 levels grammar follows.tail]
  exact readOnward_stop follows expr

private theorem of_levels {phrase : Phrase} (other : phrase ≠ .primary)
    (read : ∀ levels, phrase.ReadBy levels → Follows levels.tail behind.tokens →
      readLevels levels stream = readOnward levels expr behind) :
    phrase.Read stream expr behind :=
  ⟨fun same => absurd same other, read⟩

private theorem of_primary (read : Follows [] behind.tokens → readPrimary stream = .ok (expr, behind)) :
    Phrase.Read .primary stream expr behind :=
  ⟨fun _ => read, fun levels grammar => absurd grammar (not_readBy_primary levels)⟩

private theorem operand {phrase tighter : Phrase} (next : phrase.operand? = some tighter)
    (read : tighter.Read stream expr behind) : phrase.Read stream expr behind := by
  refine .of_levels (by rintro rfl; cases next) fun levels grammar follows => ?_
  cases grammar with
  | unary =>
    cases next
    have primary := read.1 rfl follows
    rw [readLevels_nil, readUnary_primary, primary]
    · rfl
    · rintro stop rest rfl
      rw [readPrimary_symbol (by decide)] at primary
      cases primary
  | level operand spelled inner =>
    obtain rfl := Option.some.inj (operand.symm.trans next)
    rw [readLevels_cons, read.levels inner follows]
    rfl

private theorem operator {phrase tighter : Phrase} {sign : Symbol} {op : BinaryOp} {left right : Expr}
    {stop : Nat} {middle : TokenStream} (next : phrase.operand? = some tighter)
    (spelled : (sign, op) ∈ phrase.operators) (complete : middle.Complete)
    (onLeft : phrase.Read stream left (.more (.symbol sign) stop middle))
    (onRight : tighter.Read middle right behind) :
    phrase.Read stream (.binary op left right) behind := by
  refine .of_levels (by rintro rfl; cases next) fun levels grammar follows => ?_
  cases grammar with
  | unary => cases spelled
  | level operand signs inner =>
    obtain rfl := Option.some.inj (operand.symm.trans next)
    rw [onLeft.2 _ (.level operand signs inner) (follows_operator operand inner spelled _)]
    simp only [readOnward]
    rw [readChain_operator complete ((signs sign op).mpr spelled), onRight.levels inner follows]
    rfl

private theorem negation {stop : Nat} {middle : TokenStream} (complete : middle.Complete)
    (read : Phrase.Read .unary middle expr behind) :
    Phrase.Read .unary (.more (.symbol .minus) stop middle) (.negate expr) behind := by
  refine .of_levels Phrase.noConfusion fun levels grammar follows => ?_
  cases grammar with
  | unary =>
    have readOperand := read.levels .unary follows
    rw [readLevels_nil] at readOperand ⊢
    rw [readUnary_minus complete, readOperand]
    rfl
  | level operand spelled inner =>
    cases operand
    exact absurd inner (not_readBy_primary _)

end Phrase.Read

/-- A name is no call where its path is not followed by a parenthesis. -/
theorem readPrimary_complete {tokens rest : List Token} {text : String}
    (derived : DerivesPath tokens text rest) {stream : TokenStream} (complete : stream.Complete)
    (begins : stream.tokens = tokens) (name : String) (stop : Nat) :
    ∃ behind, behind.Complete ∧ behind.tokens = rest ∧
      Phrase.Read .primary (.more (.identifier name) stop stream) (.field (name ++ text))
        behind := by
  obtain ⟨behind, behindComplete, same, read⟩ := readPath_complete derived complete begins name
  refine ⟨behind, behindComplete, same, .of_primary fun follows => ?_⟩
  rw [readPrimary_path complete, read]
  · rfl
  · rintro after inner rfl
    subst begins
    cases derived with
    | stop ended => exact (follows .openParen inner.tokens same).1 rfl

private theorem DerivesMoreArguments.follows {tokens rest : List Token} {others : List Expr}
    (derived : DerivesMoreArguments tokens others rest) : Follows precedence tokens := by
  cases derived with
  | none => exact follows_closeParen rest
  | some => exact follows_comma _

/-- No phrase begins with the parenthesis that closes a call. -/
theorem Derives.not_closeParen {phrase : Phrase} {tokens rest : List Token} {expr : Expr}
    (derived : Derives phrase tokens expr rest) (behind : List Token) :
    tokens ≠ .symbol .closeParen :: behind := by
  match derived with
  | .operand _ inner => exact inner.not_closeParen behind
  | .operator _ _ onLeft _ => exact onLeft.not_closeParen behind
  | .negation _ | .boolean | .number _ | .string | .parentheses _ | .call _ | .path _ => rintro ⟨⟩

mutual

/-- What derives a phrase is read as that phrase. -/
theorem Derives.read {phrase : Phrase} {tokens rest : List Token} {expr : Expr}
    (derived : Derives phrase tokens expr rest) (stream : TokenStream) (complete : stream.Complete)
    (begins : stream.tokens = tokens) :
    ∃ behind, behind.Complete ∧ behind.tokens = rest ∧ phrase.Read stream expr behind := by
  match derived with
  | .operand next inner =>
    obtain ⟨behind, behindComplete, same, read⟩ := inner.read stream complete begins
    exact ⟨behind, behindComplete, same, read.operand next⟩
  | .operator next spelled onLeft onRight =>
    obtain ⟨_, middleComplete, middle, readLeft⟩ := onLeft.read stream complete begins
    obtain ⟨_, inner, rfl, complete, begins⟩ := middleComplete.eq_more middle Token.noConfusion
    obtain ⟨behind, behindComplete, same, readRight⟩ := onRight.read inner complete begins
    exact ⟨behind, behindComplete, same, .operator next spelled complete readLeft readRight⟩
  | .negation inner =>
    obtain ⟨_, negated, rfl, complete, begins⟩ := complete.eq_more begins Token.noConfusion
    obtain ⟨behind, behindComplete, same, read⟩ := inner.read negated complete begins
    exact ⟨behind, behindComplete, same, .negation complete read⟩
  | .boolean =>
    obtain ⟨_, behind, rfl, complete, begins⟩ := complete.eq_more begins Token.noConfusion
    exact ⟨behind, complete, begins, .of_primary fun _ => readPrimary_boolean complete _⟩
  | .number fits =>
    obtain ⟨_, behind, rfl, complete, begins⟩ := complete.eq_more begins Token.noConfusion
    refine ⟨behind, complete, begins, .of_primary fun _ => ?_⟩
    rw [readPrimary_number complete, fits]
  | .string =>
    obtain ⟨_, behind, rfl, complete, begins⟩ := complete.eq_more begins Token.noConfusion
    exact ⟨behind, complete, begins, .of_primary fun _ => readPrimary_string complete _⟩
  | .parentheses inner =>
    obtain ⟨_, opened, rfl, complete, begins⟩ := complete.eq_more begins Token.noConfusion
    obtain ⟨closing, closingComplete, same, read⟩ := inner.read opened complete begins
    have readInner := read.levels Phrase.readBy_precedence (same ▸ follows_closeParen _)
    obtain ⟨_, behind, rfl, behindComplete, same⟩ := closingComplete.eq_more same Token.noConfusion
    refine ⟨behind, behindComplete, same, .of_primary fun _ => ?_⟩
    rw [readPrimary_parentheses complete, readInner]
    simp only [bind, Except.bind, readSymbol_self behindComplete, Except.map]
  | .call inner =>
    obtain ⟨_, _, rfl, complete, begins⟩ := complete.eq_more begins Token.noConfusion
    obtain ⟨_, opened, rfl, complete, begins⟩ := complete.eq_more begins Token.noConfusion
    obtain ⟨behind, behindComplete, same, read⟩ := inner.read opened complete begins
    refine ⟨behind, behindComplete, same, .of_primary fun _ => ?_⟩
    rw [readPrimary_call complete, read]
    rfl
  | .path onward =>
    obtain ⟨stop, named, rfl, complete, begins⟩ := complete.eq_more begins Token.noConfusion
    exact readPrimary_complete onward complete begins _ stop

theorem DerivesArguments.read {tokens rest : List Token} {arguments : List Expr}
    (derived : DerivesArguments tokens arguments rest) (stream : TokenStream)
    (complete : stream.Complete) (begins : stream.tokens = tokens) :
    ∃ behind, behind.Complete ∧ behind.tokens = rest ∧
      readArguments stream = .ok (arguments, behind) := by
  match derived with
  | .none =>
    obtain ⟨_, behind, rfl, complete, begins⟩ := complete.eq_more begins Token.noConfusion
    exact ⟨behind, complete, begins, readArguments_close complete⟩
  | .some inner onward =>
    obtain ⟨others, othersComplete, othersBegin, readFirst⟩ := inner.read stream complete begins
    obtain ⟨stop, behind, behindComplete, same, readOthers⟩ :=
      onward.read others othersComplete othersBegin
    have readFirst := readFirst.levels Phrase.readBy_precedence (othersBegin ▸ onward.follows)
    refine ⟨behind, behindComplete, same, ?_⟩
    rw [readArguments_first, readFirst]
    · simp only [bind, Except.bind, readOthers, readSymbol_self behindComplete, Except.map]
    · rintro stop rest rfl
      exact inner.not_closeParen rest.tokens begins.symm

/-- Further arguments are read up to the parenthesis that closes the call. -/
theorem DerivesMoreArguments.read {tokens rest : List Token} {others : List Expr}
    (derived : DerivesMoreArguments tokens others rest) (stream : TokenStream)
    (complete : stream.Complete) (begins : stream.tokens = tokens) :
    ∃ stop behind, behind.Complete ∧ behind.tokens = rest ∧
      readMoreArguments stream = .ok (others, .more (.symbol .closeParen) stop behind) := by
  match derived with
  | .none =>
    obtain ⟨stop, behind, rfl, complete, begins⟩ := complete.eq_more begins Token.noConfusion
    exact ⟨stop, behind, complete, begins, readMoreArguments_stop (by simp)⟩
  | .some inner onward =>
    obtain ⟨_, next, rfl, complete, begins⟩ := complete.eq_more begins Token.noConfusion
    obtain ⟨others, othersComplete, othersBegin, readNext⟩ := inner.read next complete begins
    obtain ⟨stop, behind, behindComplete, same, readOthers⟩ :=
      onward.read others othersComplete othersBegin
    have readNext := readNext.levels Phrase.readBy_precedence (othersBegin ▸ onward.follows)
    refine ⟨stop, behind, behindComplete, same, ?_⟩
    rw [readMoreArguments_comma complete, readNext]
    simp only [bind, Except.bind, readOthers, Except.map]

end

/-- A script without lexical faults is read as an expression exactly if its tokens derive it. -/
theorem parse_iff_derives {script : String} (complete : (scan script).Complete) (expr : Expr) :
    parse script = .ok expr ↔ Derives .disjunction (scan script).tokens expr [.endOfScript] := by
  rw [parse, parseStream_eq complete]
  constructor
  · intro read
    obtain ⟨⟨expr, behind⟩, readExpr, read⟩ := bind_eq_ok read
    obtain ⟨-, derived⟩ :=
      soundBelow _ (Nat.lt_succ_self _) Phrase.readBy_precedence complete readExpr
    cases behind with
    | more | failure => cases read
    | finish position =>
      cases read
      exact derived
  · intro derived
    obtain ⟨behind, behindComplete, ended, read⟩ := derived.read (scan script) complete rfl
    rw [read.levels Phrase.readBy_precedence (ended ▸ follows_end)]
    obtain ⟨position, rfl⟩ := behindComplete.eq_finish ended
    rfl

theorem complete_of_tokenize {script : String} {tokens : List Token}
    (success : tokenize script = .ok tokens) :
    (scan script).Complete ∧ (scan script).tokens = tokens := by
  simp only [tokenize, TokenStream.toTokens] at success
  split at success
  · cases success
  · rename_i complete
    exact ⟨complete, Except.ok.inj success⟩

/-- The parser accepts exactly the grammar: of a script that can be divided into tokens it gives the
expression that these tokens derive, of which there is at most one, and if they derive none it gives
an error. -/
theorem parse_eq_ok_iff {script : String} {tokens : List Token}
    (divided : tokenize script = .ok tokens) :
    (∀ expr, parse script = .ok expr ↔ Derives .disjunction tokens expr [.endOfScript]) ∧
      (∀ expr other, Derives .disjunction tokens expr [.endOfScript] →
        Derives .disjunction tokens other [.endOfScript] → expr = other) ∧
      ((¬∃ expr, Derives .disjunction tokens expr [.endOfScript]) →
        ∃ error, parse script = .error error) := by
  obtain ⟨complete, rfl⟩ := complete_of_tokenize divided
  refine ⟨parse_iff_derives complete, ?_, ?_⟩
  · intro expr other derived otherDerived
    have read := (parse_iff_derives complete expr).mpr derived
    rw [(parse_iff_derives complete other).mpr otherDerived] at read
    exact (Except.ok.inj read).symm
  · intro underivable
    cases read : parse script with
    | error error => exact ⟨error, rfl⟩
    | ok expr => exact absurd ⟨expr, (parse_iff_derives complete expr).mp read⟩ underivable

/-- In the quotient of a path the slash in front of a parenthesis divides, the one in front of a
name does not. -/
theorem parse_eq_ok_iff_quotient :
    tokenize "a/b/(c)" = .ok [.identifier "a", .symbol .slash, .identifier "b", .symbol .slash,
        .symbol .openParen, .identifier "c", .symbol .closeParen, .endOfScript] ∧
      Derives .disjunction [.identifier "a", .symbol .slash, .identifier "b", .symbol .slash,
        .symbol .openParen, .identifier "c", .symbol .closeParen, .endOfScript]
        (.binary .divide (.field "a/b") (.field "c")) [.endOfScript] := by
  have divided : tokenize "a/b/(c)" = .ok [.identifier "a", .symbol .slash, .identifier "b",
      .symbol .slash, .symbol .openParen, .identifier "c", .symbol .closeParen, .endOfScript] := by
    cbv
  refine ⟨divided, ((parse_eq_ok_iff divided).1 _).mp ?_⟩
  cbv

end DerivedFields.Script

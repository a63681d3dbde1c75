import Mathlib
import DerivedFields.Proofs.Script.Completeness
import DerivedFields.Proofs.Script.Concatenation

/-!
# Division by a call

A path goes on at a slash with a name behind it, whether or not that name is the name of a function.
So it depends on the operand before a slash whether the call behind it is a divisor. What follows a
phrase matters to it only if it ends with an open path: every other phrase is derived with whatever
tokens behind it, and that path takes the name of the function away from the call.
-/

namespace DerivedFields.Script

open TokenStream

/-! ## What follows a phrase -/

/-- The last token is the name of an element in a path. A slash and a name behind it go on with the
path, as they do not behind the name of an attribute. -/
def endsInSegment : List Token → Bool
  | [] => false
  | [.identifier _] => true
  | [.symbol .atSign, .identifier _] => false
  | _ :: rest => endsInSegment rest

private theorem endsInSegment_cons {token : Token} (other : token ≠ .symbol .atSign)
    {tokens : List Token}
    (nonempty : tokens ≠ []) : endsInSegment (token :: tokens) = endsInSegment tokens := by
  rw [endsInSegment]
  · rintro name - rfl
    exact nonempty rfl
  · rintro name rfl
    exact fun _ => other rfl

private theorem endsInSegment_append {token : Token} (other : token ≠ .symbol .atSign)
    {tokens : List Token} (nonempty : tokens ≠ []) (before : List Token) :
    endsInSegment (before ++ token :: tokens) = endsInSegment tokens := by
  induction before with
  | nil => exact endsInSegment_cons other nonempty
  | cons first before ih =>
    rw [List.cons_append, endsInSegment, ih]
    · simp
    · intro name _ same
      have single := congrArg List.length same
      have several := List.length_pos_iff.mpr nonempty
      simp only [List.length_append, List.length_cons, List.length_nil] at single
      omega

private theorem endsInSegment_closed (before : List Token) (sign : Symbol) :
    endsInSegment (before ++ [.symbol sign]) = false := by
  induction before with
  | nil => simp [endsInSegment]
  | cons first before ih =>
    rw [List.cons_append, endsInSegment, ih]
    · simp
    · intro name _ same
      have last := congrArg List.getLast? same
      simp at last

private theorem not_continuesPath_symbol {sign : Symbol} (other : sign ≠ .slash) (rest : List Token) :
    ¬ContinuesPath (.symbol sign :: rest) := by
  rintro ⟨⟩ <;> exact other rfl

/-- Whether a path goes on shows in the two tokens behind it. -/
theorem ContinuesPath.exchange {first : Token} {used : List Token} (nonempty : used ≠ [])
    {rest : List Token} (continues : ContinuesPath (first :: (used ++ rest)))
    (other : List Token) : ContinuesPath (first :: (used ++ other)) := by
  obtain ⟨second, others, rfl⟩ := List.exists_cons_of_ne_nil nonempty
  cases continues with
  | segment name => exact .segment name _
  | marker => exact .marker _

/-- The path is read to its end with other tokens behind it. -/
theorem DerivesPath.frame {tokens rest : List Token} {text : String}
    (derived : DerivesPath tokens text rest) (name : String) :
    ∃ used, tokens = used ++ rest ∧
      (endsInSegment (.identifier name :: used) = true → ¬ContinuesPath rest) ∧
      (∀ other, (endsInSegment (.identifier name :: used) = true → ¬ContinuesPath other) →
        DerivesPath (used ++ other) text other) ∧
      (endsInSegment (.identifier name :: used) = true → ∀ next other, ¬ContinuesPath other →
        DerivesPath (used ++ .symbol .slash :: .identifier next :: other) (text ++ "/" ++ next)
          other) := by
  induction derived generalizing name with
  | stop ended =>
    refine ⟨[], rfl, fun _ => ended, fun other stops => .stop (stops rfl), ?_⟩
    intro _ next other stops
    have whole := @DerivesPath.segment next _ _ _ (.stop stops)
    simpa using whole
  | @segment segment text tokens rest onward ih =>
    obtain ⟨used, rfl, ended, exchanged, extended⟩ := ih segment
    have same : endsInSegment (.identifier name :: .symbol .slash :: .identifier segment :: used) =
        endsInSegment (.identifier segment :: used) :=
      endsInSegment_append (by decide) (List.cons_ne_nil _ _) [.identifier name]
    refine ⟨.symbol .slash :: .identifier segment :: used, rfl, same ▸ ended, ?_, ?_⟩
    · rw [same]
      exact fun other stops => .segment (exchanged other stops)
    · rw [same]
      intro isOpen next other stops
      have whole := @DerivesPath.segment segment _ _ _ (extended isOpen next other stops)
      rwa [← String.append_assoc, ← String.append_assoc] at whole
  | @marker last rest =>
    have closed : endsInSegment [.identifier name, .symbol .slash, .symbol .atSign,
        .identifier last] = false := by
      simp [endsInSegment]
    refine ⟨[.symbol .slash, .symbol .atSign, .identifier last], rfl, ?_, ?_, ?_⟩
    · simp [closed]
    · exact fun other _ => .marker
    · simp [closed]

private theorem DerivesPath.head {tokens rest : List Token} {text : String}
    (derived : DerivesPath tokens text rest) :
    tokens = rest ∨ ∃ behind, tokens = .symbol .slash :: behind := by
  cases derived with
  | stop => exact .inl rfl
  | segment | marker => exact .inr ⟨_, rfl⟩

private theorem DerivesMoreArguments.not_continuesPath {tokens rest : List Token} {others : List Expr}
    (derived : DerivesMoreArguments tokens others rest) : ¬ContinuesPath tokens := by
  cases derived with
  | none | some => exact not_continuesPath_symbol (by decide) _

private theorem Phrase.ne_atSign_of_mem_operators (phrase : Phrase) :
    ∀ pair ∈ phrase.operators, pair.1 ≠ .atSign := by
  cases phrase <;> decide

mutual

/-- A phrase is derived with other tokens behind it, if they do not go on with its last path. -/
theorem Derives.frame {phrase : Phrase} {tokens rest : List Token} {expr : Expr}
    (derived : Derives phrase tokens expr rest) :
    ∃ used, used ≠ [] ∧ tokens = used ++ rest ∧
      (endsInSegment used = true → ¬ContinuesPath rest) ∧
      ∀ other, (endsInSegment used = true → ¬ContinuesPath other) →
        Derives phrase (used ++ other) expr other := by
  match derived with
  | .operand next inner =>
    obtain ⟨used, nonempty, split, ended, exchanged⟩ := inner.frame
    exact ⟨used, nonempty, split, ended, fun other stops => .operand next (exchanged other stops)⟩
  | @Derives.operator _ _ sign _ _ _ _ _ _ next spelled onLeft onRight =>
    obtain ⟨left, leftNonempty, rfl, leftEnded, leftExchanged⟩ := onLeft.frame
    obtain ⟨right, rightNonempty, rfl, rightEnded, rightExchanged⟩ := onRight.frame
    have operator : Token.symbol sign ≠ .symbol .atSign := by
      rintro ⟨⟩
      exact phrase.ne_atSign_of_mem_operators _ spelled rfl
    have same : endsInSegment (left ++ .symbol sign :: right) = endsInSegment right :=
      endsInSegment_append operator rightNonempty left
    refine ⟨left ++ .symbol sign :: right, by simp, by simp, same ▸ rightEnded, ?_⟩
    intro other stops
    rw [same] at stops
    rw [List.append_assoc, List.cons_append]
    -- a path on the left sees the operator and the first token behind it, and both stay
    refine .operator next spelled (leftExchanged _ fun isOpen continues => ?_)
      (rightExchanged other stops)
    exact leftEnded isOpen (continues.exchange rightNonempty _)
  | .negation inner =>
    obtain ⟨used, nonempty, rfl, ended, exchanged⟩ := inner.frame
    have same :=
      endsInSegment_cons (show Token.symbol .minus ≠ .symbol .atSign by decide) nonempty
    refine ⟨.symbol .minus :: used, List.cons_ne_nil _ _, rfl, same ▸ ended, ?_⟩
    rw [same]
    exact fun other stops => .negation (exchanged other stops)
  | .boolean => exact ⟨[_], List.cons_ne_nil _ _, rfl, nofun, fun _ _ => .boolean⟩
  | .number fits => exact ⟨[_], List.cons_ne_nil _ _, rfl, nofun, fun _ _ => .number fits⟩
  | .string => exact ⟨[_], List.cons_ne_nil _ _, rfl, nofun, fun _ _ => .string⟩
  | .parentheses inner =>
    obtain ⟨used, -, rfl, -, exchanged⟩ := inner.frame
    have closed := endsInSegment_closed (.symbol .openParen :: used) .closeParen
    refine ⟨.symbol .openParen :: used ++ [.symbol .closeParen], by simp, by simp, ?_, ?_⟩
    · rw [closed]
      exact nofun
    · intro other _
      rw [List.append_assoc]
      exact .parentheses (exchanged _ fun _ => not_continuesPath_symbol (by decide) _)
  | @Derives.call name _ _ _ inner =>
    obtain ⟨used, rfl, exchanged⟩ := inner.frame
    have closed :=
      endsInSegment_closed (.identifier name :: .symbol .openParen :: used) .closeParen
    refine ⟨.identifier name :: .symbol .openParen :: used ++ [.symbol .closeParen], by simp,
      by simp, ?_, ?_⟩
    · rw [closed]
      exact nofun
    · intro other _
      rw [List.append_assoc]
      exact .call (exchanged other)
  | @Derives.path name _ _ _ onward =>
    obtain ⟨used, rfl, ended, exchanged, -⟩ := onward.frame name
    exact ⟨.identifier name :: used, List.cons_ne_nil _ _, rfl, ended,
      fun other stops => .path (exchanged other stops)⟩

theorem DerivesArguments.frame {tokens rest : List Token} {arguments : List Expr}
    (derived : DerivesArguments tokens arguments rest) :
    ∃ used, tokens = used ++ .symbol .closeParen :: rest ∧
      ∀ other, DerivesArguments (used ++ .symbol .closeParen :: other) arguments other := by
  match derived with
  | .none => exact ⟨[], rfl, fun _ => .none⟩
  | .some inner onward =>
    obtain ⟨first, -, rfl, -, firstExchanged⟩ := inner.frame
    obtain ⟨used, rfl, exchanged⟩ := onward.frame
    refine ⟨first ++ used, (List.append_assoc _ _ _).symm, fun other => ?_⟩
    rw [List.append_assoc]
    have others := exchanged other
    exact .some (firstExchanged _ fun _ => others.not_continuesPath) others

theorem DerivesMoreArguments.frame {tokens rest : List Token} {others : List Expr}
    (derived : DerivesMoreArguments tokens others rest) :
    ∃ used, tokens = used ++ .symbol .closeParen :: rest ∧
      ∀ other, DerivesMoreArguments (used ++ .symbol .closeParen :: other) others other := by
  match derived with
  | .none => exact ⟨[], rfl, fun _ => .none⟩
  | .some inner onward =>
    obtain ⟨next, -, rfl, -, nextExchanged⟩ := inner.frame
    obtain ⟨used, rfl, exchanged⟩ := onward.frame
    refine ⟨.symbol .comma :: next ++ used, by simp, fun other => ?_⟩
    rw [List.append_assoc]
    have others := exchanged other
    exact .some (nextExchanged _ fun _ => others.not_continuesPath) others

end

/-! ## Quotients -/

/-- An operand that ends with the name of an element takes a further slash and name into its path,
whatever stands behind them. -/
theorem Derives.readUnary_extended {phrase : Phrase} {tokens used rest : List Token} {expr : Expr}
    (derived : Derives phrase tokens expr rest) (tight : phrase = .unary ∨ phrase = .primary)
    (split : tokens = used ++ rest) (isOpen : endsInSegment used = true) {name : String}
    {other : List Token} (stops : ¬ContinuesPath other) {stream : TokenStream}
    (complete : stream.Complete)
    (begins : stream.tokens = used ++ .symbol .slash :: .identifier name :: other) :
    ∃ expr behind, behind.Complete ∧ behind.tokens = other ∧
      readUnary stream = .ok (expr, behind) := by
  match derived with
  | .operand next inner =>
    refine inner.readUnary_extended (.inr ?_) split isOpen stops complete begins
    obtain rfl | rfl := tight <;> cases next
    rfl
  | .operator next spelled _ _ =>
    obtain rfl | rfl := tight <;> cases spelled
  | .negation inner =>
    obtain ⟨operand, nonempty, inside, -⟩ := inner.frame
    rw [inside] at split
    obtain rfl : .symbol .minus :: operand = used := List.append_cancel_right split
    rw [endsInSegment_cons (by decide) nonempty] at isOpen
    obtain ⟨_, negated, rfl, complete, begins⟩ := complete.eq_more begins Token.noConfusion
    obtain ⟨expr, behind, behindComplete, same, read⟩ :=
      inner.readUnary_extended (.inl rfl) inside isOpen stops complete begins
    refine ⟨.negate expr, behind, behindComplete, same, ?_⟩
    rw [readUnary_minus complete, read]
    rfl
  | .boolean | .number _ | .string =>
    obtain rfl : [_] = used := List.append_cancel_right split
    cases isOpen
  | .parentheses inner =>
    obtain ⟨opened, -, rfl, -⟩ := inner.frame
    obtain rfl : .symbol .openParen :: opened ++ [.symbol .closeParen] = used :=
      List.append_cancel_right (by simpa using split)
    rw [endsInSegment_closed] at isOpen
    cases isOpen
  | @Derives.call function _ _ _ inner =>
    obtain ⟨opened, rfl, -⟩ := inner.frame
    obtain rfl : .identifier function :: .symbol .openParen :: opened ++ [.symbol .closeParen] =
        used := List.append_cancel_right (by simpa using split)
    rw [endsInSegment_closed] at isOpen
    cases isOpen
  | @Derives.path first text _ _ onward =>
    obtain ⟨segments, rfl, -, -, extended⟩ := onward.frame first
    obtain rfl : .identifier first :: segments = used := List.append_cancel_right split
    obtain ⟨stop, named, rfl, complete, begins⟩ := complete.eq_more begins Token.noConfusion
    obtain ⟨behind, behindComplete, same, read⟩ :=
      readPath_complete (extended isOpen name other stops) complete begins first
    refine ⟨.field (first ++ (text ++ "/" ++ name)), behind, behindComplete, same, ?_⟩
    rw [readUnary_primary (by simp), readPrimary_path complete, read]
    · rfl
    -- a slash is behind the first name, so it is no call
    · rintro after inner rfl
      cases segments with
      | nil => cases begins
      | cons token segments =>
        obtain rest | ⟨_, slash⟩ := onward.head
        · have length := congrArg List.length rest
          simp only [List.length_append, List.length_cons] at length
          omega
        · cases slash
          cases begins

/-- What the tightest level reads all levels read, if none of them finds an operator behind it. -/
theorem readLevels_of_readUnary {stream behind : TokenStream} {expr : Expr}
    (read : readUnary stream = .ok (expr, behind)) {levels : List Level}
    (ended : ∀ level ∈ levels, ∀ sign stop rest, behind = .more (.symbol sign) stop rest →
      level sign = none) : readLevels levels stream = .ok (expr, behind) := by
  induction levels with
  | nil => rw [readLevels_nil, read]
  | cons level tighter ih =>
    rw [readLevels_cons, ih fun other member => ended other (List.mem_cons_of_mem _ member)]
    exact readChain_stop (ended level List.mem_cons_self) tighter expr

/-- The loosest phrase may be a product. -/
theorem Derives.disjunction_of_product {tokens rest : List Token} {expr : Expr}
    (derived : Derives .product tokens expr rest) : Derives .disjunction tokens expr rest :=
  .operand rfl (.operand rfl (.operand rfl (.operand rfl derived)))

/-- The tokens of two texts with a slash between blanks between them. -/
theorem scan_quotient {dividend divisor : String} {left right : List Token}
    (onLeft : tokenize dividend = .ok (left ++ [.endOfScript]))
    (onRight : tokenize divisor = .ok right) :
    (scan (dividend ++ " / " ++ divisor)).Complete ∧
      (scan (dividend ++ " / " ++ divisor)).tokens = left ++ .symbol .slash :: right := by
  obtain ⟨leftComplete, leftTokens⟩ := complete_of_tokenize onLeft
  obtain ⟨rightComplete, rightTokens⟩ := complete_of_tokenize onRight
  have blank : IsGap [' '] := by decide
  have ends (text : List Char) : EndsToken (' ' :: text) := by
    rintro _ ⟨⟩
    decide
  have behind (position : Nat) :
      (scanFrom position (' ' :: '/' :: ' ' :: divisor.toList)).Complete ∧
        (scanFrom position (' ' :: '/' :: ' ' :: divisor.toList)).tokens =
          .symbol .slash :: right := by
    have slash : readToken (position + [' '].length) '/' (' ' :: divisor.toList) =
        .ok (.symbol .slash, ⟨position + [' '].length + 1, ' ' :: divisor.toList⟩) :=
      readToken_single rfl (ends _) _
    have scanned := scanFrom_token blank (by decide) slash
    have others := scanFrom_anywhere rightComplete (position + [' '].length + 1 + [' '].length)
    rw [← scanFrom_skip blank] at others
    rw [show ' ' :: '/' :: ' ' :: divisor.toList = [' '] ++ '/' :: ' ' :: divisor.toList from rfl,
      scanned, tokens_more]
    exact ⟨others.1, congrArg _ (others.2.trans rightTokens)⟩
  have whole := scanFrom_append leftComplete (ends _) behind 0
  have text : (dividend ++ " / " ++ divisor).toList =
      dividend.toList ++ ' ' :: '/' :: ' ' :: divisor.toList := by
    simp
  have inner : (scanFrom 0 dividend.toList).tokens = left ++ [.endOfScript] := leftTokens
  rw [inner, List.dropLast_concat, ← text] at whole
  exact whole

/-- An operand divided by a call is read as their quotient, unless the operand ends with the name of
an element in a path. Then the slash and the name of the function are taken for a further segment of
that path, and the parenthesis of the call is where the script should end. -/
theorem parse_divided_by_call {dividend divisor : String} {left right : List Token} {expr : Expr}
    {name : String} {arguments : List Expr}
    (onLeft : tokenize dividend = .ok (left ++ [.endOfScript]))
    (operand : Derives .unary (left ++ [.endOfScript]) expr [.endOfScript])
    (onRight : tokenize divisor = .ok (.identifier name :: .symbol .openParen :: right))
    (call : DerivesArguments right arguments [.endOfScript]) :
    (endsInSegment left = false → parse (dividend ++ " / " ++ divisor) =
        .ok (.binary .divide expr (.call name arguments))) ∧
      (endsInSegment left = true → ∃ position, parse (dividend ++ " / " ++ divisor) =
        .error (.unexpected "end of input" "'('" position)) := by
  obtain ⟨complete, tokens⟩ := scan_quotient onLeft onRight
  constructor
  · intro closed
    obtain ⟨used, -, split, -, exchanged⟩ := operand.frame
    obtain rfl : left = used := List.append_cancel_right split
    rw [parse_iff_derives complete, tokens]
    have onLeft := exchanged (.symbol .slash :: .identifier name :: .symbol .openParen :: right)
      (fun isOpen => absurd isOpen (by simp [closed]))
    have onRight : Derives .unary (.identifier name :: .symbol .openParen :: right)
      (.call name arguments) [.endOfScript] := .operand rfl (.call call)
    exact .disjunction_of_product (.operator rfl (by decide) (.operand rfl onLeft) onRight)
  · intro isOpen
    have stops : ¬ContinuesPath (.symbol .openParen :: right) :=
      not_continuesPath_symbol (by decide) right
    obtain ⟨taken, behind, behindComplete, same, read⟩ :=
      operand.readUnary_extended (.inl rfl) rfl isOpen stops complete tokens
    obtain ⟨position, rest, rfl, -, -⟩ := behindComplete.eq_more same Token.noConfusion
    have noOperator : ∀ level ∈ precedence, level .openParen = none := by decide
    have whole : readLevels precedence (scan (dividend ++ " / " ++ divisor)) = _ :=
      readLevels_of_readUnary read fun level member sign stop inner next => by
        cases next
        exact noOperator level member
    refine ⟨position, ?_⟩
    rw [parse, parseStream_eq complete, whole]
    rfl

/-- A path in parentheses is divided by a call. -/
theorem parse_divided_by_call_parentheses :
    parse ("(x)" ++ " / " ++ "f(1)") =
      .ok (.binary .divide (.field "x") (.call "f" [.number Decimal.one])) := by
  have onLeft : tokenize "(x)" = .ok ([.symbol .openParen, .identifier "x", .symbol .closeParen] ++
      [.endOfScript]) := by cbv
  have onRight : tokenize "f(1)" = .ok (.identifier "f" :: .symbol .openParen ::
      [.number "1", .symbol .closeParen, .endOfScript]) := by cbv
  have path : Derives .unary [.identifier "x", .symbol .closeParen, .endOfScript] (.field "x")
      [.symbol .closeParen, .endOfScript] :=
    .operand rfl (.path (.stop (not_continuesPath_symbol (by decide) _)))
  have one : Derives .unary [.number "1", .symbol .closeParen, .endOfScript]
      (.number Decimal.one) [.symbol .closeParen, .endOfScript] :=
    .operand rfl (.number (by decide))
  exact (parse_divided_by_call onLeft
    (.operand rfl (.parentheses (.disjunction_of_product (.operand rfl path)))) onRight
    (.some (.disjunction_of_product (.operand rfl one)) .none)).1 (by decide)

/-- It is not without the parentheses. -/
theorem not_forall_parse_divided_by_call :
    ¬∀ {dividend divisor : String} {left right : List Token} {expr : Expr} {name : String}
      {arguments : List Expr}, tokenize dividend = .ok (left ++ [.endOfScript]) →
      Derives .unary (left ++ [.endOfScript]) expr [.endOfScript] →
      tokenize divisor = .ok (.identifier name :: .symbol .openParen :: right) →
      DerivesArguments right arguments [.endOfScript] →
      parse (dividend ++ " / " ++ divisor) = .ok (.binary .divide expr (.call name arguments)) := by
  intro divided
  have onLeft : tokenize "x" = .ok ([.identifier "x"] ++ [.endOfScript]) := by cbv
  have onRight : tokenize "f(1)" = .ok (.identifier "f" :: .symbol .openParen ::
      [.number "1", .symbol .closeParen, .endOfScript]) := by cbv
  have one : Derives .unary [.number "1", .symbol .closeParen, .endOfScript]
      (.number Decimal.one) [.symbol .closeParen, .endOfScript] :=
    .operand rfl (.number (by decide))
  have quotient := divided onLeft (.operand rfl (.path (.stop (by rintro ⟨⟩)))) onRight
    (.some (.disjunction_of_product (.operand rfl one)) .none)
  have refused : parse ("x" ++ " / " ++ "f(1)") = .error (.unexpected "end of input" "'('" 6) := by
    cbv
  rw [refused] at quotient
  cases quotient

end DerivedFields.Script

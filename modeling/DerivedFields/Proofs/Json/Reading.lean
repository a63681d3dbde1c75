import DerivedFields.Proofs.Json.Grammar

/-!
# Reading what the grammar allows

The reader takes every text for what it spells, whatever gaps the text has: it tells by the first
character behind a gap how to go on, and stops where the text ends. Each of its functions has an
equation here that says what it yields from what the functions that it calls yield. Since a layout
of a value spells it, the value is what the layout is read as.
-/

namespace DerivedFields.Json

variable {input rest gap text : List Char}

/-! ## Gaps -/

private theorem skipGap_cons {c : Char} (solid : isGap c = false) (rest : List Char) :
    skipGap (c :: rest) = c :: rest :=
  List.dropWhile_cons_of_neg (by rw [solid]; exact Bool.false_ne_true)

private theorem skipGap_append (blank : Blank gap) {c : Char} (solid : isGap c = false)
    (rest : List Char) : skipGap (gap ++ c :: rest) = c :: rest := by
  rw [skipGap, List.dropWhile_append_of_pos blank]
  exact skipGap_cons solid rest

private theorem readMark?_self (mark : Char) (solid : isGap mark = false) (blank : Blank gap)
    (rest : List Char) : Yields (readMark? mark (gap ++ mark :: rest)) () rest := by
  have skipped := skipGap_append blank solid rest
  unfold readMark?
  split
  · rename_i nothing
    rw [skipped] at nothing
    cases nothing
  · rename_i c behind found
    rw [skipped] at found
    cases found
    rw [if_pos rfl]
    exact ⟨_, rfl⟩

private theorem readMark?_other {mark c : Char} (solid : isGap c = false) (other : c ≠ mark)
    (blank : Blank gap) (rest : List Char) : readMark? mark (gap ++ c :: rest) = none := by
  have skipped := skipGap_append blank solid rest
  unfold readMark?
  split
  · rfl
  · rename_i d behind found
    rw [skipped] at found
    cases found
    exact if_neg other

/-! ## Values -/

private theorem readValue?_string {codes : List Nat} (onward : Yields (readCodes? input) codes rest) :
    Yields (readValue? ('"' :: input)) (.string (textOf? codes)) rest := by
  obtain ⟨shorter, found⟩ := onward
  rw [readValue?, if_pos rfl, found, Option.map_some]
  exact ⟨_, rfl⟩

private theorem readValue?_array_nil (close : Yields (readMark? ']' input) () rest) :
    Yields (readValue? ('[' :: input)) (.array []) rest := by
  obtain ⟨shorter, found⟩ := close
  rw [readValue?, if_neg (by decide), if_pos rfl, found]
  exact ⟨_, rfl⟩

private theorem readValue?_array {items : List Written} (opened : readMark? ']' input = none)
    (inner : Yields (readItems? input) items rest) :
    Yields (readValue? ('[' :: input)) (.array items) rest := by
  obtain ⟨shorter, found⟩ := inner
  rw [readValue?, if_neg (by decide), if_pos rfl, opened]
  simp only [found, Option.map_some]
  exact ⟨_, rfl⟩

private theorem readValue?_object_nil (close : Yields (readMark? '\x7d' input) () rest) :
    Yields (readValue? ('\x7b' :: input)) (.object []) rest := by
  obtain ⟨shorter, found⟩ := close
  rw [readValue?, if_neg (by decide), if_neg (by decide), if_pos rfl, found]
  exact ⟨_, rfl⟩

private theorem readValue?_object {members : List (Option String × Written)}
    (opened : readMark? '\x7d' input = none) (inner : Yields (readMembers? input) members rest) :
    Yields (readValue? ('\x7b' :: input)) (.object members) rest := by
  obtain ⟨shorter, found⟩ := inner
  rw [readValue?, if_neg (by decide), if_neg (by decide), if_pos rfl, opened]
  simp only [found, Option.map_some]
  exact ⟨_, rfl⟩

private theorem readValue?_atom {c : Char} {value : Written} (quote : c ≠ '"') (bracket : c ≠ '[')
    (brace : c ≠ '\x7b') (atom : readAtom? (c :: input) = some (value, rest)) :
    Yields (readValue? (c :: input)) value rest := by
  rw [readValue?, if_neg quote, if_neg bracket, if_neg brace]
  split
  · rename_i refused
    rw [atom] at refused
    cases refused
  · rename_i accepted
    rw [atom] at accepted
    cases accepted
    exact ⟨_, rfl⟩

/-! ## Items and members -/

section

variable {behind : List Char} {value : Written}

private theorem readItems?_last (first : Yields (readValue? (skipGap input)) value behind)
    (noComma : readMark? ',' behind = none) (close : Yields (readMark? ']' behind) () rest) :
    Yields (readItems? input) [value] rest := by
  obtain ⟨_, first⟩ := first
  obtain ⟨_, close⟩ := close
  rw [readItems?]
  simp only [first, noComma, close, Option.map_some]
  exact ⟨_, rfl⟩

private theorem readItems?_more {after : List Char} {others : List Written}
    (first : Yields (readValue? (skipGap input)) value behind)
    (comma : Yields (readMark? ',' behind) () after)
    (onward : Yields (readItems? after) others rest) :
    Yields (readItems? input) (value :: others) rest := by
  obtain ⟨_, first⟩ := first
  obtain ⟨_, comma⟩ := comma
  obtain ⟨_, onward⟩ := onward
  rw [readItems?]
  simp only [first, comma, onward, Option.map_some]
  exact ⟨_, rfl⟩

private theorem readKey?_spelled {key : Option String} {name between after : List Char}
    (named : SpellsString key name) (blank : Blank gap) (blankBetween : Blank between) :
    Yields (readKey? (gap ++ name ++ (between ++ ':' :: after))) key after := by
  obtain ⟨spelled⟩ := named
  rename_i codes body
  have shape : gap ++ '"' :: (body ++ ['"']) ++ (between ++ ':' :: after) =
      gap ++ '"' :: (body ++ '"' :: (between ++ ':' :: after)) := by
    simp only [List.append_assoc, List.cons_append, List.nil_append]
  obtain ⟨_, opening⟩ := readMark?_self '"' rfl blank (body ++ '"' :: (between ++ ':' :: after))
  obtain ⟨_, codes⟩ := spelled.read (between ++ ':' :: after)
  obtain ⟨_, colon⟩ := readMark?_self ':' rfl blankBetween after
  rw [shape]
  simp only [readKey?, opening, codes, colon, Option.bind_eq_bind, Option.bind_some]
  exact ⟨_, rfl⟩

private theorem readMembers?_last {key : Option String} {after : List Char}
    (named : Yields (readKey? input) key after)
    (first : Yields (readValue? (skipGap after)) value behind)
    (noComma : readMark? ',' behind = none) (close : Yields (readMark? '\x7d' behind) () rest) :
    Yields (readMembers? input) [(key, value)] rest := by
  obtain ⟨_, named⟩ := named
  obtain ⟨_, first⟩ := first
  obtain ⟨_, close⟩ := close
  rw [readMembers?]
  simp only [named, first, noComma, close, Option.map_some]
  exact ⟨_, rfl⟩

private theorem readMembers?_more {key : Option String} {after next : List Char}
    {others : List (Option String × Written)} (named : Yields (readKey? input) key after)
    (first : Yields (readValue? (skipGap after)) value behind)
    (comma : Yields (readMark? ',' behind) () next)
    (onward : Yields (readMembers? next) others rest) :
    Yields (readMembers? input) ((key, value) :: others) rest := by
  obtain ⟨_, named⟩ := named
  obtain ⟨_, first⟩ := first
  obtain ⟨_, comma⟩ := comma
  obtain ⟨_, onward⟩ := onward
  rw [readMembers?]
  simp only [named, first, comma, onward, Option.map_some]
  exact ⟨_, rfl⟩

end

/-! ## Sources -/

/-- The first character of a text tells that it is neither blank nor the end of a container. -/
def Opens (text : List Char) : Prop :=
  ∃ c tail, text = c :: tail ∧ isGap c = false ∧ c ≠ ']' ∧ c ≠ '\x7d'

private theorem Opens.skipGap_append (opens : Opens text) (blank : Blank gap) (rest : List Char) :
    skipGap (gap ++ text ++ rest) = text ++ rest := by
  obtain ⟨c, tail, rfl, solid, -, -⟩ := opens
  rw [List.append_assoc]
  exact Json.skipGap_append blank solid (tail ++ rest)

/-- What is read at the beginning of a text is read behind a gap. -/
theorem Opens.readBehind (opens : Opens text) (blank : Blank gap) {value : Written}
    (read : Yields (readValue? (text ++ rest)) value rest) :
    Yields (readValue? (skipGap (gap ++ text ++ rest))) value rest := by
  rwa [opens.skipGap_append blank]

/-- A number begins with its sign or a digit, as no other value does. -/
theorem SpellsLiteral.begins {literal : JsonNumber.Literal} (spelled : SpellsLiteral literal text) :
    ∃ c tail, text = c :: tail ∧ (c = '-' ∨ c.isDigit = true) := by
  obtain ⟨negative, digits, -, -⟩ := spelled
  rename_i whole fraction exponent places power
  cases negative with
  | true => exact ⟨'-', _, rfl, .inl rfl⟩
  | false =>
    obtain ⟨first, rest, rfl⟩ := List.exists_cons_of_ne_nil digits.nonempty
    exact ⟨first, _, rfl, .inr (digits.all first List.mem_cons_self)⟩

/-- The first characters of a number are not those of anything else. -/
theorem number_begins {c : Char} (begins : c = '-' ∨ c.isDigit = true) :
    isGap c = false ∧ c ≠ '"' ∧ c ≠ '[' ∧ c ≠ ']' ∧ c ≠ '\x7b' ∧ c ≠ '\x7d' ∧ c ≠ 'n' ∧ c ≠ 't' ∧
      c ≠ 'f' := by
  rcases begins with rfl | digit
  · decide
  · have noDigit : ∀ d ∈ [' ', '\n', '\t', '\r', '"', '[', ']', '\x7b', '\x7d', 'n', 't', 'f'],
        d.isDigit = false := by simp
    have other : c ∉ [' ', '\n', '\t', '\r', '"', '[', ']', '\x7b', '\x7d', 'n', 't', 'f'] := by
      intro member
      rw [noDigit c member] at digit
      cases digit
    simp only [List.mem_cons, List.not_mem_nil, or_false, not_or] at other
    simp [isGap, other]

private theorem Spells.opens {source : Source} (spelled : Spells source text) : Opens text := by
  cases spelled with
  | null => exact ⟨'n', _, rfl, by decide⟩
  | boolean value => cases value <;> exact ⟨_, _, rfl, by decide⟩
  | string spelled =>
    obtain ⟨spelled⟩ := spelled
    exact ⟨'"', _, rfl, by decide⟩
  | emptyArray => exact ⟨'[', _, rfl, by decide⟩
  | array => exact ⟨'[', _, rfl, by decide⟩
  | emptyObject => exact ⟨'\x7b', _, rfl, by decide⟩
  | object => exact ⟨'\x7b', _, rfl, by decide⟩
  | number spelled =>
    obtain ⟨c, tail, written, begins⟩ := spelled.begins
    have other := number_begins begins
    exact ⟨c, tail, written, other.1, other.2.2.2.1, other.2.2.2.2.2.1⟩

private theorem readAtom?_number {literal : JsonNumber.Literal} (spelled : SpellsLiteral literal text)
    (ends : EndsNumber rest) :
    readAtom? (text ++ rest) = some (.number literal.toNumber?, rest) := by
  have read := spelled.read ends
  obtain ⟨c, tail, rfl, begins⟩ := spelled.begins
  have other := number_begins begins
  rw [List.cons_append] at read ⊢
  simp [readAtom?, other, read]

/-- A number ends in front of a character between tokens. -/
theorem endsNumber_of_isGap {c : Char} (space : isGap c = true) (rest : List Char) :
    EndsNumber (c :: rest) := by
  have kind : c ∈ [' ', '\n', '\t', '\r'] := by simpa [isGap, or_assoc] using space
  have ends : ∀ c ∈ [' ', '\n', '\t', '\r'], c.isDigit = false ∧ c ≠ '.' ∧ c ≠ 'e' ∧ c ≠ 'E' := by
    simp
  exact endsNumber_cons (ends c kind) rest

private theorem endsNumber_blank (blank : Blank gap) : EndsNumber gap := by
  cases gap with
  | nil => exact endsNumber_nil
  | cons c gap => exact endsNumber_of_isGap (blank c List.mem_cons_self) gap

/-- A number ends in front of a gap and in front of a mark. -/
theorem endsNumber_append (blank : Blank gap) {mark : Char} (isMark : mark ∈ [',', ']', '\x7d'])
    (rest : List Char) : EndsNumber (gap ++ mark :: rest) := by
  cases gap with
  | nil =>
    have ends : ∀ c ∈ [',', ']', '\x7d'], c.isDigit = false ∧ c ≠ '.' ∧ c ≠ 'e' ∧ c ≠ 'E' := by
      simp
    exact endsNumber_cons (ends mark isMark) rest
  | cons c gap => exact endsNumber_of_isGap (blank c List.mem_cons_self) _

/-- Items do not begin with the closing bracket. -/
theorem SpellsItems.opened {items : List Source} {body : List Char}
    (spelled : SpellsItems items body) (rest : List Char) :
    readMark? ']' (body ++ rest) = none := by
  have noBracket {item : Source} {gap text : List Char} (blank : Blank gap)
      (inner : Spells item text) (rest : List Char) :
      readMark? ']' (gap ++ text ++ rest) = none := by
    obtain ⟨c, tail, rfl, solid, other, -⟩ := inner.opens
    rw [List.append_assoc]
    exact readMark?_other solid other blank (tail ++ rest)
  cases spelled with
  | last blank inner blankAfter =>
    rw [List.append_assoc]
    exact noBracket blank inner _
  | more blank inner blankAfter onward =>
    rw [List.append_assoc, List.append_assoc]
    exact noBracket blank inner _

/-- Members begin with the quote of a key. -/
theorem SpellsMembers.opened {members : List (Option String × Source)} {body : List Char}
    (spelled : SpellsMembers members body) (rest : List Char) :
    readMark? '\x7d' (body ++ rest) = none := by
  have noBrace {key : Option String} {gap name : List Char} (blank : Blank gap)
      (named : SpellsString key name) (rest : List Char) :
      readMark? '\x7d' (gap ++ name ++ rest) = none := by
    obtain ⟨spelled⟩ := named
    rw [List.append_assoc]
    exact readMark?_other rfl (by decide) blank _
  cases spelled with
  | last blank named =>
    rw [List.append_assoc]
    exact noBrace blank named _
  | more blank named =>
    rw [List.append_assoc]
    exact noBrace blank named _

mutual

/-- A text is read as what it spells. -/
theorem Spells.read {source : Source} {text : List Char} (spelled : Spells source text)
    (rest : List Char) (ends : EndsNumber rest) :
    Yields (readValue? (text ++ rest)) source.toWritten rest := by
  match spelled with
  | .null => exact readValue?_atom (by decide) (by decide) (by decide) rfl
  | .boolean true => exact readValue?_atom (by decide) (by decide) (by decide) rfl
  | .boolean false => exact readValue?_atom (by decide) (by decide) (by decide) rfl
  | .number spelled =>
    have atom := readAtom?_number spelled ends
    obtain ⟨c, tail, rfl, begins⟩ := spelled.begins
    obtain ⟨-, quote, bracket, -, brace, -⟩ := number_begins begins
    exact readValue?_atom quote bracket brace atom
  | .string spelled =>
    obtain ⟨spelled⟩ := spelled
    rename_i codes body
    have shape : '"' :: (body ++ ['"']) ++ rest = '"' :: (body ++ '"' :: rest) := by
      simp only [List.append_assoc, List.cons_append, List.nil_append]
    rw [shape]
    exact readValue?_string (spelled.read rest)
  | @Spells.emptyArray gap blank =>
    have shape : '[' :: (gap ++ [']']) ++ rest = '[' :: (gap ++ ']' :: rest) := by
      simp only [List.append_assoc, List.cons_append, List.nil_append]
    rw [shape]
    exact readValue?_array_nil (readMark?_self ']' rfl blank rest)
  | @Spells.array items body inner =>
    have shape : '[' :: (body ++ [']']) ++ rest = '[' :: (body ++ ']' :: rest) := by
      simp only [List.append_assoc, List.cons_append, List.nil_append]
    rw [shape]
    exact readValue?_array (inner.opened _) (inner.read rest)
  | @Spells.emptyObject gap blank =>
    have shape : '\x7b' :: (gap ++ ['\x7d']) ++ rest = '\x7b' :: (gap ++ '\x7d' :: rest) := by
      simp only [List.append_assoc, List.cons_append, List.nil_append]
    rw [shape]
    exact readValue?_object_nil (readMark?_self '\x7d' rfl blank rest)
  | @Spells.object members body inner =>
    have shape : '\x7b' :: (body ++ ['\x7d']) ++ rest = '\x7b' :: (body ++ '\x7d' :: rest) := by
      simp only [List.append_assoc, List.cons_append, List.nil_append]
    rw [shape]
    exact readValue?_object (inner.opened _) (inner.read rest)

/-- Items are read up to the closing bracket. -/
theorem SpellsItems.read {items : List Source} {body : List Char} (spelled : SpellsItems items body)
    (rest : List Char) :
    Yields (readItems? (body ++ ']' :: rest)) (sourcesToWritten items) rest := by
  match spelled with
  | @SpellsItems.last item before text after blank inner blankAfter =>
    have first := inner.opens.readBehind blank
      (inner.read (after ++ ']' :: rest) (endsNumber_append blankAfter (by decide) rest))
    have noComma := readMark?_other rfl (by decide : ']' ≠ ',') blankAfter rest
    rw [← List.append_assoc] at first
    exact readItems?_last first noComma (readMark?_self ']' rfl blankAfter rest)
  | @SpellsItems.more item items before text after tail blank inner blankAfter onward =>
    have shape : before ++ text ++ after ++ ',' :: tail ++ ']' :: rest =
        before ++ text ++ (after ++ ',' :: (tail ++ ']' :: rest)) := by
      simp only [List.append_assoc, List.cons_append]
    have first := inner.opens.readBehind blank (inner.read (after ++ ',' :: (tail ++ ']' :: rest))
      (endsNumber_append blankAfter (by decide) _))
    rw [shape]
    exact readItems?_more first (readMark?_self ',' rfl blankAfter _) (onward.read rest)

/-- Members are read up to the closing brace. -/
theorem SpellsMembers.read {members : List (Option String × Source)} {body : List Char}
    (spelled : SpellsMembers members body) (rest : List Char) :
    Yields (readMembers? (body ++ '\x7d' :: rest)) (sourceMembersToWritten members) rest := by
  match spelled with
  | @SpellsMembers.last key value before name between after text behind blank named blankBetween
      blankAfter inner blankBehind =>
    have shape : before ++ name ++ (between ++ ':' :: (after ++ text ++ behind)) ++ '\x7d' :: rest =
        before ++ name ++ (between ++ ':' :: (after ++ text ++ (behind ++ '\x7d' :: rest))) := by
      simp only [List.append_assoc, List.cons_append]
    have first := inner.opens.readBehind blankAfter
      (inner.read (behind ++ '\x7d' :: rest) (endsNumber_append blankBehind (by decide) rest))
    have noComma := readMark?_other rfl (by decide : '\x7d' ≠ ',') blankBehind rest
    rw [shape]
    exact readMembers?_last (readKey?_spelled named blank blankBetween) first noComma
      (readMark?_self '\x7d' rfl blankBehind rest)
  | @SpellsMembers.more key value members before name between after text behind tail blank named
      blankBetween blankAfter inner blankBehind onward =>
    have shape : before ++ name ++ (between ++ ':' :: (after ++ text ++ behind ++ ',' :: tail)) ++
        '\x7d' :: rest = before ++ name ++
          (between ++ ':' :: (after ++ text ++ (behind ++ ',' :: (tail ++ '\x7d' :: rest)))) := by
      simp only [List.append_assoc, List.cons_append]
    have first := inner.opens.readBehind blankAfter
      (inner.read (behind ++ ',' :: (tail ++ '\x7d' :: rest))
        (endsNumber_append blankBehind (by decide) _))
    rw [shape]
    exact readMembers?_more (readKey?_spelled named blank blankBetween) first
      (readMark?_self ',' rfl blankBehind _) (onward.read rest)

end

/-- A text is read as the one source that it spells. -/
theorem SpellsText.read {source : Source} {text : List Char} (spelled : SpellsText source text) :
    Written.read? (String.ofList text) = some source.toWritten := by
  obtain ⟨blank, inner, blankAfter⟩ := spelled
  rename_i before body after
  have start : skipGap (before ++ body ++ after) = body ++ after :=
    inner.opens.skipGap_append blank after
  obtain ⟨_, found⟩ := inner.read after (endsNumber_blank blankAfter)
  have ended : (skipGap after).isEmpty = true := by
    rw [skipGap, ← List.append_nil after, List.dropWhile_append_of_pos blankAfter]
    rfl
  rw [Written.read?, String.toList_ofList, start]
  simp only [found, ended, Option.bind_eq_bind, Option.bind_some, if_true]

end DerivedFields.Json

import DerivedFields.Proofs.Document.RoundTrip
import DerivedFields.Proofs.Json.Numbers
import DerivedFields.Proofs.Json.Places

/-!
# Integers in a JSON document

A number is read from a document by its text, which is written of the number that the literal stands
for. An integer literal of 64 bits, signed or unsigned, stands for itself. A greater one stands for
a binary number, and the shortest decimal of that is what a script gets: it agrees with the literal
in the first digits only.
-/

namespace DerivedFields.Document

open Json (Source Spells SpellsText SpellsLiteral valueAt?)

variable {source : Source} {literal : JsonNumber.Literal} {document : Document} {text : String}
  {path : Path} {lenient : Bool}

/-- A path leads to the value of what the text spells there. -/
theorem exists_valueAt?_of_toJson? {json : Json} {inner : Source} {depth : ℕ}
    {segments : List PathSegment} (taken : source.toWritten.toJson? depth = some json)
    (reached : source.at? lenient segments = some inner) :
    ∃ part deeper, valueAt? lenient segments json = some part ∧
      inner.toWritten.toJson? deeper = some part := by
  induction segments generalizing source json depth with
  | nil =>
    obtain rfl := Option.some.inj reached
    exact ⟨json, depth, rfl, taken⟩
  | cons segment rest ih =>
    rw [Source.at?] at reached
    obtain ⟨next, stepped, onward⟩ := Option.bind_eq_some_iff.mp reached
    obtain ⟨part, deeper, step, below⟩ := Json.exists_step?_of_toJson? taken stepped
    obtain ⟨value, deepest, found, held⟩ := ih below onward
    exact ⟨value, deepest, by rw [valueAt?, step, Option.bind_some, found], held⟩

/-- The text at a number literal is that of the number that the literal stands for. -/
theorem resolve_literal (spelled : SpellsText source text.toList)
    (parsed : parse text .json = .ok document)
    (reached : source.at? lenient path.segments = some (.number literal)) :
    ∃ number, literal.toNumber? = some number ∧
      resolve document path lenient = String.ofList number.toText := by
  have written := spelled.read
  rw [String.ofList_toList] at written
  rw [parse, parseJson, Json.read?, written, Option.bind_some] at parsed
  cases taken : source.toWritten.toJson? Json.depthLimit with
  | none =>
    rw [taken] at parsed
    cases parsed
  | some json =>
    rw [taken] at parsed
    obtain ⟨part, deeper, found, number⟩ := exists_valueAt?_of_toJson? taken reached
    rw [Source.toWritten, Json.Written.toJson?] at number
    obtain ⟨value, stands, rfl⟩ := Option.map_eq_some_iff.mp number
    refine ⟨value, stands, ?_⟩
    cases json with
    | object members =>
      obtain rfl := Except.ok.inj parsed
      rw [resolve, Json.textAt_of_valueAt? found, Json.fieldText]
    | null | boolean | number | string | array => cases parsed

/-- An integer literal in a text consists of digits. -/
theorem isInteger_of_reached {n : ℤ} (spelled : SpellsText source text.toList)
    (reached : source.at? lenient path.segments = some (.number literal))
    (integer : literal.integer? = some n) : literal.IsInteger n := by
  generalize text.toList = characters at spelled
  obtain ⟨-, inner, -⟩ := spelled
  obtain ⟨_, part⟩ := inner.exists_text_at reached
  cases part with
  | number spelled =>
    obtain ⟨negative, digits, -, -⟩ := spelled
    exact JsonNumber.Literal.isInteger_of_integer? (Json.valuesOf_lt digits.all) integer

/-- An integer literal below `2 ^ 96` that a path leads to in a JSON document is read exactly if it
has 64 bits, signed or unsigned, or if it is the shortest decimal of the binary number that it is
taken for. Any other literal is read as this decimal, which ends in a zero and differs from the
literal by one part in `2 ^ 50` at most, or not at all if the decimal is not below `2 ^ 96`. -/
theorem integer_literal_exact_iff {n : ℤ} (spelled : SpellsText source text.toList)
    (parsed : parse text .json = .ok document)
    (reached : source.at? lenient path.segments = some (.number literal))
    (integer : literal.integer? = some n) (bound : |n| < 2 ^ 96) :
    ((∃ d, (Value.string (resolve document path lenient)).asNumber? = some d ∧ d.toRat = n) ↔
      Json.Fits n ∨ ∃ b, literal.toReal? = some b ∧ b.decimal = |(n : ℚ)|) ∧
    (¬Json.Fits n → ∃ b, literal.toReal? = some b ∧ Close (1 / 2 ^ 50) b.decimal |(n : ℚ)| ∧
      (∃ tens : ℕ, b.decimal = 10 * tens) ∧
      (Value.string (resolve document path lenient)).asNumber?.map Decimal.toRat =
        if b.decimal < 2 ^ 96 then some (withSign literal.negative b.decimal) else none) := by
  have digits := isInteger_of_reached spelled reached integer
  obtain ⟨number, stands, shown⟩ := resolve_literal spelled parsed reached
  have size : |(n : ℚ)| = n.natAbs := by rw [Nat.cast_natAbs, Int.cast_abs]
  have small : n.natAbs < Decimal.limit := by
    rw [Int.abs_eq_natAbs] at bound
    exact_mod_cast bound
  have limit : ((Decimal.limit : ℕ) : ℚ) = 2 ^ 96 := by norm_num [Decimal.limit_eq]
  have exact_iff : (∃ d, (Value.string (resolve document path lenient)).asNumber? = some d ∧
      d.toRat = n) ↔ (readNumber? number.toText).map Decimal.toRat = some (n : ℚ) := by
    rw [shown, Value.asNumber?, String.toList_ofList, Option.map_eq_some_iff]
  by_cases fits : Json.Fits n
  · obtain ⟨same, sameStands, read⟩ := JsonNumber.exists_toNumber?_fits digits fits
    obtain rfl := Option.some.inj (stands.symm.trans sameStands)
    exact ⟨⟨fun _ => .inl fits, fun _ => exact_iff.mpr read⟩, fun great => absurd fits great⟩
  · obtain ⟨b, real, sameStands, near, ⟨tens, decimal⟩, read⟩ :=
      JsonNumber.exists_toNumber?_great digits small fits
    obtain rfl := Option.some.inj (stands.symm.trans sameStands)
    rw [limit] at read
    rw [size, exact_iff, JsonNumber.toText, read]
    refine ⟨⟨fun same => ?_, ?_⟩, fun _ => ⟨b, real, near, ⟨tens, decimal⟩, ?_⟩⟩
    · -- without their signs the decimal and the literal are the same
      split at same
      · have magnitude := congrArg abs (Option.some.inj same)
        rw [abs_withSign, abs_of_nonneg (by rw [decimal]; positivity), size] at magnitude
        exact .inr ⟨b, real, magnitude⟩
      · cases same
    · rintro (inside | ⟨other, sameReal, magnitude⟩)
      · exact absurd inside fits
      · obtain rfl := Option.some.inj (real.symm.trans sameReal)
        have below : b.decimal < 2 ^ 96 := by
          rw [magnitude, ← limit]
          exact_mod_cast small
        rw [if_pos below, magnitude, digits.withSign_natAbs]
    · rw [shown, Value.asNumber?, String.toList_ofList, JsonNumber.toText, read]

/-! ## Documents of one integer -/

/-- What the text of a document spells that has one member, an integer. -/
def oneInteger (n : ℤ) : Source := .object [(some "a", .number (Json.literalOf n))]

private theorem spellsText_oneInteger (n : ℤ) :
    SpellsText (oneInteger n)
      ('\x7b' :: (Json.quoted "a" ++ ':' :: JsonNumber.integerText n ++ ['\x7d'])) := by
  have member := Json.SpellsMembers.last Json.blank_nil (Json.spellsString_quoted "a")
    Json.blank_nil Json.blank_nil (.number (Json.spellsLiteral_integerText n)) Json.blank_nil
  have spelled := SpellsText.mk Json.blank_nil (.object member) Json.blank_nil
  simp only [List.nil_append, List.append_nil] at spelled
  exact spelled

private theorem parse_oneInteger {n : ℤ} {number : JsonNumber}
    (spelled : SpellsText (oneInteger n) text.toList)
    (stands : (Json.literalOf n).toNumber? = some number) :
    parse text .json = .ok (.json [("a", .number number)]) := by
  have written := spelled.read
  have value : (oneInteger n).toWritten.toJson? Json.depthLimit =
      some (.object [("a", .number number)]) := by
    simp only [oneInteger, Source.toWritten, Json.sourceMembersToWritten, Json.Written.toJson?,
      Json.Written.membersToJson?, stands, Option.map_some, Option.bind_eq_bind, Option.bind_some]
    rfl
  rw [String.ofList_toList] at written
  rw [parse, parseJson, Json.read?, written, Option.bind_some, value]

private theorem at?_oneInteger (lenient : Bool) (n : ℤ) :
    (oneInteger n).at? lenient (Path.parse "a").segments = some (.number (Json.literalOf n)) := by
  have parsed : Path.parse "a" = ⟨[.element "a"]⟩ := by cbv
  rw [parsed]
  rfl

/-- The greatest integer of 64 bits is read exactly, and so is a power of ten beyond it, which is the
shortest decimal of its binary number. The integer `2 ^ 64 + 1` is not. -/
theorem integer_literal_exact_three :
    let holds (text : String) (n : ℤ) (number : JsonNumber) :=
      SpellsText (oneInteger n) text.toList ∧
        parse text .json = .ok (.json [("a", .number number)]) ∧
        (oneInteger n).at? false (Path.parse "a").segments = some (.number (Json.literalOf n)) ∧
        (Json.literalOf n).integer? = some n ∧ |n| < 2 ^ 96
    let read (number : JsonNumber) :=
      (Value.string (resolve (.json [("a", .number number)]) (Path.parse "a") false)).asNumber?
    let tenth : Binary64 := ⟨false, 6103515625000000, 14⟩
    let power : Binary64 := ⟨false, 4503599627370496, 12⟩
    (holds "\x7b\"a\":18446744073709551615\x7d" 18446744073709551615
          (.integer 18446744073709551615) ∧
        ∃ d, read (.integer 18446744073709551615) = some d ∧
          d.toRat = (18446744073709551615 : ℤ)) ∧
      (holds "\x7b\"a\":100000000000000000000\x7d" 100000000000000000000 (.real tenth) ∧
        ∃ d, read (.real tenth) = some d ∧ d.toRat = (100000000000000000000 : ℤ)) ∧
      holds "\x7b\"a\":18446744073709551617\x7d" 18446744073709551617 (.real power) ∧
        (read (.real power)).map Decimal.toRat = some 18446744073709552000 := by
  intro holds read tenth power
  have holds_of {text : String} {n : ℤ} {number : JsonNumber}
      (written : text.toList =
        '\x7b' :: (Json.quoted "a" ++ ':' :: JsonNumber.integerText n ++ ['\x7d']))
      (stands : (Json.literalOf n).toNumber? = some number) (bound : |n| < 2 ^ 96) :
      holds text n number := by
    have spelled := spellsText_oneInteger n
    rw [← written] at spelled
    exact ⟨spelled, parse_oneInteger spelled stands, at?_oneInteger false n,
      Json.integer?_literalOf n, bound⟩
  refine ⟨?_, ?_, ?_⟩
  · have fits : Json.Fits 18446744073709551615 := ⟨by decide, by decide⟩
    have given : holds "\x7b\"a\":18446744073709551615\x7d" _ _ :=
      holds_of (by cbv) (Json.toNumber?_literalOf fits) (by decide)
    refine ⟨given, ?_⟩
    obtain ⟨spelled, parsed, found, integer, bound⟩ := given
    exact (integer_literal_exact_iff spelled parsed found integer bound).1.mpr (.inl fits)
  · have given : holds "\x7b\"a\":100000000000000000000\x7d" 100000000000000000000 (.real tenth) :=
      holds_of (by cbv) (by decide +kernel) (by decide)
    refine ⟨given, ?_⟩
    obtain ⟨spelled, parsed, found, integer, bound⟩ := given
    have real : (Json.literalOf 100000000000000000000).toReal? = some tenth := by decide +kernel
    have shortest : tenth.shortest = (1, 20) := by decide +kernel
    have same : tenth.decimal = |((100000000000000000000 : ℤ) : ℚ)| := by
      norm_num [Binary64.decimal, shortest]
    exact (integer_literal_exact_iff spelled parsed found integer bound).1.mpr
      (.inr ⟨tenth, real, same⟩)
  · have great : ¬Json.Fits 18446744073709551617 := fun fits => absurd fits.2 (by decide)
    have given : holds "\x7b\"a\":18446744073709551617\x7d" 18446744073709551617 (.real power) :=
      holds_of (by cbv) (by decide +kernel) (by decide)
    refine ⟨given, ?_⟩
    obtain ⟨spelled, parsed, found, integer, bound⟩ := given
    have real : (Json.literalOf 18446744073709551617).toReal? = some power := by decide +kernel
    have shortest : power.shortest = (18446744073709552, 3) := by decide +kernel
    have decimal : power.decimal = 18446744073709552000 := by
      norm_num [Binary64.decimal, shortest]
    obtain ⟨b, sameReal, -, -, value⟩ :=
      (integer_literal_exact_iff spelled parsed found integer bound).2 great
    obtain rfl := Option.some.inj (real.symm.trans sameReal)
    refine value.trans ?_
    have unsigned : (Json.literalOf 18446744073709551617).negative = false := by decide
    rw [decimal, if_pos (by norm_num), unsigned]
    rfl

/-- The integer `2 ^ 64 + 1` is read as one that ends in a zero. -/
theorem not_forall_integer_literal_exact :
    ¬∀ (source : Source) (text : String) (document : Document) (path : Path) (lenient : Bool)
      (literal : JsonNumber.Literal) (n : ℤ), SpellsText source text.toList →
      parse text .json = .ok document →
      source.at? lenient path.segments = some (.number literal) → literal.integer? = some n →
      |n| < 2 ^ 96 →
      ∃ d, (Value.string (resolve document path lenient)).asNumber? = some d ∧ d.toRat = n := by
  intro claim
  have great : ¬Json.Fits 18446744073709551617 := fun fits => absurd fits.2 (by decide)
  have written : "\x7b\"a\":18446744073709551617\x7d".toList = '\x7b' ::
      (Json.quoted "a" ++ ':' :: JsonNumber.integerText 18446744073709551617 ++ ['\x7d']) := by cbv
  have spelled := spellsText_oneInteger 18446744073709551617
  rw [← written] at spelled
  obtain ⟨b, -, stands, -, ⟨tens, decimal⟩, read⟩ := JsonNumber.exists_toNumber?_great
    (Json.isInteger_literalOf 18446744073709551617) (by decide) great
  have parsed := parse_oneInteger spelled stands
  obtain ⟨d, found, exact⟩ := claim _ _ _ (Path.parse "a") false _ _ spelled parsed
    (at?_oneInteger false _) (Json.integer?_literalOf _) (by decide)
  obtain ⟨number, sameStands, shown⟩ := resolve_literal spelled parsed (at?_oneInteger false _)
  obtain rfl := Option.some.inj (stands.symm.trans sameStands)
  rw [shown, Value.asNumber?, String.toList_ofList, JsonNumber.toText] at found
  have unsigned : (Json.literalOf 18446744073709551617).negative = false := by decide
  rw [found, Option.map_some, exact, unsigned] at read
  split at read
  · have same : (18446744073709551617 : ℤ) = 10 * tens := by
      have number := Option.some.inj read
      rw [withSign, if_neg Bool.false_ne_true, decimal] at number
      exact_mod_cast number
    omega
  · cases read

end DerivedFields.Document

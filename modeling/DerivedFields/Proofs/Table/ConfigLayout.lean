import DerivedFields.Proofs.Decimal.Spelling
import DerivedFields.Proofs.Text.Cuts
import DerivedFields.Proofs.Text.Lined
import DerivedFields.Table.Config

/-!
# Layouts of a table configuration

A configuration may be laid out in many ways: its keys in any order and more than once, with either
separator, with blanks around keys and values, and with comments and blank lines between them. It is read
from each of them. All white space counts as blank, not spaces and tabs alone, so a flag is also on if
other white space stands around its value.
-/

namespace DerivedFields.TableConfig

variable {isGap : Char → Bool} {assigned : List (String × String)} {lines : List (List Char)}
  {key : String} {value : List Char}

/-! ## Layouts -/

/-- A key as it stands in a line: without separators, and with nothing at its ends that is dropped there
or that makes the line a comment. -/
structure IsKey (isGap : Char → Bool) (key : List Char) : Prop where
  nonempty : key ≠ []
  apart : ∀ c ∈ key, c ≠ '=' ∧ c ≠ ':'
  begins : ∀ c ∈ key.head?, isGap c = false ∧ c ≠ '#' ∧ c ≠ '!'
  ends : ∀ c ∈ key.getLast?, isGap c = false

/-- A word of letters is a key if no letter is a gap. -/
theorem isKey_of_letters (solid : ∀ c, c.isAlpha = true → isGap c = false) {key : List Char}
    (nonempty : key ≠ []) (letters : key.all Char.isAlpha = true) : IsKey isGap key where
  nonempty := nonempty
  apart c member := by
    have letter := List.all_eq_true.mp letters c member
    constructor <;> rintro rfl <;> exact absurd letter (by decide)
  begins c first := by
    have letter := List.all_eq_true.mp letters c (List.mem_of_mem_head? first)
    refine ⟨solid c letter, ?_, ?_⟩ <;> rintro rfl <;> exact absurd letter (by decide)
  ends c last := solid c (List.all_eq_true.mp letters c (List.mem_of_getLast? last))

/-- Lines of properties with their assignments. Gaps of a class may stand in front of a key or a comment
and around a separator; what is behind the separator is the value. -/
inductive Layout (isGap : Char → Bool) : List (String × String) → List (List Char) → Prop
  | nil : Layout isGap [] []
  | blank {assigned : List (String × String)} {lines : List (List Char)} (gap : List Char)
    (isBlank : ∀ c ∈ gap, isGap c = true) (rest : Layout isGap assigned lines) :
    Layout isGap assigned (gap :: lines)
  | comment {assigned : List (String × String)} {lines : List (List Char)} (gap words : List Char)
    {mark : Char} (isBlank : ∀ c ∈ gap, isGap c = true) (marks : mark = '#' ∨ mark = '!')
    (rest : Layout isGap assigned lines) : Layout isGap assigned ((gap ++ mark :: words) :: lines)
  | assignment {assigned : List (String × String)} {lines : List (List Char)} {key value : String}
    (before behind : List Char) {separator : Char} (isBlank : ∀ c ∈ before ++ behind, isGap c = true)
    (isKey : IsKey isGap key.toList) (separates : separator = '=' ∨ separator = ':')
    (rest : Layout isGap assigned lines) :
    Layout isGap ((key, value) :: assigned)
      ((before ++ key.toList ++ behind ++ separator :: value.toList) :: lines)

/-- The value of the last assignment of a key. -/
def lastValue? (assigned : List (String × String)) (key : String) : Option String :=
  assigned.reverse.lookup key

/-- A value is a word between gaps. -/
def Surrounds (isGap : Char → Bool) (word value : List Char) : Prop :=
  ∃ before behind, value = before ++ word ++ behind ∧ (∀ c ∈ before, isGap c = true) ∧
    ∀ c ∈ behind, isGap c = true

/-- The word `true` in any case of letters, between gaps. -/
def MeansTrue (isGap : Char → Bool) (value : List Char) : Prop :=
  ∃ word, Surrounds isGap word value ∧ word.map Char.toLower = ['t', 'r', 'u', 'e']

/-- A flag that is on is assigned as `true` or left out; one that is off is assigned as any other text. -/
def AssignsFlag (isGap : Char → Bool) (flag : Bool) (value? : Option String) : Prop :=
  flag = true ↔ ∀ value ∈ value?, MeansTrue isGap value.toList

/-- A count in decimal digits, perhaps with zeros or a plus sign in front of it, between gaps. -/
def MeansCount (isGap : Char → Bool) (count : Nat) (value : List Char) : Prop :=
  ∃ sign width, (sign = [] ∨ sign = ['+']) ∧
    Surrounds isGap (sign ++ Decimal.padLeft width (Decimal.digitsOf count)) value

/-- Of all assignments of a key the last one counts, and those of the four keys mean the configuration. -/
structure Assigns (isGap : Char → Bool) (assigned : List (String × String)) (config : TableConfig) :
    Prop where
  keyColumn : ∃ value, lastValue? assigned "primaryKeyColumnIndex" = some value ∧
    MeansCount isGap config.keyColumn value.toList
  hasHeader : AssignsFlag isGap config.hasHeader (lastValue? assigned "hasHeader")
  trimCells : AssignsFlag isGap config.trimCells (lastValue? assigned "trimCells")
  caseSensitive : AssignsFlag isGap config.caseSensitive (lastValue? assigned "caseSensitive")

/-! ## Lines -/

private theorem property?_blank {gap : List Char} (blank : ∀ c ∈ gap, Text.isBlank c = true) :
    property? gap = none := by
  have nothing : Text.trimStart gap = [] := List.dropWhile_eq_nil_iff.mpr blank
  rw [property?, nothing]

private theorem property?_comment {gap words : List Char} {mark : Char}
    (blank : ∀ c ∈ gap, Text.isBlank c = true) (marks : mark = '#' ∨ mark = '!') :
    property? (gap ++ mark :: words) = none := by
  have solid : Text.isBlank mark = false := by rcases marks with rfl | rfl <;> decide
  have content : Text.trimStart (gap ++ mark :: words) = mark :: words :=
    Text.dropWhile_append blank (by rintro _ ⟨⟩; exact solid)
  rw [property?, content]
  rcases marks with rfl | rfl <;> rfl

/-- An assignment is cut at its first separator, and blanks around the key are dropped. -/
theorem property?_assignment {before behind key : List Char} {separator : Char}
    (blank : ∀ c ∈ before ++ behind, Text.isBlank c = true) (isKey : IsKey Text.isBlank key)
    (separates : separator = '=' ∨ separator = ':') (value : List Char) :
    property? (before ++ key ++ behind ++ separator :: value) =
      some (String.ofList key, String.ofList (Text.trimStart value)) := by
  rw [List.forall_mem_append] at blank
  obtain ⟨first, others, rfl⟩ := List.exists_cons_of_ne_nil isKey.nonempty
  obtain ⟨solid, noNumberSign, noExclamation⟩ := isKey.begins first rfl
  have content : Text.trimStart (before ++ (first :: others ++ behind ++ separator :: value)) =
      first :: others ++ behind ++ separator :: value :=
    Text.dropWhile_append blank.1 (by rintro _ ⟨⟩; exact solid)
  have apart : ∀ c ∈ first :: others ++ behind, (c == '=' || c == ':') = false := by
    refine List.forall_mem_append.mpr ⟨fun c member => ?_, fun c member => ?_⟩
    · simpa using isKey.apart c member
    · rw [Bool.or_eq_false_iff, beq_eq_false_iff_ne, beq_eq_false_iff_ne]
      constructor <;> rintro rfl <;> exact absurd (blank.2 _ member) (by decide)
  have cut : (separator == '=' || separator == ':') = true := by
    rcases separates with rfl | rfl <;> rfl
  have parts : Text.cutAtChar? (fun c => c == '=' || c == ':')
      (first :: others ++ behind ++ separator :: value) = some (first :: others ++ behind, value) :=
    Text.cutAtChar?_append apart cut
  simp only [List.append_assoc, List.cons_append] at content parts ⊢
  rw [property?, content]
  -- the line is neither blank nor a comment
  split
  · next same => cases same
  · next same => exact absurd (List.cons.inj same).1 noNumberSign
  · next same => exact absurd (List.cons.inj same).1 noExclamation
  · rw [parts]
    have key := Text.trimEnd_append isKey.ends blank.2
    rw [List.cons_append] at key
    simp only [key]

/-- An assignment as it is kept: without the blanks in front of its value. -/
def kept (assignment : String × String) : String × String :=
  (assignment.1, String.ofList (Text.trimStart assignment.2.toList))

private theorem Layout.filterMap_property? (layout : Layout Text.isBlank assigned lines) :
    lines.filterMap property? = assigned.map kept := by
  induction layout with
  | nil => rfl
  | blank _ isBlank _ ih => rw [List.filterMap_cons, property?_blank isBlank, ih]
  | comment _ _ isBlank marks _ ih => rw [List.filterMap_cons, property?_comment isBlank marks, ih]
  | @assignment _ _ key value _ _ _ isBlank isKey separates _ ih =>
    rw [List.filterMap_cons, property?_assignment isBlank isKey separates, ih, List.map_cons, kept,
      String.ofList_toList]

private theorem lookup_kept (entries : List (String × String)) (key : String) :
    (entries.map kept).lookup key =
      (entries.lookup key).map fun value => String.ofList (Text.trimStart value.toList) := by
  induction entries with
  | nil => rfl
  | cons entry rest ih =>
    rw [List.map_cons, kept, List.lookup_cons, List.lookup_cons, ih]
    split <;> rfl

/-- Under each key stands its last value. -/
theorem lookup_properties {text : String} (lined : Text.Lined lines text.toList)
    (layout : Layout Text.isBlank assigned lines) (key : String) :
    (properties text).lookup key =
      (lastValue? assigned key).map fun value => String.ofList (Text.trimStart value.toList) := by
  rw [properties, lined.lines_eq, layout.filterMap_property?, ← List.map_reverse, lookup_kept, lastValue?]

/-! ## Values -/

/-- A word without white space is what trimming leaves of a value. -/
theorem Surrounds.trim_eq {word : List Char} (surrounds : Surrounds Text.isBlank word value)
    (nonempty : word ≠ []) (solid : ∀ c ∈ word, Text.isBlank c = false) : Text.trim value = word := by
  obtain ⟨before, behind, rfl, blankBefore, blankBehind⟩ := surrounds
  exact Text.trim_surrounded blankBefore blankBehind nonempty
    (fun c member => solid c (List.mem_of_mem_head? member))
    (fun c member => solid c (List.mem_of_getLast? member))

private theorem isBlank_of_isAlpha {c : Char} (letter : c.isAlpha = true) : Text.isBlank c = false := by
  simp only [Char.isAlpha, Char.isUpper, Char.isLower, Bool.or_eq_true, Bool.and_eq_true,
    decide_eq_true_eq, ge_iff_le, UInt32.le_iff_toNat_le] at letter
  have bounds : 'A'.val.toNat = 65 ∧ 'Z'.val.toNat = 90 ∧ 'a'.val.toNat = 97 ∧ 'z'.val.toNat = 122 :=
    ⟨rfl, rfl, rfl, rfl⟩
  have code : c.val.toNat = c.toNat := rfl
  simp only [Text.isBlank, Bool.or_eq_false_iff, Bool.and_eq_false_iff, decide_eq_false_iff_not,
    beq_eq_false_iff_ne]
  omega

/-- No letter of a word is a blank, in either case. -/
theorem isBlank_of_toLower {c : Char} (solid : Text.isBlank c.toLower = false) :
    Text.isBlank c = false := by
  by_cases upper : c.isUpper = true
  · exact isBlank_of_isAlpha (by rw [Char.isAlpha, upper, Bool.true_or])
  · rwa [Char.toLower_eq_of_not_isUpper upper] at solid

private theorem meansTrue_iff : MeansTrue Text.isBlank value ↔
    (Text.trim value).map Char.toLower = ['t', 'r', 'u', 'e'] := by
  constructor
  · rintro ⟨word, surrounds, spelled⟩
    have letters : ∀ c ∈ ['t', 'r', 'u', 'e'], Text.isBlank c = false := by
      simp [Text.isBlank]
    have solid : ∀ c ∈ word, Text.isBlank c = false := fun c member =>
      isBlank_of_toLower (letters _ (spelled ▸ List.mem_map_of_mem member))
    rwa [surrounds.trim_eq (by rintro rfl; cases spelled) solid]
  · intro spelled
    exact ⟨Text.trim value, Text.exists_surrounded value, spelled⟩

/-- A text that begins with neither a gap nor a `t` does not mean `true`. -/
theorem not_meansTrue_cons {c : Char} {rest : List Char} (solid : isGap c = false)
    (other : c.toLower ≠ 't') : ¬MeansTrue isGap (c :: rest) := by
  rintro ⟨word, ⟨before, behind, written, gap, -⟩, spelled⟩
  cases before with
  | cons first before =>
    have same : c = first := (List.cons.inj written).1
    rw [same, gap first List.mem_cons_self] at solid
    cases solid
  | nil =>
    cases word with
    | nil => cases spelled
    | cons first others =>
      have same : c = first := (List.cons.inj written).1
      exact other (same ▸ (List.cons.inj spelled).1)

/-- A flag is read as it is assigned. -/
theorem flag_eq {properties : List (String × String)} {flag : Bool}
    (found : properties.lookup key =
      (lastValue? assigned key).map fun value => String.ofList (Text.trimStart value.toList))
    (assigns : AssignsFlag Text.isBlank flag (lastValue? assigned key)) :
    TableConfig.flag properties key = flag := by
  rw [TableConfig.flag, found]
  cases last : lastValue? assigned key with
  | none =>
    rw [last] at assigns
    exact (assigns.mpr nofun).symm
  | some value =>
    rw [AssignsFlag, last] at assigns
    have means : flag = true ↔ MeansTrue Text.isBlank value.toList := by simpa using assigns
    rw [Option.map_some, Bool.eq_iff_iff, means, meansTrue_iff]
    simp only [Text.equalsIgnoringCase, String.toList_ofList, Text.trim_trimStart, beq_iff_eq]
    rfl

/-- A count that fits into 64 bits is read. -/
theorem readInteger?_of_meansCount {count : Nat} (small : count < 0x8000000000000000)
    (means : MeansCount Text.isBlank count value) : readInteger? (Text.trim value) = some (count : Int) := by
  obtain ⟨sign, width, isSign, surrounds⟩ := means
  have digits : ∀ c ∈ Decimal.padLeft width (Decimal.digitsOf count), c.isDigit = true :=
    fun _ => Decimal.isDigit_of_mem_padLeft fun _ => Decimal.isDigit_of_mem_digitsOf
  have some : Decimal.padLeft width (Decimal.digitsOf count) ≠ [] :=
    List.append_ne_nil_of_right_ne_nil _ (Decimal.digitsOf_ne_nil count)
  have solid : ∀ c ∈ sign ++ Decimal.padLeft width (Decimal.digitsOf count), Text.isBlank c = false := by
    refine List.forall_mem_append.mpr ⟨fun c member => ?_, fun c member => ?_⟩
    · rcases isSign with rfl | rfl
      · cases member
      · rw [List.mem_singleton.mp member]
        rfl
    · exact Text.isBlank_of_isDigit (digits c member)
  have read := Decimal.readCount?_padLeft width count
  have bounds : (decide (-0x8000000000000000 ≤ (count : Int)) &&
      decide ((count : Int) < 0x8000000000000000)) = true := by
    rw [Bool.and_eq_true, decide_eq_true_iff, decide_eq_true_iff]
    omega
  rw [surrounds.trim_eq (List.append_ne_nil_of_right_ne_nil _ some) solid]
  rcases isSign with rfl | rfl
  -- without a sign the first digit is not taken for one
  · have noSign : ∀ others, '-' :: others ≠ Decimal.padLeft width (Decimal.digitsOf count) ∧
        '+' :: others ≠ Decimal.padLeft width (Decimal.digitsOf count) := by
      intro others
      constructor <;> intro same <;> exact absurd (digits _ (same ▸ List.mem_cons_self)) (by decide)
    rw [List.nil_append, readInteger?, read]
    · exact Option.filter_eq_some_iff.mpr ⟨rfl, bounds⟩
    · exact fun others same => (noSign others).1 same.symm
    · exact fun others same => (noSign others).2 same.symm
  · rw [List.singleton_append, readInteger?, read]
    exact Option.filter_eq_some_iff.mpr ⟨rfl, bounds⟩

/-! ## Configurations -/

/-- A configuration is read from any of its layouts. -/
theorem parse_layout {text : String} {config : TableConfig} (lined : Text.Lined lines text.toList)
    (layout : Layout Text.isBlank assigned lines) (assigns : Assigns Text.isBlank assigned config)
    (positive : 1 ≤ config.keyColumn) (small : config.keyColumn < 0x8000000000000000) :
    parse text = .ok config := by
  have found := lookup_properties lined layout
  obtain ⟨column, last, means⟩ := assigns.keyColumn
  have number : readInteger? (Text.trim (Text.trimStart column.toList)) =
      some (config.keyColumn : Int) := by
    rw [Text.trim_trimStart]
    exact readInteger?_of_meansCount small means
  have notSmaller : ¬(config.keyColumn : Int) < 1 := by omega
  rw [parse]
  simp only [found "primaryKeyColumnIndex", last, Option.map_some, String.toList_ofList, number,
    if_neg notSmaller, flag_eq (found _) assigns.hasHeader, flag_eq (found _) assigns.trimCells,
    flag_eq (found _) assigns.caseSensitive, Int.toNat_natCast]

/-- Both separators and both ends of lines, a key that is assigned twice, and one that is left out. -/
theorem parse_layout_scattered :
    parse "#\r\n\nhasHeader = 1\nprimaryKeyColumnIndex=x\n\tprimaryKeyColumnIndex :+02 \ntrimCells:TrUe" =
      .ok ⟨2, false, true, true⟩ := by
  let lines := ["#", "", "hasHeader = 1", "primaryKeyColumnIndex=x", "\tprimaryKeyColumnIndex :+02 ",
    "trimCells:TrUe"].map String.toList
  let assigned := [("hasHeader", " 1"), ("primaryKeyColumnIndex", "x"), ("primaryKeyColumnIndex", "+02 "),
    ("trimCells", "TrUe")]
  have isKey (key : String) (nonempty : key.toList ≠ []) (letters : key.toList.all Char.isAlpha = true) :
      IsKey Text.isBlank key.toList :=
    isKey_of_letters (fun _ => isBlank_of_isAlpha) nonempty letters
  have header := isKey "hasHeader" (by decide) rfl
  have column := isKey "primaryKeyColumnIndex" (by decide) rfl
  have trim := isKey "trimCells" (by decide) rfl
  have gap {blanks : List Char} : blanks.all Text.isBlank = true → ∀ c ∈ blanks, Text.isBlank c = true :=
    List.all_eq_true.mp
  have layout : Layout Text.isBlank assigned lines :=
    .comment [] [] (gap rfl) (.inl rfl) <| .blank [] (gap rfl) <|
      .assignment [] [' '] (gap rfl) header (.inl rfl) <|
      .assignment [] [] (gap rfl) column (.inl rfl) <|
      .assignment ['\t'] [' '] (gap rfl) column (.inr rfl) <|
      .assignment [] [] (gap rfl) trim (.inr rfl) .nil
  have assigns : Assigns Text.isBlank assigned ⟨2, false, true, true⟩ := {
    keyColumn := ⟨"+02 ", by decide, ['+'], 2, .inr rfl, [], [' '], by decide, gap rfl, gap rfl⟩
    hasHeader := by
      have off : ¬MeansTrue Text.isBlank " 1".toList := mt meansTrue_iff.mp (by decide)
      exact ⟨nofun, fun all => absurd (all " 1" rfl) off⟩
    trimCells := by
      have on : MeansTrue Text.isBlank "TrUe".toList := meansTrue_iff.mpr (by decide)
      exact ⟨fun _ _ last => Option.some.inj last ▸ on, fun _ => rfl⟩
    caseSensitive := ⟨fun _ => nofun, fun _ => rfl⟩ }
  refine parse_layout ?_ layout assigns (by decide) (by decide)
  refine .returnFeed ?_ <| .feed ?_ ?_ <| .feed ?_ ?_ <| .feed ?_ ?_ <| .feed ?_ ?_ <| .last ?_ ?_
  all_goals decide

/-- The usual gaps. -/
def isSpaceOrTab (c : Char) : Bool := c == ' ' || c == '\t'

/-- With spaces and tabs as the only gaps this fails: a form feed in front of `true` makes another text of
it, but is dropped like any white space. -/
theorem not_forall_parse_layout : ¬∀ (text : String) (config : TableConfig)
    (assigned : List (String × String)) (lines : List (List Char)), Text.Lined lines text.toList →
    Layout isSpaceOrTab assigned lines → Assigns isSpaceOrTab assigned config →
    1 ≤ config.keyColumn → config.keyColumn < 0x8000000000000000 → parse text = .ok config := by
  intro all
  have solid (c : Char) (letter : c.isAlpha = true) : isSpaceOrTab c = false := by
    rw [isSpaceOrTab, Bool.or_eq_false_iff, beq_eq_false_iff_ne, beq_eq_false_iff_ne]
    constructor <;> rintro rfl <;> exact absurd letter (by decide)
  have column : IsKey isSpaceOrTab "primaryKeyColumnIndex".toList :=
    isKey_of_letters solid (by decide) rfl
  have header : IsKey isSpaceOrTab "hasHeader".toList := isKey_of_letters solid (by decide) rfl
  have layout : Layout isSpaceOrTab [("primaryKeyColumnIndex", "1"), ("hasHeader", "\x0ctrue")]
      (["primaryKeyColumnIndex=1", "hasHeader=\x0ctrue"].map String.toList) :=
    .assignment [] [] nofun column (.inl rfl) <| .assignment [] [] nofun header (.inl rfl) .nil
  have off : ¬MeansTrue isSpaceOrTab "\x0ctrue".toList := not_meansTrue_cons rfl (by decide)
  have assigns : Assigns isSpaceOrTab [("primaryKeyColumnIndex", "1"), ("hasHeader", "\x0ctrue")]
      ⟨1, false, true, true⟩ := {
    keyColumn := ⟨"1", by decide, [], 1, .inl rfl, [], [], by decide, nofun, nofun⟩
    hasHeader := ⟨nofun, fun all => absurd (all _ rfl) off⟩
    trimCells := ⟨fun _ => nofun, fun _ => rfl⟩
    caseSensitive := ⟨fun _ => nofun, fun _ => rfl⟩ }
  have read : parse "primaryKeyColumnIndex=1\nhasHeader=\x0ctrue" = .ok ⟨1, true, true, true⟩ := by
    cbv
  have other := all "primaryKeyColumnIndex=1\nhasHeader=\x0ctrue" _ _ _
    (.feed (by decide) (by decide) (.last (by decide) (by decide))) layout assigns (by decide) (by decide)
  rw [read] at other
  exact absurd other (by decide)

end DerivedFields.TableConfig

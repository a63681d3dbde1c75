import DerivedFields.Proofs.Calendar.FixedFields
import DerivedFields.Proofs.Results

/-!
# Detecting a mask

All supported masks start with a field, and behind it every item has a width. So what stands behind
the first field of a text, marks and places for digits or letters, is the same in all texts that have
the form of a mask. It differs from mask to mask, so no text has the form of two of them, and the order
in which they are tried does not matter.
-/

namespace DerivedFields

/-! ## Marks -/

/-- The characters that stand between the fields of the supported masks. -/
def marks : List Char := ['-', '/', ':', ',', ' ']

/-- A mark, or the place of any other character. -/
def markOf (c : Char) : Char := if c ∈ marks then c else '0'

/-- The marks and places of a text from the first mark on. -/
def skeleton (text : List Char) : List Char := (text.map markOf).dropWhile (· == '0')

/-- The characters of a class without marks are places. -/
theorem map_markOf {p : Char → Bool} (apart : marks.any p = false) {text : List Char}
    (inside : ∀ c ∈ text, p c = true) : text.map markOf = List.replicate text.length '0' := by
  refine List.eq_replicate_iff.mpr ⟨List.length_map _, fun place member => ?_⟩
  obtain ⟨c, present, rfl⟩ := List.mem_map.mp member
  refine if_neg fun mark => ?_
  exact Bool.false_ne_true (apart.symm.trans (List.any_eq_true.mpr ⟨c, mark, inside c present⟩))

namespace DateField

variable {part : DateField} {text : List Char}

/-- A text of the form of a field has no marks. -/
theorem map_markOf_of_admits (admitted : part.admits text = true) :
    text.map markOf = List.replicate text.length '0' := by
  have digits {fewest most : ℕ} (form : admitsDigits fewest most text = true) :
      text.map markOf = List.replicate text.length '0' :=
    map_markOf (by decide) (List.all_eq_true.mp (Bool.and_eq_true_iff.mp form).2)
  have name {full : Bool} (form : admitsName full text = true) :
      text.map markOf = List.replicate text.length '0' :=
    map_markOf (by decide) (List.all_eq_true.mp (Bool.and_eq_true_iff.mp form).2)
  cases part with
  | year | yearOfCentury | month | day | hour | clockHour | minute | second | fraction =>
    exact digits admitted
  | monthName | weekday => exact name admitted
  | halfDay =>
    have letter : ∀ c ∈ text, ['a', 'm', 'p'].contains c.toLower = true := by
      intro c member
      have lower := List.mem_map_of_mem (f := Char.toLower) member
      simp only [admits, Bool.or_eq_true, beq_iff_eq] at admitted
      rcases admitted with morning | afternoon
      · rw [morning] at lower
        revert lower
        grind
      · rw [afternoon] at lower
        grind
    exact map_markOf (by decide) letter

/-- The number of characters of a field that always has as many. -/
def textWidth? : DateField → Option ℕ
  | .halfDay => some 2
  | part => part.fixedWidth?

private theorem length_of_textWidth? {width : ℕ} (fixed : part.textWidth? = some width)
    (admitted : part.admits text = true) : text.length = width := by
  by_cases half : part = .halfDay
  · subst half
    obtain rfl := Option.some.inj fixed
    simp only [admits, Bool.or_eq_true, beq_iff_eq] at admitted
    rw [← List.length_map Char.toLower]
    rcases admitted with morning | afternoon
    · rw [morning]
      rfl
    · rw [afternoon]
      rfl
  · have digits : part.fixedWidth? = some width := by
      cases part with
      | halfDay => contradiction
      | _ => exact fixed
    exact (length_of_admits digits admitted).1

end DateField

namespace MaskItem

variable {item : MaskItem} {items : List MaskItem} {text piece : List Char}

/-- A literal character, or a field that always has as many. -/
def HasWidth : MaskItem → Prop
  | .literal _ => True
  | .field part => part.textWidth?.isSome = true

/-- The item as a mark or as places. -/
def marked : MaskItem → List Char
  | .literal c => [markOf c]
  | .field part => List.replicate (part.textWidth?.getD 0) '0'

private theorem map_markOf_of_admits (wide : item.HasWidth) (admitted : item.admits piece = true) :
    piece.map markOf = item.marked := by
  cases item with
  | literal c =>
    obtain rfl : piece = [c] := beq_iff_eq.mp admitted
    rfl
  | field part =>
    obtain ⟨width, fixed⟩ := Option.isSome_iff_exists.mp wide
    rw [DateField.map_markOf_of_admits admitted, DateField.length_of_textWidth? fixed admitted,
      marked, fixed, Option.getD_some]

private theorem map_markOf_of_fits (wide : ∀ item ∈ items, item.HasWidth)
    (fit : fits items text = true) :
    text.map markOf = items.flatMap marked := by
  induction items generalizing text with
  | nil =>
    obtain rfl : text = [] := List.isEmpty_iff.mp fit
    rfl
  | cons item items ih =>
    obtain ⟨piece, rest, rfl, admitted, fit⟩ := fits_cons fit
    rw [List.map_append, map_markOf_of_admits (wide item List.mem_cons_self) admitted,
      ih (fun item member => wide item (List.mem_cons_of_mem _ member)) fit, List.flatMap_cons]

/-- A field, and behind it items that have a width. -/
def StartsWithField : List MaskItem → Prop
  | .field _ :: items => ∀ item ∈ items, item.HasWidth
  | _ => False

instance : (item : MaskItem) → Decidable item.HasWidth
  | .literal _ => inferInstanceAs (Decidable True)
  | .field part => inferInstanceAs (Decidable (part.textWidth?.isSome = true))

instance : (items : List MaskItem) → Decidable (StartsWithField items)
  | .field _ :: items => inferInstanceAs (Decidable (∀ item ∈ items, item.HasWidth))
  | [] | .literal _ :: _ => inferInstanceAs (Decidable False)

/-- The texts of such a form all have the same marks and places behind the first field. -/
theorem skeleton_of_fits (starts : StartsWithField items) (fit : fits items text = true) :
    skeleton text = (items.tail.flatMap marked).dropWhile (· == '0') := by
  match items, starts with
  | .field part :: items, wide =>
    obtain ⟨piece, rest, rfl, admitted, fit⟩ := fits_cons fit
    have places : ∀ c ∈ List.replicate piece.length '0', (c == '0') = true := fun c member =>
      beq_iff_eq.mpr (List.eq_of_mem_replicate member)
    rw [skeleton, List.map_append, DateField.map_markOf_of_admits admitted,
      List.dropWhile_append_of_pos places, map_markOf_of_fits wide fit, List.tail_cons]

end MaskItem

namespace DateMask

variable {first second mask : DateMask} {text : String}

private theorem startsWithField_of_supported :
    ∀ mask ∈ supported, MaskItem.StartsWithField mask.items := by
  decide +kernel

private theorem eq_of_skeleton : ∀ first ∈ supported, ∀ second ∈ supported,
    (first.items.tail.flatMap MaskItem.marked).dropWhile (· == '0') =
      (second.items.tail.flatMap MaskItem.marked).dropWhile (· == '0') → first = second := by
  decide +kernel

/-- At most one supported mask takes a text. -/
theorem eq_of_parse (member : first ∈ supported) (present : second ∈ supported)
    (taken : (first.parse text).isOk = true) (takenToo : (second.parse text).isOk = true) :
    first = second := by
  obtain ⟨value, parsed⟩ := isOk_iff.mp taken
  obtain ⟨other, parsedToo⟩ := isOk_iff.mp takenToo
  obtain ⟨-, fit, -⟩ := parse_ok_iff.mp parsed
  obtain ⟨-, fitToo, -⟩ := parse_ok_iff.mp parsedToo
  -- the form of either mask shows in the skeleton of the text
  refine eq_of_skeleton first member second present ?_
  rw [← MaskItem.skeleton_of_fits (startsWithField_of_supported first member) fit,
    ← MaskItem.skeleton_of_fits (startsWithField_of_supported second present) fitToo]

/-! ## The order of the masks -/

/-- Reads a text with the first of some masks that takes it. -/
def detectIn (masks : List DateMask) (input : String) : Except DateFault DateTime :=
  match masks.findSome? fun mask => (mask.parse input).toOption with
  | some value => .ok value
  | none => .error (.undetected input)

/-- The first of some masks that takes both texts. -/
def commonIn (masks : List DateMask) (first second : String) : Option DateMask :=
  masks.find? fun mask => (mask.parse first).isOk && (mask.parse second).isOk

section

variable {masks : List DateMask} {other : String} {value : DateTime} (supported : masks ⊆ supported)

include supported

private theorem findSome?_parse_eq_some_iff :
    (masks.findSome? fun mask => (mask.parse text).toOption) = some value ↔
      ∃ mask ∈ masks, mask.parse text = .ok value := by
  rw [findSome?_eq_some_iff_of_unique]
  · simp only [toOption_eq_some_iff]
  · intro first member second present taken takenOther
    rw [isSome_toOption] at taken takenOther
    exact eq_of_parse (supported member) (supported present) taken takenOther

private theorem detectIn_eq_ok_iff :
    detectIn masks text = .ok value ↔ ∃ mask ∈ masks, mask.parse text = .ok value := by
  rw [← findSome?_parse_eq_some_iff supported, detectIn]
  cases masks.findSome? fun mask => (mask.parse text).toOption with
  | none => exact ⟨nofun, nofun⟩
  | some first => rw [Except.ok.injEq, Option.some.injEq]

private theorem commonIn_eq_some_iff : commonIn masks text other = some mask ↔
    mask ∈ masks ∧ (mask.parse text).isOk = true ∧ (mask.parse other).isOk = true := by
  rw [commonIn, List.find?_eq_findSome?_guard, findSome?_eq_some_iff_of_unique]
  · simp only [Option.guard_eq_some_iff, Bool.and_eq_true]
    constructor
    · rintro ⟨_, member, rfl, taken⟩
      exact ⟨member, taken⟩
    · rintro ⟨member, taken⟩
      exact ⟨mask, member, rfl, taken⟩
  · intro first member second present taken takenOther
    rw [Option.isSome_guard, Bool.and_eq_true] at taken takenOther
    exact eq_of_parse (supported member) (supported present) taken.1 takenOther.1

end

theorem autodetect_eq_ok_iff {value : DateTime} :
    autodetect text = .ok value ↔ ∃ mask ∈ supported, mask.parse text = .ok value :=
  detectIn_eq_ok_iff (List.Subset.refl supported)

theorem common?_eq_some_iff {other : String} : common? text other = some mask ↔
    mask ∈ supported ∧ (mask.parse text).isOk = true ∧ (mask.parse other).isOk = true :=
  commonIn_eq_some_iff (List.Subset.refl supported)

private theorem supported_sources : supported.map source = supportedSources := by
  decide +kernel

/-- A text is taken by at most one of the supported masks, so they may be tried in any order, for the
detection of a text as for the common mask of two. -/
theorem supported_unambiguous :
    supported.map source = supportedSources ∧
    (∀ text, ∀ first ∈ supported, ∀ second ∈ supported, (first.parse text).isOk = true →
      (second.parse text).isOk = true → first = second) ∧
    ∀ order : List DateMask, order.Perm supported →
      (∀ text, detectIn order text = autodetect text) ∧
      ∀ text other, commonIn order text other = common? text other := by
  refine ⟨supported_sources, ?_, ?_⟩
  · intro text first member second present
    exact eq_of_parse member present
  · intro order perm
    refine ⟨fun text => ?_, fun text other => ?_⟩
    · have same : (order.findSome? fun mask => (mask.parse text).toOption) =
          supported.findSome? fun mask => (mask.parse text).toOption := by
        ext value
        rw [findSome?_parse_eq_some_iff perm.subset, findSome?_parse_eq_some_iff (List.Subset.refl _)]
        simp only [perm.mem_iff]
      change detectIn order text = detectIn supported text
      rw [detectIn, same, detectIn]
    · ext mask
      rw [commonIn_eq_some_iff perm.subset, common?_eq_some_iff, perm.mem_iff]

/-- A month in front, with the masks tried from the last to the first. -/
theorem supported_unambiguous_reversed :
    let mask : DateMask := ⟨"MM-dd-yyyy", [
      .field (.month true), .literal '-', .field (.day true), .literal '-', .field (.year true)]⟩
    let value : DateTime := ⟨⟨2024, 2, 3, by decide, by decide, by decide⟩, TimeOfDay.midnight⟩
    (mask ∈ supported ∧ mask.parse "02-03-2024" = .ok value ∧
        (mask.parse "12-31-1999").isOk = true ∧ supported.reverse.Perm supported) ∧
      (∀ other ∈ supported, (other.parse "02-03-2024").isOk = true → other = mask) ∧
      detectIn supported.reverse "02-03-2024" = .ok value ∧
      commonIn supported.reverse "02-03-2024" "12-31-1999" = some mask := by
  intro mask value
  have member : mask ∈ supported := by decide +kernel
  have parsed : mask.parse "02-03-2024" = .ok value := by decide
  have taken : (mask.parse "02-03-2024").isOk = true := by rw [parsed]; rfl
  have alsoTaken : (mask.parse "12-31-1999").isOk = true := by decide
  have perm := List.reverse_perm supported
  obtain ⟨-, unique, anyOrder⟩ := supported_unambiguous
  obtain ⟨detected, common⟩ := anyOrder supported.reverse perm
  refine ⟨⟨member, parsed, alsoTaken, perm⟩, ?_, ?_, ?_⟩
  · intro other present takenToo
    exact unique _ other present mask member takenToo taken
  · rw [detected]
    exact autodetect_eq_ok_iff.mpr ⟨mask, member, parsed⟩
  · rw [common]
    exact common?_eq_some_iff.mpr ⟨member, taken, alsoTaken⟩

end DateMask

end DerivedFields

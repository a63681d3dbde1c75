import DerivedFields.Text.Blank
import DerivedFields.Text.Digit
import DerivedFields.Text.Search

/-!
# Cuts, pieces and blanks

A text is cut at the first character of a class, so what stands before the cut has none of it. Split at
every such character, its pieces have none of it either. Blanks at the ends of a text are dropped, and
nothing else is.
-/

namespace DerivedFields.Text

/-! ## Cuts and pieces -/

section

variable {isCut : Char → Bool} {before rest : List Char} {c : Char}

theorem cutAtChar?_append (apart : ∀ c ∈ before, isCut c = false) (cut : isCut c = true) :
    cutAtChar? isCut (before ++ c :: rest) = some (before, rest) := by
  induction before with
  | nil => rw [List.nil_append, cutAtChar?, if_pos cut]
  | cons first before ih =>
    have other : ¬ isCut first = true := by
      rw [apart first List.mem_cons_self]
      exact Bool.false_ne_true
    rw [List.cons_append, cutAtChar?, if_neg other,
      ih fun c member => apart c (List.mem_cons_of_mem _ member)]
    rfl

theorem cutAtChar?_eq_none (apart : ∀ c ∈ before, isCut c = false) :
    cutAtChar? isCut before = none := by
  induction before with
  | nil => rfl
  | cons first before ih =>
    have other : ¬ isCut first = true := by
      rw [apart first List.mem_cons_self]
      exact Bool.false_ne_true
    rw [cutAtChar?, if_neg other, ih fun c member => apart c (List.mem_cons_of_mem _ member)]
    rfl

end

/-- The two parts around a cut have no more of a character than the whole. -/
theorem count_cutAtChar? (isCut : Char → Bool) (c : Char) (chars : List Char) :
    ((cutAtChar? isCut chars).getD (chars, [])).1.count c +
      ((cutAtChar? isCut chars).getD (chars, [])).2.count c ≤ chars.count c := by
  induction chars with
  | nil => exact Nat.le_refl _
  | cons first chars ih =>
    rw [cutAtChar?]
    split
    · rw [Option.getD_some, List.count_nil, Nat.zero_add]
      exact List.count_le_count_cons
    · cases cut : cutAtChar? isCut chars with
      | none =>
        simp only [Option.map_none, Option.getD_none, List.count_nil, Nat.add_zero, Nat.le_refl]
      | some parts =>
        obtain ⟨before, after⟩ := parts
        rw [cut, Option.getD_some] at ih
        change before.count c + after.count c ≤ chars.count c at ih
        change (first :: before).count c + after.count c ≤ (first :: chars).count c
        rw [List.count_cons, List.count_cons]
        omega

section

variable {separator : Char} {text piece : List Char} {pieces : List (List Char)}

/-- No piece has the character in it at which the text is split. -/
theorem notMem_of_mem_splitAtChar (member : piece ∈ splitAtChar separator text) : separator ∉ piece := by
  induction text generalizing piece with
  | nil =>
    obtain rfl := List.mem_singleton.mp member
    exact List.not_mem_nil
  | cons c text ih =>
    rw [splitAtChar] at member
    split at member
    · rcases List.mem_cons.mp member with rfl | inside
      · exact List.not_mem_nil
      · exact ih inside
    · rename_i other
      cases behind : splitAtChar separator text with
      | nil => exact absurd behind (splitAtChar_ne_nil separator text)
      | cons first rest =>
        rw [behind] at ih member
        rcases List.mem_cons.mp member with rfl | inside
        · rw [List.mem_cons, not_or]
          exact ⟨Ne.symm other, ih List.mem_cons_self⟩
        · exact ih (List.mem_cons_of_mem _ inside)

/-- Pieces that were joined are found again. -/
theorem splitAtChar_joinWith (apart : ∀ piece ∈ pieces, separator ∉ piece) (nonempty : pieces ≠ []) :
    splitAtChar separator (joinWith [separator] pieces) = pieces := by
  induction pieces with
  | nil => exact absurd rfl nonempty
  | cons piece rest ih =>
    rw [List.forall_mem_cons] at apart
    cases rest with
    | nil => exact splitAtChar_of_notMem apart.1
    | cons next rest =>
      rw [joinWith, List.append_assoc, List.singleton_append, splitAtChar_append,
        splitAtChar_of_notMem apart.1, ih apart.2 (List.cons_ne_nil _ _), List.singleton_append]
      exact List.cons_ne_nil _ _

/-- A further piece stands behind a separator. -/
theorem joinWith_concat (separator : List Char) (nonempty : pieces ≠ []) (piece : List Char) :
    joinWith separator (pieces ++ [piece]) = joinWith separator pieces ++ separator ++ piece := by
  induction pieces with
  | nil => exact absurd rfl nonempty
  | cons first rest ih =>
    cases rest with
    | nil => rfl
    | cons next rest =>
      calc joinWith separator (first :: next :: (rest ++ [piece]))
          = first ++ separator ++ joinWith separator (next :: rest ++ [piece]) := rfl
        _ = first ++ separator ++ (joinWith separator (next :: rest) ++ separator ++ piece) := by
          rw [ih (List.cons_ne_nil _ _)]
        _ = joinWith separator (first :: next :: rest) ++ separator ++ piece := by
          simp only [joinWith, List.append_assoc]

end

/-! ## Blanks -/

theorem isBlank_of_isDigit {c : Char} (digit : c.isDigit = true) : isBlank c = false := by
  obtain ⟨least, most⟩ := toNat_of_isDigit digit
  simp only [isBlank, Bool.or_eq_false_iff, Bool.and_eq_false_iff, decide_eq_false_iff_not,
    beq_eq_false_iff_ne]
  omega

/-- No digit of any script is blank. -/
theorem isBlank_of_isDecimalDigit {c : Char} (digit : isDecimalDigit c = true) :
    isBlank c = false := by
  rw [isDecimalDigit] at digit
  split at digit
  · exact isBlank_of_isDigit digit
  · have apart : ∀ range ∈ decimalDigitRanges, 0xa0 < range.1 ∧ range.2 < 0x1680 ∨
        0x1680 < range.1 ∧ range.2 < 0x2000 ∨ 0x3000 < range.1 := by decide
    obtain ⟨range, member, inside⟩ := List.any_eq_true.mp digit
    have apart := apart range member
    simp only [Bool.and_eq_true, decide_eq_true_eq] at inside
    simp only [isBlank, Bool.or_eq_false_iff, Bool.and_eq_false_iff, decide_eq_false_iff_not,
      beq_eq_false_iff_ne]
    omega

/-- The end that is dropped has only characters of the class. -/
theorem dropEndWhile_append (isDropped : Char → Bool) (chars : List Char) :
    ∃ dropped, chars = dropEndWhile isDropped chars ++ dropped ∧
      ∀ c ∈ dropped, isDropped c = true := by
  refine ⟨(chars.reverse.takeWhile isDropped).reverse, ?_, fun c member => ?_⟩
  · rw [dropEndWhile, ← List.reverse_append, List.takeWhile_append_dropWhile, List.reverse_reverse]
  · exact List.all_eq_true.mp List.all_takeWhile c (List.mem_reverse.mp member)

variable {before word behind blanks : List Char}

theorem trimEnd_append (solid : ∀ c ∈ word.getLast?, isBlank c = false)
    (blank : ∀ c ∈ blanks, isBlank c = true) : trimEnd (word ++ blanks) = word := by
  have reversed : ∀ c ∈ blanks.reverse, isBlank c = true :=
    fun c member => blank c (List.mem_reverse.mp member)
  rw [← List.head?_reverse] at solid
  rw [trimEnd, dropEndWhile, List.reverse_append, dropWhile_append reversed solid, List.reverse_reverse]

/-- A word that neither begins nor ends with a blank is what is left of it between blanks. -/
theorem trim_surrounded (blankBefore : ∀ c ∈ before, isBlank c = true)
    (blankBehind : ∀ c ∈ behind, isBlank c = true) (nonempty : word ≠ [])
    (begins : ∀ c ∈ word.head?, isBlank c = false) (ends : ∀ c ∈ word.getLast?, isBlank c = false) :
    trim (before ++ word ++ behind) = word := by
  obtain ⟨first, others, rfl⟩ := List.exists_cons_of_ne_nil nonempty
  have start : trimStart (before ++ (first :: others ++ behind)) = first :: others ++ behind :=
    dropWhile_append blankBefore begins
  rw [List.append_assoc]
  calc trim (before ++ (first :: others ++ behind))
      = trimEnd (trimStart (before ++ (first :: others ++ behind))) := rfl
    _ = trimEnd (first :: others ++ behind) := by rw [start]
    _ = first :: others := trimEnd_append ends blankBehind

/-- Every text is what is left of it, between blanks. -/
theorem exists_surrounded (text : List Char) :
    ∃ before behind, text = before ++ trim text ++ behind ∧ (∀ c ∈ before, isBlank c = true) ∧
      ∀ c ∈ behind, isBlank c = true := by
  obtain ⟨behind, split, blank⟩ := dropEndWhile_append isBlank (text.dropWhile isBlank)
  refine ⟨text.takeWhile isBlank, behind, ?_, List.all_eq_true.mp List.all_takeWhile, blank⟩
  rw [List.append_assoc, trim, stripWhile, ← split, List.takeWhile_append_dropWhile]

/-- Blanks that are dropped at the start are dropped from both ends too. -/
theorem trim_trimStart (text : List Char) : trim (trimStart text) = trim text := by
  have again : (text.dropWhile isBlank).dropWhile isBlank = text.dropWhile isBlank := by
    cases rest : text.dropWhile isBlank with
    | nil => rfl
    | cons c rest' =>
      have solid := List.head?_dropWhile_not isBlank text
      rw [rest] at solid
      exact List.dropWhile_cons_of_neg (by simpa using solid)
  rw [trim, trim, stripWhile, stripWhile, trimStart, again]

end DerivedFields.Text

import Mathlib
import DerivedFields.Number.Mask
import DerivedFields.Proofs.Text.Cuts

/-!
# Masks around a body

A mask is a body of placeholders with text before and behind it. Where neither text has a
placeholder or a semicolon, the body is found again as it is, and the rest of the mask are the two
texts without their quotes.
-/

namespace DerivedFields

/-! ## Cuts and quotes -/

private theorem beq_eq_false_of_notMem {text : List Char} {cut : Char} (free : cut ∉ text) :
    ∀ c ∈ text, (c == cut) = false := by
  intro c member
  rw [beq_eq_false_iff_ne]
  rintro rfl
  exact free member

theorem isPlaceholder_eq_false_iff {c : Char} :
    isPlaceholder c = false ↔ c ≠ '#' ∧ c ≠ '0' ∧ c ≠ ',' ∧ c ≠ '.' := by
  simp only [isPlaceholder, Bool.or_eq_false_iff, beq_eq_false_iff_ne, and_assoc]

/-- Text that quotes can stand around: no quotes, and not the character that marks a doubled one. -/
def IsQuotable (text : List Char) : Prop := ∀ c ∈ text, c ≠ '\'' ∧ c ≠ '\x00'

namespace IsQuotable

variable {text : List Char}

/-- Only doubled quotes are replaced. -/
theorem replaceFrom_append (quotable : IsQuotable text) (rest : List Char) :
    Text.replaceFrom ['\'', '\''] ['\x00'] 0 (text ++ rest) =
      text ++ Text.replaceFrom ['\'', '\''] ['\x00'] 0 rest := by
  induction text with
  | nil => rfl
  | cons c text ih =>
    have other : ¬ ('\'' = c) := Ne.symm (quotable c List.mem_cons_self).1
    have ih := ih fun c member => quotable c (List.mem_cons_of_mem _ member)
    simp only [List.cons_append, Text.replaceFrom, Text.dropPrefix?, other, if_false, ih,
      Option.isSome_none, Bool.false_eq_true]

theorem filter_map (quotable : IsQuotable text) :
    (text.filter (· != '\'')).map (fun c => if c = '\x00' then '\'' else c) = text := by
  have kept : text.filter (· != '\'') = text :=
    List.filter_eq_self.mpr fun c member => bne_iff_ne.mpr (quotable c member).1
  rw [kept]
  conv_rhs => rw [← List.map_id text]
  exact List.map_congr_left fun c member => if_neg (quotable c member).2

/-- Text without quotes stays as it is. -/
theorem unquote_eq (quotable : IsQuotable text) : unquote text = text := by
  have same := quotable.replaceFrom_append []
  rw [List.append_nil] at same
  rw [unquote, Text.replaceAll, same]
  simpa [Text.replaceFrom] using quotable.filter_map

/-- Quotes around text are dropped. -/
theorem unquote_quoted (quotable : IsQuotable text) (nonempty : text ≠ []) :
    unquote ('\'' :: (text ++ ['\''])) = text := by
  obtain ⟨first, others, rfl⟩ := List.exists_cons_of_ne_nil nonempty
  have other : ¬ ('\'' = first) := Ne.symm (quotable first List.mem_cons_self).1
  have start : Text.replaceFrom ['\'', '\''] ['\x00'] 0 ('\'' :: (first :: others ++ ['\''])) =
      '\'' :: Text.replaceFrom ['\'', '\''] ['\x00'] 0 (first :: others ++ ['\'']) := by
    simp only [List.cons_append, Text.replaceFrom, Text.dropPrefix?, if_true, other, if_false,
      Option.isSome_none, Bool.false_eq_true]
  have ending : Text.replaceFrom ['\'', '\''] ['\x00'] 0 ['\''] = ['\''] := rfl
  have dropped : ('\'' :: (first :: others ++ ['\''])).filter (· != '\'') =
      (first :: others).filter (· != '\'') := by
    rw [List.filter_cons_of_neg (by decide), List.filter_append]
    exact List.append_nil _
  rw [unquote, Text.replaceAll, start, quotable.replaceFrom_append, ending, dropped]
  exact quotable.filter_map

end IsQuotable

/-! ## Bodies -/

/-- Placeholders of a mask: those before the point with the commas between them, and those behind
it, if there is a point. -/
structure MaskBody where
  whole : List Char
  fraction : Option (List Char)
  mem_whole : ∀ c ∈ whole, c = '#' ∨ c = '0' ∨ c = ','
  mem_fraction : ∀ places ∈ fraction, ∀ c ∈ places, c = '#' ∨ c = '0'

namespace MaskBody

/-- The placeholders behind the point. -/
def places (body : MaskBody) : List Char := body.fraction.getD []

/-- The body as it stands in a mask. -/
def chars (body : MaskBody) : List Char :=
  body.whole ++ match body.fraction with
    | none => []
    | some places => '.' :: places

/-- The number of digits that the commas of a body demand in a group: as many as placeholders follow
the last comma. There are no groups if there is no comma, or nothing follows the last. -/
def Groups (whole : List Char) : Option ℕ → Prop
  | none => ',' ∉ whole ∨ whole.getLast? = some ','
  | some size =>
    size ≠ 0 ∧ ∃ front last, whole = front ++ ',' :: last ∧ ',' ∉ last ∧ last.length = size

/-- What a mask with this body says, given the text before and behind it. -/
def mask (body : MaskBody) (before behind : List Char) : NumberMask where
  before := unquote before
  behind := unquote behind
  integerDigits := body.whole.count '0'
  groupSize := groupSize? body.whole
  fractionDigits := (body.places.count '0', body.places.length)
  percent := before.contains '%' || behind.contains '%'

variable (body : MaskBody)

private theorem mem_places {c : Char} (member : c ∈ body.places) : c = '#' ∨ c = '0' := by
  rw [places] at member
  cases fraction : body.fraction with
  | none => rw [fraction] at member; exact absurd member List.not_mem_nil
  | some places => rw [fraction] at member; exact body.mem_fraction places fraction c member

theorem mem_chars {c : Char} (member : c ∈ body.chars) : c = '#' ∨ c = '0' ∨ c = ',' ∨ c = '.' := by
  rw [chars] at member
  rcases List.mem_append.mp member with whole | behind
  · rcases body.mem_whole c whole with sign | zero | comma
    · exact .inl sign
    · exact .inr (.inl zero)
    · exact .inr (.inr (.inl comma))
  · cases fraction : body.fraction with
    | none => rw [fraction] at behind; exact absurd behind List.not_mem_nil
    | some places =>
      rw [fraction] at behind
      rcases List.mem_cons.mp behind with point | place
      · exact .inr (.inr (.inr point))
      · rcases body.mem_fraction places fraction c place with sign | zero
        · exact .inl sign
        · exact .inr (.inl zero)

private theorem isPlaceholder_of_mem {c : Char} (member : c ∈ body.chars) : isPlaceholder c = true := by
  rcases body.mem_chars member with rfl | rfl | rfl | rfl
  all_goals rfl

private theorem placesOf_eq_length {part : List Char} (ascii : ∀ c ∈ part, c.utf8Size = 1) :
    placesOf part = part.length := by
  have sums (part : List Char) (start : ℕ) (ascii : ∀ c ∈ part, c.utf8Size = 1) :
      part.foldl (fun places c => places + c.utf8Size) start = start + part.length := by
    induction part generalizing start with
    | nil => rfl
    | cons c part ih =>
      rw [List.foldl_cons, ih _ fun c member => ascii c (List.mem_cons_of_mem _ member),
        ascii c List.mem_cons_self, List.length_cons]
      omega
  rw [placesOf, sums part 0 ascii, Nat.zero_add]

private theorem utf8Size_of_mem_whole {c : Char} (member : c ∈ body.whole) : c.utf8Size = 1 := by
  rcases body.mem_whole c member with rfl | rfl | rfl
  all_goals rfl

/-- The size of the groups is read from behind. -/
theorem groups_groupSize? : Groups body.whole (groupSize? body.whole) := by
  rw [groupSize?]
  by_cases comma : ',' ∈ body.whole
  · obtain ⟨last, front, split, free⟩ :=
      List.eq_append_cons_of_mem (List.mem_reverse.mpr comma)
    have whole : body.whole = front.reverse ++ ',' :: last.reverse := by
      rw [← List.reverse_reverse body.whole, split]
      simp
    have ascii : ∀ c ∈ last, c.utf8Size = 1 := by
      intro c member
      apply body.utf8Size_of_mem_whole
      rw [whole]
      exact List.mem_append_right _ (List.mem_cons_of_mem _ (List.mem_reverse.mpr member))
    rw [split, Text.cutAtChar?_append (beq_eq_false_of_notMem free) rfl]
    cases last with
    | nil =>
      refine .inr ?_
      rw [whole, List.reverse_nil, List.getLast?_concat]
    | cons c last =>
      simp only [List.isEmpty_cons, Bool.false_eq_true, if_false, placesOf_eq_length ascii]
      refine ⟨Nat.succ_ne_zero _, _, _, whole, fun member => ?_, List.length_reverse⟩
      exact free (List.mem_reverse.mp member)
  · have free : ',' ∉ body.whole.reverse := fun member => comma (List.mem_reverse.mp member)
    rw [Text.cutAtChar?_eq_none (beq_eq_false_of_notMem free)]
    exact .inl comma

/-- The two parts of the body are on the two sides of its point. -/
theorem cutAtChar?_chars :
    (Text.cutAtChar? (· == '.') body.chars).getD (body.chars, []) = (body.whole, body.places) := by
  have apart : ∀ c ∈ body.whole, (c == '.') = false := by
    intro c member
    rcases body.mem_whole c member with rfl | rfl | rfl
    all_goals rfl
  rw [chars, places]
  cases body.fraction with
  | none =>
    rw [List.append_nil, Text.cutAtChar?_eq_none apart]
    rfl
  | some places =>
    rw [Text.cutAtChar?_append apart rfl]
    rfl

/-! ## Reading -/

/-- The body of a mask is found between texts that have no placeholder and no semicolon. -/
theorem parse_eq {before behind : List Char} (nonempty : body.chars ≠ [])
    (apart : ∀ c ∈ before ++ behind, isPlaceholder c = false ∧ c ≠ ';') :
    NumberMask.parse (before ++ (body.chars ++ behind)) = .ok (body.mask before behind) := by
  have noPlaceholder {text : List Char} (inside : ∀ c ∈ text, c ∈ before ++ behind) :
      ∀ c ∈ text, (!isPlaceholder c) = true := by
    intro c member
    rw [(apart c (inside c member)).1]
    rfl
  have all : (before ++ (body.chars ++ behind)).takeWhile (· != ';') =
      before ++ (body.chars ++ behind) := by
    refine List.takeWhile_eq_self_iff.mpr fun c member => bne_iff_ne.mpr ?_
    rcases List.mem_append.mp member with front | member
    · exact (apart c (List.mem_append_left _ front)).2
    · rcases List.mem_append.mp member with inside | back
      · rcases body.mem_chars inside with rfl | rfl | rfl | rfl
        all_goals decide
      · exact (apart c (List.mem_append_right _ back)).2
  have front : (before ++ (body.chars ++ behind)).takeWhile (!isPlaceholder ·) = before := by
    obtain ⟨first, others, split⟩ := List.exists_cons_of_ne_nil nonempty
    refine Text.takeWhile_append (noPlaceholder fun c => List.mem_append_left _) ?_
    rw [split]
    rintro c ⟨rfl⟩
    rw [body.isPlaceholder_of_mem (split ▸ List.mem_cons_self)]
    rfl
  have middle : Text.dropEndWhile (!isPlaceholder ·) (body.chars ++ behind) = body.chars := by
    obtain ⟨last, others, split⟩ :=
      List.exists_cons_of_ne_nil (List.reverse_ne_nil_iff.mpr nonempty)
    rw [Text.dropEndWhile, List.reverse_append, Text.dropWhile_append, List.reverse_reverse]
    · exact noPlaceholder fun c member => List.mem_append_right _ (List.mem_reverse.mp member)
    · rw [split]
      rintro c ⟨rfl⟩
      have inside : last ∈ body.chars := List.mem_reverse.mp (split ▸ List.mem_cons_self)
      rw [body.isPlaceholder_of_mem inside]
      rfl
  have back : (before ++ (body.chars ++ behind)).drop (before.length + body.chars.length) = behind := by
    rw [← List.drop_drop, List.drop_left, List.drop_left]
  have some : body.chars.isEmpty = false := List.isEmpty_eq_false_iff.mpr nonempty
  have wellFormed : (body.places.any fun c => c == '.' || c == ',') = false := by
    rw [List.any_eq_false]
    intro c member
    rcases body.mem_places member with rfl | rfl
    all_goals decide
  have ascii : placesOf body.places = body.places.length := by
    refine placesOf_eq_length fun c member => ?_
    rcases body.mem_places member with rfl | rfl
    all_goals rfl
  simp only [NumberMask.parse, all, front, List.drop_left, middle, back, some, cutAtChar?_chars,
    wellFormed, ascii, Bool.false_eq_true, if_false]
  rfl

/-- Without a body there is no mask. -/
theorem parse_empty {text : List Char} (apart : ∀ c ∈ text, isPlaceholder c = false) :
    NumberMask.parse text = .error (.noPlaceholders (String.ofList (text.takeWhile (· != ';')))) := by
  have all : ∀ c ∈ text.takeWhile (· != ';'), (!isPlaceholder c) = true := by
    intro c member
    rw [apart c ((List.takeWhile_sublist _).subset member)]
    rfl
  have front := List.takeWhile_eq_self_iff.mpr all
  simp only [NumberMask.parse, front, List.drop_length]
  rfl

end MaskBody

end DerivedFields

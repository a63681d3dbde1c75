import DerivedFields.Proofs.Number.WrittenZero
import DerivedFields.Proofs.Text.Occurrences

/-!
# Quoted text in a mask

Quotes are dropped from the text before and behind the body of a mask, but the mask is divided
before anyone looks at them. So text in quotes is written as it stands if it has no placeholder, no
percent or minus sign and no semicolon, and only then: a placeholder in it begins the body, a percent
sign makes a percentage of the number, a minus sign is taken for the sign and a semicolon for the end.
-/

namespace DerivedFields

open Decimal

/-- Text in quotes, and the rest of the mask. -/
def quoted (text rest : List Char) : List Char := '\'' :: (text ++ '\'' :: rest)

/-- The characters that mean something in a mask. -/
def maskSigns : List Char := ['#', '0', ',', '.', '%', '-', ';']

/-- The body that writes a number as an integer. -/
def MaskBody.integer : MaskBody where
  whole := ['#']
  fraction := none
  mem_whole := fun _ member => .inl (List.mem_singleton.mp member)
  mem_fraction := nofun

variable {text before rest chars : List Char} {mask : NumberMask} {d : Decimal}

/-! ## Text without signs -/

/-- The text in front changes nothing else. -/
theorem NumberMask.format_before (mask : NumberMask) (before : List Char) (d : Decimal) :
    { mask with before := before ++ mask.before }.format d = (mask.format d).map (before ++ ·) := by
  have written (rounded : Decimal) :
      { mask with before := before ++ mask.before }.write rounded = before ++ mask.write rounded := by
    rw [write_eq, write_eq]
    simp only [List.append_assoc]
    rfl
  rw [format, format]
  cases if mask.percent then d.mul? oneHundred else some d with
  | none => rfl
  | some value => exact congrArg Except.ok (written _)

private theorem quoted_append (text rest : List Char) :
    quoted text rest = '\'' :: (text ++ ['\'']) ++ (rest ++ []) := by
  rw [quoted, List.cons_append, List.append_assoc, List.append_nil]
  rfl

/-- Without a placeholder or a semicolon in it, text in quotes is read as the text in front. -/
theorem parse_quoted (quotable : IsQuotable text) (nonempty : text ≠ [])
    (plain : ∀ c ∈ text, isPlaceholder c = false ∧ c ≠ ';') (body : MaskBody)
    (bodied : body.chars ≠ []) : NumberMask.parse (quoted text body.chars) =
      .ok { body.mask [] [] with before := text, percent := text.contains '%' } := by
  have apart : ∀ c ∈ '\'' :: (text ++ ['\'']) ++ [], isPlaceholder c = false ∧ c ≠ ';' := by
    intro c member
    simp only [List.append_nil, List.mem_cons, List.mem_append, List.not_mem_nil, or_false] at member
    rcases member with rfl | inside | rfl
    · decide
    · exact plain c inside
    · decide
  have percent : ('\'' :: (text ++ ['\''])).contains '%' = text.contains '%' := by simp
  rw [quoted_append, body.parse_eq bodied apart, MaskBody.mask, quotable.unquote_quoted nonempty,
    percent, List.contains_nil, Bool.or_false]
  rfl

/-- A mask with something in quotes is not of zeros alone. -/
theorem quoted_ne_zeros (text rest : List Char) : ∃ c ∈ quoted text rest, c ≠ '0' :=
  ⟨'\'', List.mem_cons_self, by decide⟩

private theorem notMem_minus_quoted (noMinus : '-' ∉ text) (noMinusBehind : '-' ∉ rest) :
    '-' ∉ quoted text rest := by
  simp [quoted, noMinus, noMinusBehind]

/-- A body alone, and the same behind text in quotes. -/
theorem maskNumber_chars (x : Decimal) (body : MaskBody) (other : ∃ c ∈ body.chars, c ≠ '0') :
    maskNumber x (String.ofList body.chars) =
      ((body.mask [] []).format x.abs).map String.ofList := by
  have bodied : body.chars ≠ [] := by
    rintro none
    obtain ⟨c, member, -⟩ := other
    exact absurd (none ▸ member) List.not_mem_nil
  have plain : IsPlain ([] ++ []) := fun c member => absurd member List.not_mem_nil
  have other : ∃ c ∈ [] ++ (body.chars ++ []), c ≠ '0' := by rwa [List.append_nil]
  have written := maskNumber_plain x body plain other bodied
  rwa [List.nil_append, List.append_nil] at written

private theorem maskNumber_quoted_chars (quotable : IsQuotable text) (nonempty : text ≠ [])
    (plain : ∀ c ∈ text, isPlaceholder c = false ∧ c ≠ ';') (noMinus : '-' ∉ text) (x : Decimal)
    (body : MaskBody) (bodied : body.chars ≠ []) :
    maskNumber x (String.ofList (quoted text body.chars)) =
      (({ body.mask [] [] with percent := text.contains '%' }).format x.abs).map
        fun number => String.ofList (text ++ number) := by
  have unsigned := notMem_minus_quoted noMinus body.notMem_minus
  have front :=
    NumberMask.format_before { body.mask [] [] with percent := text.contains '%' } text x.abs
  have empty : ({ body.mask [] [] with percent := text.contains '%' } : NumberMask).before = [] := rfl
  rw [empty, List.append_nil] at front
  rw [maskNumber_of_notMem_minus x (quoted_ne_zeros _ _) unsigned,
    parse_quoted quotable nonempty plain body bodied]
  change (NumberMask.format _ x.abs).map String.ofList = _
  rw [front]
  cases NumberMask.format { body.mask [] [] with percent := text.contains '%' } x.abs with
  | error fault => rfl
  | ok number => rfl

/-! ## Text with signs -/

/-- Nothing but a quote is ever put into the text around the body. -/
theorem mem_unquote {c : Char} (member : c ∈ unquote text) : c ∈ text ∨ c = '\'' := by
  obtain ⟨marked, inside, same⟩ := List.mem_map.mp member
  split at same
  · exact .inr same.symm
  · next other =>
    subst same
    rcases Text.mem_replaceFrom 0 (List.mem_of_mem_filter inside) with mark | kept
    · exact absurd (List.mem_singleton.mp mark) other
    · exact .inl kept

private theorem IsQuotable.unquote_cons (quotable : IsQuotable text) :
    unquote ('\'' :: text) = text := by
  cases text with
  | nil => rfl
  | cons first others =>
    have other : ¬ ('\'' = first) := Ne.symm (quotable first List.mem_cons_self).1
    have start : Text.replaceFrom ['\'', '\''] ['\x00'] 0 ('\'' :: first :: others) =
        '\'' :: Text.replaceFrom ['\'', '\''] ['\x00'] 0 (first :: others) := by
      simp only [Text.replaceFrom, Text.dropPrefix?, if_true, other, if_false, Option.isSome_none,
        Bool.false_eq_true]
    have same := quotable.replaceFrom_append []
    rw [List.append_nil] at same
    rw [unquote, Text.replaceAll, start, List.filter_cons_of_neg (by decide), same]
    exact (congrArg _ (congrArg _ (List.append_nil _))).trans quotable.filter_map

/-- A mask is divided before its first and behind its last placeholder, in quotes or not. -/
theorem NumberMask.parse_eq_ok (parsed : NumberMask.parse chars = .ok mask) :
    ∃ placeholders behind,
      chars.takeWhile (· != ';') =
        (chars.takeWhile (· != ';')).takeWhile (!isPlaceholder ·) ++ (placeholders ++ behind) ∧
      (∀ c ∈ behind, isPlaceholder c = false) ∧
      mask.before = unquote ((chars.takeWhile (· != ';')).takeWhile (!isPlaceholder ·)) ∧
      mask.behind = unquote behind ∧
      mask.integerDigits + mask.fractionDigits.1 ≤ placeholders.count '0' := by
  simp only [NumberMask.parse] at parsed
  set part := chars.takeWhile (· != ';')
  set before := part.takeWhile (!isPlaceholder ·) with start
  set placeholders := Text.dropEndWhile (!isPlaceholder ·) (part.drop before.length) with body
  have front : part = before ++ part.drop before.length := by
    have split := (List.takeWhile_append_dropWhile (p := (!isPlaceholder ·)) (l := part)).symm
    rw [← start] at split
    conv_lhs => rw [split]
    rw [congrArg (List.drop before.length) split, List.drop_left]
  obtain ⟨behind, back, free⟩ :=
    Text.dropEndWhile_append (!isPlaceholder ·) (part.drop before.length)
  rw [← body] at back
  have last : part.drop (before.length + placeholders.length) = behind := by
    rw [← List.drop_drop, back, List.drop_left]
  have few := Text.count_cutAtChar? (· == '.') '0' placeholders
  split at parsed
  · cases parsed
  · split at parsed
    · cases parsed
    · obtain rfl := Except.ok.inj parsed
      refine ⟨placeholders, behind, ?_, fun c member => ?_, rfl, ?_, few⟩
      · rw [← back]
        exact front
      · exact (Bool.not_eq_true' _).mp (free c member)
      · rw [last]

private theorem maskNumber_quoted_zero (text rest : List Char) :
    maskNumber zero (String.ofList (quoted text rest)) =
      ((NumberMask.parse ((quoted text rest).filter (· != '-'))).mapError .domain).bind fun pattern =>
        (pattern.format zero).map String.ofList := by
  have unsigned : zero.negative = false := rfl
  simp only [maskNumber_of_ne_zeros zero (quoted_ne_zeros text rest), unsigned, Bool.and_false,
    Bool.false_and, Bool.false_eq_true, if_false]
  rfl

/-- Where text in quotes is written as it stands in front of a zero, the zero and the text are what the
mask around its placeholders says. -/
theorem exists_parse_quoted
    (literal : maskNumber zero (String.ofList (quoted text rest)) =
      .ok (String.ofList (text ++ ['0']))) :
    ∃ mask digits, NumberMask.parse ((quoted text rest).filter (· != '-')) = .ok mask ∧
      text ++ ['0'] = mask.before ++ digits ++ mask.behind ∧
      (∀ c ∈ digits, c = '0' ∨ c = ',' ∨ c = '.') ∧
      (digits = ['0'] ∨ digits.count '0' ≤ mask.integerDigits + mask.fractionDigits.1) := by
  rw [maskNumber_quoted_zero] at literal
  cases parsed : NumberMask.parse ((quoted text rest).filter (· != '-')) with
  | error fault =>
    rw [parsed] at literal
    exact absurd literal nofun
  | ok mask =>
    obtain ⟨digits, formatted, inside, count⟩ := mask.format_zero
    rw [parsed] at literal
    change (mask.format zero).map String.ofList = _ at literal
    rw [formatted] at literal
    have same := String.ofList_injective (Except.ok.inj literal)
    exact ⟨mask, digits, rfl, same.symm, inside, count⟩

/-- The body ends with the last placeholder. -/
theorem eq_nil_of_placeholder_last {last : Char} {front placeholders behind : List Char}
    (free : ∀ c ∈ behind, isPlaceholder c = false) (placeholder : isPlaceholder last = true)
    (split : front ++ [last] = placeholders ++ behind) : behind = [] := by
  by_contra more
  have ends := congrArg List.getLast? split
  rw [List.getLast?_concat, List.getLast?_append_of_ne_nil _ more,
    List.getLast?_eq_getLast_of_ne_nil more] at ends
  have outside := free _ (List.getLast_mem more)
  rw [← Option.some.inj ends, placeholder] at outside
  cases outside

private theorem takeWhile_filter_quoted (free : ∀ c ∈ text, c ≠ '-' ∧ c ≠ ';') :
    ((quoted text ['#']).filter (· != '-')).takeWhile (· != ';') = quoted text ['#'] := by
  have apart : ∀ c ∈ quoted text ['#'], c ≠ '-' ∧ c ≠ ';' := by
    intro c inside
    rw [quoted, List.mem_cons, List.mem_append] at inside
    rcases inside with rfl | inside | inside
    · decide
    · exact free c inside
    · simp only [List.mem_cons, List.not_mem_nil, or_false] at inside
      rcases inside with rfl | rfl <;> decide
  rw [filter_minus_eq_self fun member => (apart _ member).1 rfl]
  exact List.takeWhile_eq_self_iff.mpr fun c inside => bne_iff_ne.mpr (apart c inside).2

private theorem exists_first_placeholder {c : Char} (member : c ∈ text)
    (placeholder : isPlaceholder c = true) :
    ∃ front first rest, text = front ++ first :: rest ∧ (∀ c ∈ front, isPlaceholder c = false) ∧
      isPlaceholder first = true := by
  induction text with
  | nil => exact absurd member List.not_mem_nil
  | cons first text ih =>
    cases here : isPlaceholder first with
    | true => exact ⟨[], first, text, rfl, fun _ => nofun, here⟩
    | false =>
      have behind : c ∈ text := by
        refine (List.mem_cons.mp member).resolve_left ?_
        rintro rfl
        exact absurd placeholder (here ▸ Bool.false_ne_true)
      obtain ⟨front, next, rest, split, outside, begins⟩ := ih behind
      exact ⟨first :: front, next, rest, congrArg _ split,
        List.forall_mem_cons.mpr ⟨here, outside⟩, begins⟩

section

variable (literal : maskNumber zero (String.ofList (quoted text ['#'])) =
  .ok (String.ofList (text ++ ['0'])))

include literal

/-- A minus sign or a semicolon is lost. -/
theorem ne_minus_of_literal {c : Char} (member : c ∈ text) : c ≠ '-' ∧ c ≠ ';' := by
  obtain ⟨mask, digits, parsed, written, zeros, -⟩ := exists_parse_quoted literal
  obtain ⟨placeholders, behind, whole, -, front, back, -⟩ := NumberMask.parse_eq_ok parsed
  set read := ((quoted text ['#']).filter (· != '-')).takeWhile (· != ';')
  have source : c ∈ read ∨ c = '\'' ∨ c ∈ digits := by
    have inside : c ∈ mask.before ++ digits ++ mask.behind :=
      written ▸ List.mem_append_left _ member
    rcases List.mem_append.mp inside with inside | inside
    · rcases List.mem_append.mp inside with inside | inside
      · rw [front] at inside
        refine (mem_unquote inside).imp (fun first => ?_) .inl
        exact (List.takeWhile_sublist _).subset first
      · exact .inr (.inr inside)
    · rw [back] at inside
      refine (mem_unquote inside).imp (fun last => ?_) .inl
      rw [whole]
      exact List.mem_append_right _ (List.mem_append_right _ last)
  rcases source with inside | rfl | digit
  · have kept : c ∈ (quoted text ['#']).filter (· != '-') := (List.takeWhile_sublist _).subset inside
    have noMinus := List.of_mem_filter kept
    have noSemicolon := List.mem_takeWhile_imp inside
    exact ⟨bne_iff_ne.mp noMinus, bne_iff_ne.mp noSemicolon⟩
  · decide
  · rcases zeros c digit with rfl | rfl | rfl
    all_goals decide

/-- The zeros from a placeholder on are all that is written, and one more is wanted. -/
theorem isPlaceholder_of_literal (quotable : IsQuotable text) {c : Char} (member : c ∈ text) :
    isPlaceholder c = false := by
  by_contra some
  obtain ⟨mask, digits, parsed, written, -, count⟩ := exists_parse_quoted literal
  obtain ⟨placeholders, behind, whole, free, before, after, few⟩ := NumberMask.parse_eq_ok parsed
  obtain ⟨front, first, rest, split, outside, begins⟩ :=
    exists_first_placeholder member (by simpa using some)
  have kept := takeWhile_filter_quoted fun c inside => ne_minus_of_literal literal inside
  have divided : quoted text ['#'] = '\'' :: front ++ (first :: rest ++ ['\'', '#']) := by
    rw [quoted, split]
    simp only [List.cons_append, List.append_assoc]
  have opening : (quoted text ['#']).takeWhile (!isPlaceholder ·) = '\'' :: front := by
    rw [divided]
    refine Text.takeWhile_append ?_ ?_
    · intro c inside
      rcases List.mem_cons.mp inside with rfl | inside
      · rfl
      · rw [outside c inside]
        rfl
    · rintro c ⟨rfl⟩
      rw [begins]
      rfl
  rw [kept, opening] at whole before
  rw [divided] at whole
  have body := List.append_cancel_left whole
  have sign : isPlaceholder '#' = true := rfl
  have ends : first :: rest ++ ['\''] ++ ['#'] = placeholders ++ behind := by
    rw [← body, List.append_assoc]
    rfl
  have none := eq_nil_of_placeholder_last free sign ends
  rw [none, List.append_nil] at body
  have quotableFront : IsQuotable front := fun c inside =>
    quotable c (split ▸ List.mem_append_left _ inside)
  have zeros : digits = first :: rest ++ ['0'] := by
    rw [before, after, none, quotableFront.unquote_cons, split, List.append_assoc] at written
    have nothing : unquote [] = [] := rfl
    rw [nothing, List.append_nil] at written
    exact (List.append_cancel_left written).symm
  rcases count with lone | count
  · have length := congrArg List.length (zeros ▸ lone)
    simp at length
  · rw [zeros] at count
    rw [← body, List.count_append] at few
    rw [List.count_append] at count
    have one : ['0'].count '0' = 1 := rfl
    have none : ['\'', '#'].count '0' = 0 := rfl
    omega

end

/-! ## Which text is literal -/

private theorem notMem_maskSigns_iff {c : Char} :
    c ∉ maskSigns ↔ isPlaceholder c = false ∧ c ≠ '%' ∧ c ≠ '-' ∧ c ≠ ';' := by
  simp only [maskSigns, isPlaceholder_eq_false_iff, List.mem_cons, List.not_mem_nil, or_false, not_or,
    and_assoc]

section

variable (quotable : IsQuotable text) (nonempty : text ≠ [])

include quotable nonempty

/-- A percent sign makes a hundred of one. -/
theorem notMem_percent_of_literal (signs : ∀ c ∈ text, isPlaceholder c = false ∧ c ≠ ';')
    (noMinus : '-' ∉ text)
    (literal : maskNumber one (String.ofList (quoted text ['#'])) =
      .ok (String.ofList (text ++ ['1']))) : '%' ∉ text := by
  intro member
  have percent : text.contains '%' = true := List.contains_iff_mem.mpr member
  have chars : MaskBody.integer.chars = ['#'] := rfl
  have hundred : ({ MaskBody.integer.mask [] [] with percent := true } : NumberMask).format one.abs =
      .ok ['1', '0', '0'] := by decide +kernel
  rw [← chars, maskNumber_quoted_chars quotable nonempty signs noMinus one .integer
    (List.cons_ne_nil _ _), percent, hundred] at literal
  have same := List.append_cancel_left (String.ofList_injective (Except.ok.inj literal))
  exact absurd same (by decide)

/-- Without signs text is written as it stands. -/
theorem maskNumber_quoted_of_plain (plain : ∀ c ∈ text, c ∉ maskSigns) {x : Decimal} {body : MaskBody}
    {number : String} (other : ∃ c ∈ body.chars, c ≠ '0')
    (written : maskNumber x (String.ofList body.chars) = .ok number) :
    maskNumber x (String.ofList (quoted text body.chars)) = .ok (String.ofList text ++ number) := by
  have free := fun c member => notMem_maskSigns_iff.mp (plain c member)
  have signs : ∀ c ∈ text, isPlaceholder c = false ∧ c ≠ ';' := fun c member =>
    ⟨(free c member).1, (free c member).2.2.2⟩
  have noMinus : '-' ∉ text := fun member => (free _ member).2.2.1 rfl
  have noPercent : text.contains '%' = false := by
    rw [Bool.eq_false_iff, ne_eq, List.contains_iff_mem]
    exact fun member => (free _ member).2.1 rfl
  have bodied : body.chars ≠ [] := by
    obtain ⟨c, member, -⟩ := other
    exact List.ne_nil_of_mem member
  rw [maskNumber_chars x body other] at written
  rw [maskNumber_quoted_chars quotable nonempty signs noMinus x body bodied, noPercent]
  change ((body.mask [] []).format x.abs).map _ = _
  cases formatted : (body.mask [] []).format x.abs with
  | error fault =>
    rw [formatted] at written
    cases written
  | ok digits =>
    rw [formatted] at written
    obtain rfl := Except.ok.inj written
    rw [← String.ofList_append]
    rfl

end

/-- Text in quotes is written as it stands in front of any number that a body writes exactly if none of
its characters means something in a mask. -/
theorem quoted_literal_iff (quotable : IsQuotable text) (nonempty : text ≠ []) :
    (∀ (x : Decimal) (body : MaskBody) number, (∃ c ∈ body.chars, c ≠ '0') →
        maskNumber x (String.ofList body.chars) = .ok number →
        maskNumber x (String.ofList (quoted text body.chars)) = .ok (String.ofList text ++ number)) ↔
      ∀ c ∈ text, c ∉ maskSigns := by
  constructor
  · intro literal
    have digit : ∃ c ∈ MaskBody.integer.chars, c ≠ '0' := ⟨'#', List.mem_cons_self, by decide⟩
    have zeroWritten : maskNumber zero (String.ofList (quoted text ['#'])) =
        .ok (String.ofList (text ++ ['0'])) := by
      rw [String.ofList_append]
      exact literal zero .integer "0" digit (by decide)
    have oneWritten : maskNumber one (String.ofList (quoted text ['#'])) =
        .ok (String.ofList (text ++ ['1'])) := by
      rw [String.ofList_append]
      exact literal one .integer "1" digit (by decide)
    have placeholders (c : Char) (member : c ∈ text) : isPlaceholder c = false :=
      isPlaceholder_of_literal zeroWritten quotable member
    have signs (c : Char) (member : c ∈ text) : c ≠ '-' ∧ c ≠ ';' :=
      ne_minus_of_literal zeroWritten member
    have noPercent := notMem_percent_of_literal quotable nonempty
      (fun c member => ⟨placeholders c member, (signs c member).2⟩)
      (fun member => (signs _ member).1 rfl) oneWritten
    intro c member
    exact notMem_maskSigns_iff.mpr
      ⟨placeholders c member, fun same => noPercent (same ▸ member), signs c member⟩
  · intro plain x body number other written
    exact maskNumber_quoted_of_plain quotable nonempty plain other written

/-- A text of three words in front of a grouped number. -/
theorem quoted_literal_iff_words :
    let x : Decimal := ⟨true, 1234567, 3, by decide, by decide⟩
    IsQuotable "in all: ".toList ∧ (∀ c ∈ "in all: ".toList, c ∉ maskSigns) ∧
      maskNumber x "#,##0.00" = .ok "1,234.57" ∧
      maskNumber x "'in all: '#,##0.00" = .ok "in all: 1,234.57" := by
  intro x
  let body : MaskBody := ⟨"#,##0".toList, some "00".toList, by simp, by simp⟩
  have quotable : IsQuotable "in all: ".toList := by simp [IsQuotable]
  have plain : ∀ c ∈ "in all: ".toList, c ∉ maskSigns := by simp [maskSigns]
  have written : maskNumber x "#,##0.00" = .ok "1,234.57" := by decide
  have literal := (quoted_literal_iff quotable (by simp)).mpr plain
  exact ⟨quotable, plain, written, literal x body _ ⟨'#', List.mem_cons_self, by decide⟩ written⟩

/-- The point of an abbreviation is taken for the point of the number. -/
theorem not_forall_quoted_literal :
    ¬ ∀ text, IsQuotable text → text ≠ [] →
      ∀ (x : Decimal) (body : MaskBody) number, (∃ c ∈ body.chars, c ≠ '0') →
        maskNumber x (String.ofList body.chars) = .ok number →
        maskNumber x (String.ofList (quoted text body.chars)) =
          .ok (String.ofList text ++ number) := by
  intro literal
  let body : MaskBody := ⟨"#0".toList, none, by simp, nofun⟩
  have quotable : IsQuotable "No. ".toList := by simp [IsQuotable]
  have written : maskNumber (ofInt 5) "#0" = .ok "5" := by decide
  have claimed : maskNumber (ofInt 5) "'No. '#0" = .ok "No. 5" :=
    literal _ quotable (by simp) (ofInt 5) body "5" ⟨'#', List.mem_cons_self, by decide⟩ written
  have happens : maskNumber (ofInt 5) "'No. '#0" = .ok "No5.0" := by decide
  rw [happens] at claimed
  exact absurd (Except.ok.inj claimed) (by decide)

end DerivedFields

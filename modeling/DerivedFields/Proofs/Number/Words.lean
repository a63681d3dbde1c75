import Mathlib
import DerivedFields.Number.Words

/-!
# Numbers read back from words

A reader of English numbers that knows the words and what they stand for, and nothing of how they are
written: ones, teens and tens below a hundred, a hyphen between tens and ones, `hundred` behind ones,
and names of powers of a thousand, each behind a number below a thousand and every time a smaller one.
It reads from the words of an integer that integer, so no two integers have the same words.
-/

namespace DerivedFields

/-! ## A reader -/

/-- The digit that a word names. -/
def onesValue? : String → Option ℕ
  | "one" => some 1
  | "two" => some 2
  | "three" => some 3
  | "four" => some 4
  | "five" => some 5
  | "six" => some 6
  | "seven" => some 7
  | "eight" => some 8
  | "nine" => some 9
  | _ => none

/-- The number from ten to nineteen that a word names. -/
def teensValue? : String → Option ℕ
  | "ten" => some 10
  | "eleven" => some 11
  | "twelve" => some 12
  | "thirteen" => some 13
  | "fourteen" => some 14
  | "fifteen" => some 15
  | "sixteen" => some 16
  | "seventeen" => some 17
  | "eighteen" => some 18
  | "nineteen" => some 19
  | _ => none

/-- The multiple of ten that a word names. -/
def tensValue? : String → Option ℕ
  | "twenty" => some 20
  | "thirty" => some 30
  | "forty" => some 40
  | "fifty" => some 50
  | "sixty" => some 60
  | "seventy" => some 70
  | "eighty" => some 80
  | "ninety" => some 90
  | _ => none

/-- The power of a thousand that a word names, in the short scale. -/
def scaleValue? : String → Option ℕ
  | "thousand" => some (10 ^ 3)
  | "million" => some (10 ^ 6)
  | "billion" => some (10 ^ 9)
  | "trillion" => some (10 ^ 12)
  | _ => none

/-- The pieces of a text between the occurrences of a character. -/
def piecesOf (separator : Char) (text : String) : List String :=
  (text.toList.splitOn separator).map String.ofList

/-- The number from one to ninety-nine that a word names, which may have a hyphen. -/
def belowHundred? (word : String) : Option ℕ :=
  match piecesOf '-' word with
  | [tens, ones] => (tensValue? tens).bind fun ten => (onesValue? ones).map (ten + ·)
  | _ => (onesValue? word).or ((teensValue? word).or (tensValue? word))

/-- How far a number has been read. -/
structure WordCount where
  /-- What the words up to the last power of a thousand stand for. -/
  total : ℕ
  /-- What the words since then stand for. -/
  group : ℕ

namespace WordCount

/-- Reads one more word. -/
def read? (count : WordCount) (word : String) : Option WordCount :=
  match belowHundred? word, scaleValue? word with
  | some value, _ =>
    if count.group % 100 = 0 then some { count with group := count.group + value } else none
  | none, some scale =>
    if count.group ≠ 0 ∧ 1000 * scale ∣ count.total then
      some { total := count.total + count.group * scale, group := 0 }
    else none
  | none, none =>
    if word = "hundred" ∧ 0 < count.group ∧ count.group < 10 then
      some { count with group := count.group * 100 }
    else none

end WordCount

/-- The natural number that words stand for. -/
def naturalOfWords? (words : List String) : Option ℕ :=
  if words = ["zero"] then some 0
  else (words.foldlM WordCount.read? ⟨0, 0⟩).map fun count => count.total + count.group

/-- The integer that a text of words with spaces between them stands for. -/
def integerOfWords? (text : String) : Option ℤ :=
  match piecesOf ' ' text with
  | "minus" :: words => (naturalOfWords? words).map fun n : ℕ => -(n : ℤ)
  | words => (naturalOfWords? words).map fun n : ℕ => (n : ℤ)

/-! ## Pieces -/

/-- Words without a separator are the pieces of the text that they make. -/
theorem piecesOf_intercalate {mark : String} {separator : Char} {words : List String}
    (single : mark.toList = [separator]) (nonempty : words ≠ [])
    (apart : ∀ word ∈ words, separator ∉ word.toList) :
    piecesOf separator (mark.intercalate words) = words := by
  have split : (mark.intercalate words).toList.splitOn separator = words.map String.toList := by
    rw [String.toList_intercalate, single]
    refine List.splitOn_intercalate separator ?_ (by simpa using nonempty)
    intro piece member
    obtain ⟨word, inside, rfl⟩ := List.mem_map.mp member
    exact apart word inside
  rw [piecesOf, split, List.map_map]
  conv_rhs => rw [← List.map_id words]
  exact List.map_congr_left fun word _ => String.ofList_toList

/-- Tens and ones are told apart by the hyphen. -/
theorem belowHundred?_hyphen {tens ones : String} {ten one : ℕ}
    (tensValue : tensValue? tens = some ten) (onesValue : onesValue? ones = some one) (apartTens : '-' ∉ tens.toList)
    (apartOnes : '-' ∉ ones.toList) : belowHundred? (tens ++ "-" ++ ones) = some (ten + one) := by
  have apart : ∀ word ∈ [tens, ones], '-' ∉ word.toList := by
    intro word member
    rcases List.mem_pair.mp member with rfl | rfl
    · exact apartTens
    · exact apartOnes
  have joined : "-".intercalate [tens, ones] = tens ++ "-" ++ ones := by
    simp [String.intercalate_cons_cons]
  have hyphen : "-".toList = ['-'] := rfl
  have pieces := piecesOf_intercalate hyphen (List.cons_ne_nil _ _) apart
  rw [joined] at pieces
  rw [belowHundred?, pieces]
  simp only [tensValue, onesValue, Option.bind_some, Option.map_some]

/-! ## Below a thousand -/

variable {n : ℕ} {count : WordCount}

private theorem smallWord_eq (positive : n ≠ 0) (small : n < 20) :
    belowHundred? (smallWord n) = some n ∧ ' ' ∉ (smallWord n).toList := by
  have all : ∀ n : Fin 20, n.val ≠ 0 →
      belowHundred? (smallWord n.val) = some n.val ∧ ' ' ∉ (smallWord n.val).toList := by
    decide
  exact all ⟨n, small⟩ positive

private theorem onesValue?_smallWord (positive : n ≠ 0) (small : n < 10) :
    onesValue? (smallWord n) = some n ∧ '-' ∉ (smallWord n).toList := by
  have all : ∀ n : Fin 10, n.val ≠ 0 →
      onesValue? (smallWord n.val) = some n.val ∧ '-' ∉ (smallWord n.val).toList := by
    decide
  exact all ⟨n, small⟩ positive

private theorem tensWord_eq (small : n < 8) :
    belowHundred? (tensWords.getD n "") = some ((n + 2) * 10) ∧
      tensValue? (tensWords.getD n "") = some ((n + 2) * 10) ∧
      ' ' ∉ (tensWords.getD n "").toList ∧ '-' ∉ (tensWords.getD n "").toList := by
  have all : ∀ n : Fin 8, belowHundred? (tensWords.getD n.val "") = some ((n.val + 2) * 10) ∧
      tensValue? (tensWords.getD n.val "") = some ((n.val + 2) * 10) ∧
      ' ' ∉ (tensWords.getD n.val "").toList ∧ '-' ∉ (tensWords.getD n.val "").toList := by
    decide
  exact all ⟨n, small⟩

/-- Below a hundred there is one word. -/
theorem belowHundred?_tensPhrase (positive : n ≠ 0) (small : n < 100) :
    ∃ word, tensPhrase n = [word] ∧ belowHundred? word = some n ∧ ' ' ∉ word.toList := by
  rw [tensPhrase, if_neg positive]
  split
  · next few => exact ⟨_, rfl, smallWord_eq positive few⟩
  · next many =>
    have index : n / 10 - 2 < 8 := by omega
    have tens : n / 10 - 2 + 2 = n / 10 := by omega
    obtain ⟨alone, value, noSpace, noHyphen⟩ := tensWord_eq index
    rw [tens] at alone value
    split
    · next round =>
      refine ⟨_, rfl, ?_, noSpace⟩
      rw [alone]
      congr 1
      omega
    · next ones =>
      have digit : n % 10 < 10 := Nat.mod_lt _ (by decide)
      obtain ⟨one, apart⟩ := onesValue?_smallWord ones digit
      refine ⟨_, rfl, ?_, ?_⟩
      · rw [belowHundred?_hyphen value one noHyphen apart, Nat.div_add_mod']
      · have behind := (smallWord_eq ones (digit.trans (by decide))).2
        simp only [String.toList_append, List.mem_append, not_or]
        exact ⟨⟨noSpace, by decide⟩, behind⟩

namespace WordCount

private theorem read?_below {word : String} (value : belowHundred? word = some n)
    (round : count.group % 100 = 0) :
    count.read? word = some { count with group := count.group + n } := by
  rw [read?, value]
  exact if_pos round

private theorem read?_hundred (begun : 0 < count.group) (few : count.group < 10) :
    count.read? "hundred" = some { count with group := count.group * 100 } := by
  have other : belowHundred? "hundred" = none := by decide
  rw [read?, other]
  exact if_pos ⟨rfl, begun, few⟩

private theorem read?_scale {word : String} {scale : ℕ} (other : belowHundred? word = none)
    (names : scaleValue? word = some scale) (begun : count.group ≠ 0)
    (lower : 1000 * scale ∣ count.total) :
    count.read? word = some ⟨count.total + count.group * scale, 0⟩ := by
  rw [read?, other, names]
  exact if_pos ⟨begun, lower⟩

private theorem foldlM_tensPhrase (small : n < 100) (round : count.group % 100 = 0) :
    (tensPhrase n).foldlM read? count = some { count with group := count.group + n } := by
  by_cases zero : n = 0
  · subst zero
    rfl
  · obtain ⟨word, single, value, -⟩ := belowHundred?_tensPhrase zero small
    rw [single, List.foldlM_cons, read?_below value round]
    rfl

private theorem foldlM_hundredsPhrase (small : n < 1000) (fresh : count.group = 0) :
    (hundredsPhrase n).foldlM read? count = some { count with group := n } := by
  have tens : n % 100 < 100 := Nat.mod_lt _ (by decide)
  rw [hundredsPhrase]
  by_cases few : n < 100
  · rw [if_pos few, List.nil_append, foldlM_tensPhrase tens (by rw [fresh]), fresh, Nat.zero_add,
      Nat.mod_eq_of_lt few]
  · have digit : n / 100 ≠ 0 := by omega
    have hundreds : n / 100 < 10 := by omega
    obtain ⟨value, -⟩ := smallWord_eq digit (hundreds.trans (by decide))
    rw [if_neg few, List.foldlM_append, List.foldlM_cons, read?_below value (by rw [fresh])]
    change ((["hundred"].foldlM read? ⟨count.total, count.group + n / 100⟩).bind _) = _
    have hundred : read? ⟨count.total, n / 100⟩ "hundred" = some ⟨count.total, n / 100 * 100⟩ :=
      read?_hundred (Nat.pos_of_ne_zero digit) hundreds
    rw [fresh, Nat.zero_add, List.foldlM_cons, hundred]
    change (tensPhrase (n % 100)).foldlM read? ⟨count.total, n / 100 * 100⟩ = _
    rw [foldlM_tensPhrase tens (Nat.mul_mod_left _ _)]
    congr 2
    exact Nat.div_add_mod' n 100

end WordCount

/-! ## Powers of a thousand -/

/-- The names of the powers of a thousand from one of them on. -/
def NameScales : ℕ → List (List String) → Prop
  | _, [] => True
  | scale, name :: names =>
    (∃ word, name = [word] ∧ belowHundred? word = none ∧ scaleValue? word = some scale) ∧
      NameScales (1000 * scale) names

/-- What counts powers of a thousand is read as a multiple of the least of them. -/
theorem WordCount.foldlM_groupsPhrase {scale : ℕ} {names : List (List String)}
    (named : NameScales scale names) (small : n < 1000 ^ names.length) :
    (groupsPhrase names n).foldlM read? ⟨0, 0⟩ = some ⟨n * scale, 0⟩ := by
  induction names generalizing n scale with
  | nil =>
    obtain rfl : n = 0 := Nat.lt_one_iff.mp small
    rw [Nat.zero_mul]
    rfl
  | cons name names ih =>
    obtain ⟨⟨word, rfl, other, value⟩, above⟩ := named
    have higher : n / 1000 < 1000 ^ names.length := by
      rw [List.length_cons, pow_succ] at small
      exact Nat.div_lt_of_lt_mul (by rwa [mul_comm] at small)
    have split : n / 1000 * (1000 * scale) + n % 1000 * scale = n * scale := by
      rw [← Nat.mul_assoc, ← Nat.add_mul, Nat.div_add_mod']
    rw [groupsPhrase, List.foldlM_append, ih above higher]
    change List.foldlM read? ⟨n / 1000 * (1000 * scale), 0⟩ _ = _
    by_cases empty : n % 1000 = 0
    · rw [if_pos empty, ← split, empty, Nat.zero_mul]
      rfl
    · rw [if_neg empty, List.foldlM_append, foldlM_hundredsPhrase (Nat.mod_lt _ (by decide)) rfl]
      change List.foldlM read? ⟨n / 1000 * (1000 * scale), n % 1000⟩ [word] = _
      have lower : 1000 * scale ∣ n / 1000 * (1000 * scale) := Nat.dvd_mul_left _ _
      rw [List.foldlM_cons, read?_scale other value empty lower, split]
      rfl

private theorem nameScales_scaleWords : NameScales 1000 (scaleWords.map ([·])) :=
  ⟨⟨"thousand", rfl, by decide, rfl⟩, ⟨"million", rfl, by decide +kernel, rfl⟩,
    ⟨"billion", rfl, by decide, rfl⟩, ⟨"trillion", rfl, by decide +kernel, rfl⟩, trivial⟩

/-! ## Whole texts -/

private theorem naturalOfWords?_naturalPhrase (small : n < wordsLimit) :
    naturalOfWords? (naturalPhrase n) = some n := by
  rw [naturalPhrase]
  by_cases zero : n = 0
  · rw [if_pos zero, zero]
    rfl
  · have thousands : n / 1000 < 1000 ^ (scaleWords.map ([·])).length :=
      Nat.div_lt_of_lt_mul small
    have read : (groupsPhrase ([] :: scaleWords.map ([·])) n).foldlM WordCount.read? ⟨0, 0⟩ =
        some ⟨n / 1000 * 1000, n % 1000⟩ := by
      rw [groupsPhrase, List.foldlM_append,
        WordCount.foldlM_groupsPhrase nameScales_scaleWords thousands]
      change List.foldlM WordCount.read? ⟨n / 1000 * 1000, 0⟩ _ = _
      split
      · next empty => rw [empty]; rfl
      · rw [List.append_nil]
        exact WordCount.foldlM_hundredsPhrase (Nat.mod_lt _ (by decide)) rfl
    have other : groupsPhrase ([] :: scaleWords.map ([·])) n ≠ ["zero"] := by
      intro same
      have nothing : ["zero"].foldlM WordCount.read? ⟨0, 0⟩ = none := by decide
      rw [same, nothing] at read
      exact absurd read nofun
    rw [if_neg zero, naturalOfWords?, if_neg other, read, Option.map_some, Nat.div_add_mod']

section

variable {word : String}

private theorem notMem_space_of_mem_hundredsPhrase (small : n < 1000)
    (member : word ∈ hundredsPhrase n) :
    ' ' ∉ word.toList := by
  have tens : n % 100 < 100 := Nat.mod_lt _ (by decide)
  rw [hundredsPhrase] at member
  rcases List.mem_append.mp member with front | back
  · split at front
    · exact absurd front List.not_mem_nil
    · have digit : n / 100 ≠ 0 := by omega
      have few : n / 100 < 20 := by omega
      rcases List.mem_pair.mp front with rfl | rfl
      · exact (smallWord_eq digit few).2
      · decide
  · by_cases zero : n % 100 = 0
    · rw [zero] at back
      exact absurd back List.not_mem_nil
    · obtain ⟨only, single, -, noSpace⟩ := belowHundred?_tensPhrase zero tens
      rw [single] at back
      rw [List.mem_singleton.mp back]
      exact noSpace

private theorem notMem_space_of_mem_groupsPhrase {names : List (List String)}
    (apart : ∀ name ∈ names, ∀ word ∈ name, ' ' ∉ word.toList)
    (member : word ∈ groupsPhrase names n) : ' ' ∉ word.toList := by
  induction names generalizing n with
  | nil => exact absurd member List.not_mem_nil
  | cons name names ih =>
    rw [groupsPhrase] at member
    rcases List.mem_append.mp member with above | here
    · exact ih (fun name inside => apart name (List.mem_cons_of_mem _ inside)) above
    · split at here
      · exact absurd here List.not_mem_nil
      · rcases List.mem_append.mp here with digits | scale
        · exact notMem_space_of_mem_hundredsPhrase (Nat.mod_lt _ (by decide)) digits
        · exact apart name List.mem_cons_self word scale

private theorem notMem_space_of_mem_naturalPhrase (member : word ∈ naturalPhrase n) :
    ' ' ∉ word.toList := by
  rw [naturalPhrase] at member
  split at member
  · rw [List.mem_singleton.mp member]
    decide
  · refine notMem_space_of_mem_groupsPhrase ?_ member
    decide

end

private theorem naturalPhrase_ne_nil (small : n < wordsLimit) : naturalPhrase n ≠ [] := by
  intro empty
  have read := naturalOfWords?_naturalPhrase small
  rw [empty] at read
  obtain rfl : 0 = n := Option.some.inj read
  exact absurd empty (by decide)

/-- No natural number begins with a minus. -/
theorem naturalOfWords?_minus (words : List String) : naturalOfWords? ("minus" :: words) = none := by
  have other : "minus" :: words ≠ ["zero"] := fun same =>
    absurd (List.cons.inj same).1 (by decide)
  have nothing : WordCount.read? ⟨0, 0⟩ "minus" = none := by decide
  rw [naturalOfWords?, if_neg other, List.foldlM_cons, nothing]
  rfl

/-- From what is written of an integer the integer is read. -/
theorem integerOfWords?_numberToWords {n : ℤ} {text : String} (written : numberToWords n = .ok text) :
    integerOfWords? text = some n := by
  rw [numberToWords] at written
  split at written
  · exact absurd written nofun
  · next small =>
    have small := not_le.mp small
    obtain rfl := Except.ok.inj written
    have read := naturalOfWords?_naturalPhrase small
    have space : " ".toList = [' '] := rfl
    rw [integerOfWords?, piecesOf_intercalate space]
    · by_cases negative : n < 0
      · rw [if_pos negative]
        change (naturalOfWords? (naturalPhrase n.natAbs)).map _ = _
        rw [read, Option.map_some, Int.ofNat_natAbs_of_nonpos negative.le, neg_neg]
      · rw [if_neg negative, List.nil_append]
        split
        · next words minus => rw [minus, naturalOfWords?_minus] at read; exact absurd read nofun
        · rw [read, Option.map_some, Int.natAbs_of_nonneg (not_lt.mp negative)]
    · exact List.append_ne_nil_of_right_ne_nil _ (naturalPhrase_ne_nil small)
    · intro word member
      rcases List.mem_append.mp member with sign | inside
      · split at sign
        · rw [List.mem_singleton.mp sign]
          decide
        · exact absurd sign List.not_mem_nil
      · exact notMem_space_of_mem_naturalPhrase inside

/-- An integer below a quadrillion is written in words that stand for it and for no other integer. Any
other integer is out of range. -/
theorem numberToWords_reads_back (n : ℤ) :
    (n.natAbs < 10 ^ 15 → ∃ text, numberToWords n = .ok text ∧ integerOfWords? text = some n ∧
      ∀ other, numberToWords other = .ok text → other = n) ∧
    (10 ^ 15 ≤ n.natAbs → numberToWords n = .error (.range (.unnamedNumber n))) := by
  constructor
  · intro small
    have written : ∃ text, numberToWords n = .ok text := ⟨_, if_neg (not_le.mpr small)⟩
    obtain ⟨text, written⟩ := written
    have read := integerOfWords?_numberToWords written
    refine ⟨text, written, read, fun other same => ?_⟩
    rw [integerOfWords?_numberToWords same] at read
    exact Option.some.inj read
  · intro large
    exact if_pos large

/-- A negative number with groups that are skipped. -/
theorem numberToWords_reads_back_skipped :
    numberToWords (-15000340000119) =
        .ok "minus fifteen trillion three hundred forty million one hundred nineteen" ∧
      integerOfWords? "minus fifteen trillion three hundred forty million one hundred nineteen" =
        some (-15000340000119) ∧
      numberToWords (10 ^ 15) = .error (.range (.unnamedNumber (10 ^ 15))) := by
  have written : numberToWords (-15000340000119) =
      .ok "minus fifteen trillion three hundred forty million one hundred nineteen" := by decide
  obtain ⟨text, same, read, -⟩ := (numberToWords_reads_back (-15000340000119)).1 (by decide)
  rw [written] at same
  obtain rfl := Except.ok.inj same
  exact ⟨written, read, (numberToWords_reads_back (10 ^ 15)).2 (by decide)⟩

end DerivedFields

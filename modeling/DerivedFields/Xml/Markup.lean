import DerivedFields.Xml.Escape

/-!
# XML markup

What stands between angle brackets. A tag ends at the first closing bracket outside quotes.
Comments, processing instructions, the declaration and the document type are recognised only to be
skipped.
-/

namespace DerivedFields.Xml

/-- The characters that separate the parts of a tag. -/
def isSpace (c : Char) : Bool := c == ' ' || c == '\r' || c == '\n' || c == '\t'

inductive Markup
  | opening (name : List Char) (attributes : List (String × String))
  | empty (name : List Char) (attributes : List (String × String))
  | closing (name : List Char)
  | cdata (text : List Char)
  | skipped

/-- The text up to the first closing bracket outside quotes, and the text behind it. -/
def cutTag? (quote : Option Char) : List Char → Option (List Char × List Char)
  | [] => none
  | c :: rest =>
    let continue? (quote : Option Char) := (cutTag? quote rest).map fun (tag, behind) =>
      (c :: tag, behind)
    match quote with
    | some q => continue? (if c = q then none else some q)
    | none =>
      if c = '>' then some ([], rest)
      else continue? (if c = '"' || c = '\'' then some c else none)

/-- The text up to the closing bracket that has no opening partner, and the text behind it. -/
def cutBalanced? (depth : Nat) : List Char → Option (List Char × List Char)
  | [] => none
  | c :: rest =>
    let continue? (depth : Nat) := (cutBalanced? depth rest).map fun (before, behind) =>
      (c :: before, behind)
    if c = '<' then continue? (depth + 1)
    else if c = '>' then
      match depth with
      | 0 => some ([], rest)
      | depth + 1 => continue? depth
    else continue? depth

/-- The text up to the quote that closes a value, and the text behind it. -/
def cutQuoted? (quote : Char) (text : List Char) : Option (List Char × List Char) :=
  Text.cutAtChar? (· == quote) text

private theorem cutAtChar?_length {isCut : Char → Bool} {text before after : List Char}
    (found : Text.cutAtChar? isCut text = some (before, after)) : after.length < text.length := by
  induction text generalizing before after with
  | nil => simp [Text.cutAtChar?] at found
  | cons c text ih =>
    simp only [Text.cutAtChar?] at found
    split at found
    · simp only [Option.some.injEq, Prod.mk.injEq] at found
      simp [← found.2]
    · simp only [Option.map_eq_some_iff, Prod.mk.injEq] at found
      obtain ⟨⟨first, second⟩, inner, -, rfl⟩ := found
      have := ih inner
      simp only [List.length_cons]
      omega

/-- Reads attributes, each a key, an equals sign and a quoted value. The keys already read may not
come again. -/
def readAttributes? (keys : List String) (input : List Char) :
    Option (List (String × String)) :=
  match start : input.dropWhile isSpace with
  | [] => some []
  | c :: text =>
    let key := String.ofList (c :: text.takeWhile fun c => c != '=' && !isSpace c)
    let behind := (text.dropWhile fun c => c != '=' && !isSpace c).dropWhile isSpace
    if keys.contains key then none
    else
      match equals : behind with
      | '=' :: rest =>
        match value : rest.dropWhile isSpace with
        | quote :: rest' =>
          if quote = '"' || quote = '\'' then
            match closed : cutQuoted? quote rest' with
            | none => none
            | some (raw, next) =>
              have : next.length < input.length := by
                have one := cutAtChar?_length closed
                have two := (List.dropWhile_sublist (l := rest) isSpace).length_le
                have three := (List.dropWhile_sublist
                  (l := text.dropWhile fun c => c != '=' && !isSpace c) isSpace).length_le
                have four := (List.dropWhile_sublist
                  (l := text) fun c => c != '=' && !isSpace c).length_le
                have five := (List.dropWhile_sublist (l := input) isSpace).length_le
                change behind.length ≤ _ at three
                rw [equals, List.length_cons] at three
                rw [value, List.length_cons] at two
                rw [start, List.length_cons] at five
                omega
              match unescape? raw with
              | none => none
              | some value =>
                (readAttributes? (key :: keys) next).map ((key, value) :: ·)
          else none
        | [] => none
      | _ => none
termination_by input.length

/-- The name and the attributes of a tag. -/
def readTag? (content : List Char) : Option (List Char × List (String × String)) :=
  (readAttributes? [] (content.dropWhile fun c => !isSpace c)).map fun attributes =>
    (content.takeWhile fun c => !isSpace c, attributes)

/-- A start tag, or an empty element if a slash closes it. -/
def openingMarkup? (content : List Char) : Option Markup :=
  if content.getLast? = some '/' then
    (readTag? content.dropLast).map fun (name, attributes) => .empty name attributes
  else (readTag? content).map fun (name, attributes) => .opening name attributes

/-- The name in an end tag: blanks behind it do not belong to it. -/
def closingName (content : List Char) : List Char :=
  if content.all isSpace then content else (content.reverse.dropWhile isSpace).reverse

/-- A document type declaration names a document type. -/
def isDoctype (content : List Char) : Bool :=
  (content.take 8).map Char.toUpper == ['!', 'D', 'O', 'C', 'T', 'Y', 'P', 'E'] &&
    !(content.drop 8).all isSpace

/-- Reads the markup behind an opening bracket, and the text behind it. -/
def readMarkup? : List Char → Option (Markup × List Char)
  | '!' :: '[' :: rest => do
    let (before, behind) ← Text.cutFirst? [']', ']', '>'] rest
    let text ← Text.dropPrefix? ['C', 'D', 'A', 'T', 'A', '['] before
    some (.cdata text, behind)
  | '!' :: '-' :: '-' :: rest => do
    let (_, behind) ← Text.cutFirst? ['-', '-', '>'] rest
    some (.skipped, behind)
  | '!' :: rest => do
    let (content, behind) ← cutBalanced? 0 ('!' :: rest)
    if isDoctype content then some (.skipped, behind) else none
  | '?' :: rest => do
    let (before, behind) ← Text.cutFirst? ['?', '>'] ('?' :: rest)
    if before.isEmpty then none else some (.skipped, behind)
  | '/' :: rest => do
    let (content, behind) ← cutTag? none rest
    some (.closing (closingName content), behind)
  | [] => none
  | content => do
    let (content, behind) ← cutTag? none content
    let markup ← openingMarkup? content
    some (markup, behind)

private theorem cutTag?_length {quote : Option Char} {text before after : List Char}
    (found : cutTag? quote text = some (before, after)) : after.length < text.length := by
  induction text generalizing quote before after with
  | nil => simp [cutTag?] at found
  | cons c text ih =>
    have step {next : Option Char} {first second : List Char}
        (inner : (cutTag? next text).map (fun (tag, behind) => (c :: tag, behind)) =
          some (first, second)) : second.length < (c :: text).length := by
      simp only [Option.map_eq_some_iff, Prod.mk.injEq] at inner
      obtain ⟨⟨_, _⟩, inner, -, rfl⟩ := inner
      exact Nat.lt_succ_of_lt (ih inner)
    cases quote with
    | some q => exact step found
    | none =>
      simp only [cutTag?] at found
      split at found
      · simp only [Option.some.injEq, Prod.mk.injEq] at found
        simp [← found.2]
      · exact step found

private theorem cutBalanced?_length {depth : Nat} {text before after : List Char}
    (found : cutBalanced? depth text = some (before, after)) : after.length < text.length := by
  induction text generalizing depth before after with
  | nil => simp [cutBalanced?] at found
  | cons c text ih =>
    have step {next : Nat} {first second : List Char}
        (inner : (cutBalanced? next text).map (fun (tag, behind) => (c :: tag, behind)) =
          some (first, second)) : second.length < (c :: text).length := by
      simp only [Option.map_eq_some_iff, Prod.mk.injEq] at inner
      obtain ⟨⟨_, _⟩, inner, -, rfl⟩ := inner
      exact Nat.lt_succ_of_lt (ih inner)
    simp only [cutBalanced?] at found
    split at found
    · exact step found
    · split at found
      · split at found
        · simp only [Option.some.injEq, Prod.mk.injEq] at found
          simp [← found.2]
        · exact step found
      · exact step found

private theorem cutFirst?_length {pattern text before after : List Char}
    (found : Text.cutFirst? pattern text = some (before, after)) :
    after.length ≤ text.length := by
  rw [Text.cutFirst?_eq_some found]
  simp only [List.length_append]
  omega

/-- What markup that is read can be: a CDATA section, a piece that is skipped, an end tag, or a tag
that opens an element. -/
theorem readMarkup?_cases {text behind : List Char} {markup : Markup}
    (success : readMarkup? text = some (markup, behind)) :
    (∃ rest before content, text = '!' :: '[' :: rest ∧
      Text.cutFirst? [']', ']', '>'] rest = some (before, behind) ∧
      Text.dropPrefix? ['C', 'D', 'A', 'T', 'A', '['] before = some content ∧
      markup = .cdata content) ∨
    (markup = .skipped ∧ behind.length ≤ text.length) ∨
    (∃ rest content, text = '/' :: rest ∧ cutTag? none rest = some (content, behind) ∧
      markup = .closing (closingName content)) ∨
    (∃ content, cutTag? none text = some (content, behind) ∧
      openingMarkup? content = some markup) := by
  unfold readMarkup? at success
  split at success <;>
    simp only [Option.bind_eq_bind, Option.bind_eq_some_iff, Prod.exists, Option.some.injEq,
      Prod.mk.injEq, Option.ite_none_right_eq_some, Option.ite_none_left_eq_some,
      reduceCtorEq] at success
  · obtain ⟨before, _, found, content, dropped, rfl, rfl⟩ := success
    exact .inl ⟨_, before, content, rfl, found, dropped, rfl⟩
  · obtain ⟨_, _, found, rfl, rfl⟩ := success
    have shorter := cutFirst?_length found
    refine .inr (.inl ⟨rfl, ?_⟩)
    simp only [List.length_cons]
    omega
  · obtain ⟨_, _, found, -, rfl, rfl⟩ := success
    exact .inr (.inl ⟨rfl, Nat.le_of_lt (cutBalanced?_length found)⟩)
  · obtain ⟨_, _, found, -, rfl, rfl⟩ := success
    exact .inr (.inl ⟨rfl, cutFirst?_length found⟩)
  · obtain ⟨content, _, found, rfl, rfl⟩ := success
    exact .inr (.inr (.inl ⟨_, content, rfl, found, rfl⟩))
  · obtain ⟨content, _, found, _, opened, rfl, rfl⟩ := success
    exact .inr (.inr (.inr ⟨content, found, opened⟩))

/-- Markup is followed by what is left of the text. -/
theorem readMarkup?_length {text behind : List Char} {markup : Markup}
    (success : readMarkup? text = some (markup, behind)) : behind.length ≤ text.length := by
  rcases readMarkup?_cases success with ⟨rest, before, content, rfl, found, -, -⟩ | ⟨-, shorter⟩ |
    ⟨rest, content, rfl, found, -⟩ | ⟨content, found, -⟩
  · have shorter := cutFirst?_length found
    simp only [List.length_cons]
    omega
  · exact shorter
  · have shorter := cutTag?_length found
    simp only [List.length_cons]
    omega
  · exact Nat.le_of_lt (cutTag?_length found)

end DerivedFields.Xml

import DerivedFields.Proofs.Xml.Lexemes
import DerivedFields.Proofs.Xml.Settling

/-!
# Reading back an element

The reader goes through a text from one opening bracket to the next. What it does between two
brackets and at each of them is one equation. By these, what is written of an element adds this
element, once it is settled, to the one around it: the text nodes that indentation makes are dropped
with the end tag, since they are beside child elements, and so is other blank text there.
-/

namespace DerivedFields.Xml

/-! ## Equations of the reader -/

/-- What is read from an opening bracket on. -/
def readMarked (building : Building) : List Char → Except Fault XmlElement
  | [] => building.finish
  | _ :: rest =>
    match readMarkup? rest with
    | none => .error .malformed
    | some (found, behind) => building.addMarkup found >>= fun building => readFrom building behind

/-- Text is added up to the next opening bracket. -/
theorem readFrom_eq (building : Building) (input : List Char) :
    readFrom building input =
      (building.addText (input.takeWhile (· != '<')) >>= fun building =>
        readMarked building (input.dropWhile (· != '<'))) := by
  rw [readFrom]
  cases building.addText (input.takeWhile (· != '<')) with
  | error fault => rfl
  | ok building =>
    change _ = readMarked building (input.dropWhile (· != '<'))
    dsimp only
    split
    · next start => rw [start, readMarked]
    · next bracket rest start =>
      rw [start, readMarked]
      split
      · next unread => rw [unread]
      · next found behind read =>
        rw [read]
        dsimp only
        cases building.addMarkup found <;> rfl

/-- Markup is followed by what is behind it. -/
theorem readFrom_bracket {rest behind : List Char} {found : Markup}
    (markup : readMarkup? rest = some (found, behind)) (building : Building) :
    readFrom building ('<' :: rest) =
      (building.addMarkup found >>= fun building => readFrom building behind) := by
  rw [readFrom_eq, List.takeWhile_cons_of_neg (by decide), List.dropWhile_cons_of_neg (by decide)]
  change readMarked building ('<' :: rest) = _
  rw [readMarked, markup]

/-- Text goes up to the next opening bracket. -/
theorem readFrom_append {raw : List Char} (plain : ∀ c ∈ raw, c ≠ '<') (building : Building)
    (rest : List Char) :
    readFrom building (raw ++ '<' :: rest) =
      (building.addText raw >>= fun building => readFrom building ('<' :: rest)) := by
  have noBracket : ∀ c ∈ raw, (c != '<') = true := fun c member => by simpa using plain c member
  have onward (building : Building) :
      readFrom building ('<' :: rest) = readMarked building ('<' :: rest) := by
    rw [readFrom_eq, List.takeWhile_cons_of_neg (by decide), List.dropWhile_cons_of_neg (by decide)]
    rfl
  rw [readFrom_eq, List.takeWhile_append_of_pos noBracket, List.dropWhile_append_of_pos noBracket,
    List.takeWhile_cons_of_neg (by decide), List.dropWhile_cons_of_neg (by decide), List.append_nil]
  simp only [onward]

theorem readFrom_nil (building : Building) : readFrom building [] = building.finish := by
  rw [readFrom_eq]
  rfl

/-! ## What text adds -/

variable {parent : OpenElement} {stack : List OpenElement} {root : Option XmlElement}

/-- An open element with nodes added to its children. -/
def adding (nodes : List XmlNode) (element : OpenElement) : OpenElement :=
  { element with reversed := nodes.reverse ++ element.reversed }

private theorem adding_adding (first second : List XmlNode) (element : OpenElement) :
    adding second (adding first element) = adding (first ++ second) element := by
  simp only [adding, List.reverse_append, List.append_assoc]

/-- Written text adds a text node. -/
theorem addText_escape {text : String} (nonempty : text ≠ "") :
    Building.addText (escape text) ⟨parent :: stack, root⟩ =
      .ok ⟨adding [.text text] parent :: stack, root⟩ := by
  have written : (escape text).isEmpty = false := by
    cases empty : escape text with
    | nil =>
      have back := unescape?_escape text
      rw [empty] at back
      exact absurd (Option.some.inj back).symm nonempty
    | cons => rfl
  simp only [Building.addText, written, Bool.false_eq_true, if_false, unescape?_escape]
  rfl

/-- The text node that a line break is read as. -/
def indentation (breaks : Bool) (depth : Nat) : List XmlNode :=
  if breaks then [.text (String.ofList (lineBreak breaks depth))] else []

/-- A line break is made of characters that stand for themselves. -/
theorem mem_lineBreak {c : Char} {breaks : Bool} {depth : Nat} (member : c ∈ lineBreak breaks depth) :
    c ∈ ['\n', ' '] := by
  unfold lineBreak at member
  split at member
  · rcases List.mem_cons.mp member with rfl | later
    · decide
    · rw [List.eq_of_mem_replicate later]
      decide
  · cases member

private theorem escape_lineBreak (breaks : Bool) (depth : Nat) :
    escape (String.ofList (lineBreak breaks depth)) = lineBreak breaks depth := by
  have blanks : ∀ c ∈ ['\n', ' '], c ∉ escapedChars := forall_mem_of_all (by decide)
  have plain (text : List Char) (inside : ∀ c ∈ text, c ∈ ['\n', ' ']) :
      text.flatMap escapeChar = text := by
    induction text with
    | nil => rfl
    | cons c text ih =>
      have here := escapeChar_of_notMem (blanks c (inside c List.mem_cons_self))
      rw [List.flatMap_cons, here, ih fun d member => inside d (List.mem_cons_of_mem _ member)]
      rfl
  rw [escape, String.toList_ofList]
  exact plain _ fun _ => mem_lineBreak

/-- A line break adds a text node, and no line break adds nothing. -/
theorem addText_lineBreak (breaks : Bool) (depth : Nat) :
    Building.addText (lineBreak breaks depth) ⟨parent :: stack, root⟩ =
      .ok ⟨adding (indentation breaks depth) parent :: stack, root⟩ := by
  cases breaks with
  | false => rfl
  | true =>
    have nonempty : String.ofList (lineBreak true depth) ≠ "" := by
      intro empty
      have sameChars := congrArg String.toList empty
      rw [String.toList_ofList] at sameChars
      cases sameChars
    rw [← escape_lineBreak, addText_escape nonempty]
    rfl

/-- What begins with a line break and a tag is read in two steps. -/
theorem readFrom_lineBreak (breaks : Bool) (depth : Nat) (building : Building) (rest : List Char) :
    readFrom building (lineBreak breaks depth ++ '<' :: rest) =
      (building.addText (lineBreak breaks depth) >>= fun building =>
        readFrom building ('<' :: rest)) := by
  refine readFrom_append (fun c member same => ?_) building rest
  have blank := mem_lineBreak member
  rw [same] at blank
  exact absurd blank (by decide)

/-- Written text is read up to the tag behind it. -/
theorem readFrom_escape {text : String} (nonempty : text ≠ "") (rest : List Char) :
    readFrom ⟨parent :: stack, root⟩ (escape text ++ '<' :: rest) =
      readFrom ⟨adding [.text text] parent :: stack, root⟩ ('<' :: rest) := by
  have plain : ∀ c ∈ escape text, c ≠ '<' := fun _ member => ne_of_mem_escape member (by decide)
  rw [readFrom_append plain, addText_escape nonempty]
  rfl

/-! ## What the nodes of an element add -/

/-- The nodes that are read where the children of an element are written. -/
def readNodes (depth : Nat) (breaks : Bool) : List XmlNode → List XmlNode
  | [] => indentation breaks depth
  | .element element :: rest =>
    indentation breaks (depth + 1) ++ .element element.settled :: readNodes depth true rest
  | .text text :: rest =>
    if text = "" then readNodes depth false rest else .text text :: readNodes depth false rest
  | .cdata text :: rest => .cdata text :: readNodes depth false rest

/-- A line break is blank and no element. -/
theorem isIndentation_of_mem {breaks : Bool} {depth : Nat} {node : XmlNode}
    (member : node ∈ indentation breaks depth) :
    isIndentation node = true ∧ node.isElement = false := by
  unfold indentation at member
  split at member
  · obtain rfl := List.mem_singleton.mp member
    refine ⟨?_, rfl⟩
    have blanks : ∀ c ∈ ['\n', ' '], Text.isBlank c = true := forall_mem_of_all (by decide)
    rw [isIndentation, String.toList_ofList, Text.allBlank, List.all_eq_true]
    exact fun c inside => blanks c (mem_lineBreak inside)
  · cases member

private theorem filter_readNodes (depth : Nat) (breaks : Bool) (children : List XmlNode) :
    (readNodes depth breaks children).filter (!isIndentation ·) =
      (XmlElement.settledNodes children).filter (!isIndentation ·) := by
  have dropped (breaks : Bool) (depth : Nat) :
      (indentation breaks depth).filter (!isIndentation ·) = [] :=
    List.filter_eq_nil_iff.mpr fun node member => by simp [(isIndentation_of_mem member).1]
  induction children generalizing breaks with
  | nil => exact dropped breaks depth
  | cons node rest ih =>
    cases node with
    | element element =>
      simp [readNodes, XmlElement.settledNodes, dropped, ih, List.filter_cons]
    | text text =>
      rw [readNodes, XmlElement.settledNodes]
      split
      · exact ih false
      · simp [ih, List.filter_cons]
    | cdata text => simp [readNodes, XmlElement.settledNodes, ih, List.filter_cons]

private theorem any_readNodes (depth : Nat) (breaks : Bool) (children : List XmlNode) :
    (readNodes depth breaks children).any XmlNode.isElement =
      (XmlElement.settledNodes children).any XmlNode.isElement := by
  have noElement (breaks : Bool) (depth : Nat) :
      (indentation breaks depth).any XmlNode.isElement = false :=
    List.any_eq_false.mpr fun node member => by simp [(isIndentation_of_mem member).2]
  induction children generalizing breaks with
  | nil => exact noElement breaks depth
  | cons node rest ih =>
    cases node with
    | element element =>
      simp [readNodes, XmlElement.settledNodes, noElement, ih, XmlNode.isElement]
    | text text =>
      rw [readNodes, XmlElement.settledNodes]
      split
      · exact ih false
      · simp [ih, XmlNode.isElement]
    | cdata text => simp [readNodes, XmlElement.settledNodes, ih, XmlNode.isElement]

/-- Without child elements there is no line break. -/
theorem readNodes_eq_settledNodes {children : List XmlNode}
    (alone : (XmlElement.settledNodes children).any XmlNode.isElement = false) (depth : Nat) :
    readNodes depth false children = XmlElement.settledNodes children := by
  induction children with
  | nil => rfl
  | cons node rest ih =>
    cases node with
    | element element => cases alone
    | text text =>
      rw [XmlElement.settledNodes] at alone ⊢
      rw [readNodes]
      split at alone
      · next empty => rw [if_pos empty, if_pos empty, ih alone]
      · next written => rw [if_neg written, if_neg written, ih alone]
    | cdata text => rw [readNodes, XmlElement.settledNodes, ih alone]

/-- The line breaks are dropped with the end tag. -/
theorem contentOf_readNodes (node : XmlNode) (rest : List XmlNode) (depth : Nat) :
    contentOf (readNodes depth true (node :: rest)) =
      contentOf (XmlElement.settledNodes (node :: rest)) := by
  rw [contentOf, contentOf, any_readNodes, filter_readNodes]
  split
  · rfl
  · next alone =>
    rw [Bool.not_eq_true] at alone
    have same := readNodes_eq_settledNodes alone depth
    cases node with
    | element element => cases alone
    | text text => exact same
    | cdata text => exact same

/-! ## Elements -/

/-- What is written of children that do not begin with text begins with a bracket. -/
theorem childrenText_bracket {children : List XmlNode}
    (tag : XmlElement.beginsWithText children = false) (name : String) (depth : Nat) :
    ∃ rest, childrenText name depth false children = '<' :: rest := by
  cases children with
  | nil => exact ⟨_, rfl⟩
  | cons node others =>
    cases node with
    | element element =>
      obtain ⟨own, attributes, inner⟩ := element
      rw [childrenText_element]
      cases inner with
      | nil => rw [elementText_nil]; exact ⟨_, rfl⟩
      | cons => rw [elementText_cons]; exact ⟨_, rfl⟩
    | text text => cases tag
    | cdata text => exact ⟨_, rfl⟩

/-- What reading back takes of the nodes of an element. -/
structure ReadableNodes (children : List XmlNode) : Prop where
  below : ∀ child, .element child ∈ children → XmlElement.Throughout XmlElement.Readable child
  cdata : ∀ content, .cdata content ∈ children → (XmlNode.cdata content).Legible
  apart : XmlElement.TextsApart children

private theorem ReadableNodes.tail {node : XmlNode} {rest : List XmlNode}
    (readable : ReadableNodes (node :: rest)) : ReadableNodes rest := by
  obtain ⟨below, cdata, apart⟩ := readable
  refine ⟨fun child member => below child (List.mem_cons_of_mem _ member),
    fun content member => cdata content (List.mem_cons_of_mem _ member), ?_⟩
  cases node with
  | element element => exact apart
  | text text => exact apart.2
  | cdata text => exact apart

mutual

/-- What is written of an element adds what it settles to, behind the line break in front of it. -/
theorem readFrom_elementText : ∀ (element : XmlElement) (depth : Nat) (breaks : Bool),
    XmlElement.Throughout XmlElement.Readable element →
      ∀ (building : Building) (behind : List Char),
        readFrom building (elementText depth breaks element ++ behind) =
          (building.addText (lineBreak breaks depth) >>= fun building =>
            building.addElement element.settled >>= fun building => readFrom building behind)
  | .mk name attributes [], depth, breaks, readable, building, behind => by
    have here := (XmlElement.throughout_mk.mp readable).1
    have tag : readMarkup? (name.toList ++ attributesText attributes ++ '/' :: '>' :: behind) =
        some (.empty name.toList attributes, behind) :=
      readMarkup?_empty here.name here.keys here.distinct behind
    have shape : elementText depth breaks (.mk name attributes []) ++ behind =
        lineBreak breaks depth ++
          '<' :: (name.toList ++ attributesText attributes ++ '/' :: '>' :: behind) := by
      rw [elementText_nil]
      simp
    have whole : XmlElement.mk (String.ofList name.toList) attributes [] =
        (XmlElement.mk name attributes []).settled := by
      rw [String.ofList_toList]
      rfl
    rw [shape, readFrom_lineBreak]
    refine congrArg _ (funext fun building => ?_)
    rw [readFrom_bracket tag, ← whole]
    rfl
  | .mk name attributes (node :: rest), depth, breaks, readable, building, behind => by
    obtain ⟨here, below⟩ := XmlElement.throughout_mk.mp readable
    have tag : readMarkup? (name.toList ++ attributesText attributes ++
        '>' :: (childrenText name depth true (node :: rest) ++ behind)) =
          some (.opening name.toList attributes,
            childrenText name depth true (node :: rest) ++ behind) :=
      readMarkup?_opening here.name here.keys here.distinct _
    have shape : elementText depth breaks (.mk name attributes (node :: rest)) ++ behind =
        lineBreak breaks depth ++ '<' :: (name.toList ++ attributesText attributes ++
          '>' :: (childrenText name depth true (node :: rest) ++ behind)) := by
      rw [elementText_cons]
      simp
    have whole : OpenElement.close (adding (readNodes depth true (node :: rest))
        ⟨name.toList, attributes, []⟩) =
          (XmlElement.mk name attributes (node :: rest)).settled := by
      rw [OpenElement.close, adding, List.append_nil, List.reverse_reverse, String.ofList_toList,
        contentOf_readNodes, XmlElement.settled]
    rw [shape, readFrom_lineBreak]
    refine congrArg _ (funext fun building => ?_)
    rw [readFrom_bracket tag]
    change readFrom ⟨⟨name.toList, attributes, []⟩ :: building.stack, building.root⟩ _ = _
    have wellFormed : isName name = true := here.name
    rw [readFrom_childrenText (node :: rest) depth true rfl wellFormed
      ⟨below, here.cdata, here.apart⟩, whole]

/-- What is written of the children of an element adds the nodes that are read there, and closes
it. -/
theorem readFrom_childrenText : ∀ (children : List XmlNode) (depth : Nat) (breaks : Bool)
    {parent : OpenElement} {name : String}, parent.name = name.toList → isName name = true →
      ReadableNodes children →
        ∀ (stack : List OpenElement) (root : Option XmlElement) (behind : List Char),
          readFrom ⟨parent :: stack, root⟩ (childrenText name depth breaks children ++ behind) =
            (Building.addElement (adding (readNodes depth breaks children) parent).close
              ⟨stack, root⟩ >>= fun building => readFrom building behind)
  | [], depth, breaks, parent, name, called, wellFormed, _, stack, root, behind => by
    have tag := readMarkup?_closing wellFormed behind
    have shape : childrenText name depth breaks [] ++ behind =
        lineBreak breaks depth ++ '<' :: '/' :: (name.toList ++ '>' :: behind) := by
      rw [childrenText_nil]
      simp
    have closed : Building.addMarkup ⟨adding (indentation breaks depth) parent :: stack, root⟩
        (.closing name.toList) =
          Building.addElement (adding (indentation breaks depth) parent).close ⟨stack, root⟩ :=
      if_pos called
    rw [shape, readFrom_lineBreak, addText_lineBreak]
    change readFrom _ ('<' :: '/' :: _) = _
    rw [readFrom_bracket tag, closed, readNodes]
  | .element element :: rest, depth, breaks, parent, name, called, wellFormed, readable, stack, root,
      behind => by
    have kept :
        (adding (indentation breaks (depth + 1) ++ [.element element.settled]) parent).name =
          name.toList := called
    have onward := readFrom_childrenText rest depth true kept wellFormed readable.tail stack root
      behind
    -- The line break in front of the element is a text node of its parent.
    rw [childrenText_element, List.append_assoc, readFrom_elementText element (depth + 1) breaks
      (readable.below element List.mem_cons_self), addText_lineBreak]
    change readFrom ⟨adding [.element element.settled] (adding _ parent) :: stack, root⟩ _ = _
    rw [adding_adding, onward, adding_adding, List.append_assoc, readNodes]
    rfl
  | .text text :: rest, depth, breaks, parent, name, called, wellFormed, readable, stack, root,
      behind => by
    by_cases empty : text = ""
    · have onward := readFrom_childrenText rest depth false called wellFormed readable.tail stack
        root behind
      rw [readNodes, if_pos empty, childrenText_text, empty, ← onward]
      rfl
    -- No text node comes next, so this text ends at a bracket and is read as one node.
    · obtain ⟨after, bracket⟩ := childrenText_bracket readable.apart.1 name depth
      have kept : (adding [.text text] parent).name = name.toList := called
      have onward := readFrom_childrenText rest depth false kept wellFormed readable.tail stack root
        behind
      rw [childrenText_text, List.append_assoc, bracket, List.cons_append, readFrom_escape empty,
        ← List.cons_append, ← bracket, onward, adding_adding, readNodes, if_neg empty]
      rfl
  | .cdata text :: rest, depth, breaks, parent, name, called, wellFormed, readable, stack, root,
      behind => by
    have tag := readMarkup?_cdata (readable.cdata _ List.mem_cons_self)
      (childrenText name depth false rest ++ behind)
    have kept : (adding [.cdata text] parent).name = name.toList := called
    have onward := readFrom_childrenText rest depth false kept wellFormed readable.tail stack root
      behind
    have shape : childrenText name depth breaks (.cdata text :: rest) ++ behind =
        '<' :: '!' :: '[' :: 'C' :: 'D' :: 'A' :: 'T' :: 'A' :: '[' :: (text.toList ++
          ']' :: ']' :: '>' :: (childrenText name depth false rest ++ behind)) := by
      rw [childrenText_cdata]
      simp
    have added : Building.addMarkup ⟨parent :: stack, root⟩ (.cdata text.toList) =
        .ok ⟨adding [.cdata text] parent :: stack, root⟩ := by
      rw [Building.addMarkup, String.ofList_toList]
      rfl
    rw [shape, readFrom_bracket tag, added]
    change readFrom _ _ = _
    rw [onward, adding_adding, readNodes]
    rfl

end

/-! ## Documents -/

private theorem declaration_eq :
    declaration = '<' :: "?xml version=\"1.0\" encoding=\"UTF-8\"?>".toList := by
  decide

/-- The declaration is skipped. -/
theorem readFrom_declaration (building : Building) (rest : List Char) :
    readFrom building (declaration ++ rest) = readFrom building rest := by
  have skipped : readMarkup? ("?xml version=\"1.0\" encoding=\"UTF-8\"?>".toList ++ rest) =
      some (.skipped, rest) := by
    rfl
  rw [declaration_eq, List.cons_append, readFrom_bracket skipped]
  rfl

/-- An element is read back from its document as what it settles to. -/
theorem read_render_settled {root : XmlElement}
    (readable : XmlElement.Throughout XmlElement.Readable root) :
    read (render root) = .ok root.settled := by
  have noMark :
      read (render root) = readFrom ⟨[], none⟩ (declaration ++ elementText 0 true root) := by
    rw [read, render, String.toList_ofList, declaration_eq, List.cons_append]
    split
    · next mark => exact absurd (List.cons.inj mark).1 (by decide)
    · rfl
  have element := readFrom_elementText root 0 true readable ⟨[], none⟩ []
  rw [List.append_nil] at element
  rw [noMark, readFrom_declaration, element]
  change readFrom ⟨[], some root.settled⟩ [] = _
  rw [readFrom_nil]
  rfl

/-- A writable element comes back as it is. -/
theorem read_render {root : XmlElement} (writable : XmlElement.Throughout XmlElement.Writable root) :
    read (render root) = .ok root := by
  rw [read_render_settled fun part within => (writable part within).readable,
    XmlElement.settled_eq_self fun part within => (writable part within).toSound]

end DerivedFields.Xml

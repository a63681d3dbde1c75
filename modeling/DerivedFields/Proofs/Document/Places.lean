import DerivedFields.Path

/-!
# Places in a document

Where a path leads is a matter of the names on it. Two places are apart if neither lies on the way
to the other; the ways to them are the same up to the names that they share.
-/

namespace DerivedFields

/-- A target is the path that its text spells. -/
theorem Path.eq_parse_of_parseTarget {text : String} {target : Path}
    (success : Path.parseTarget text = .ok target) : target = Path.parse text := by
  simp only [Path.parseTarget] at success
  split at success
  · cases success
  · split at success
    · cases success
    · split at success
      · cases success
      · exact (Except.ok.inj success).symm

theorem Path.eq_parse_of_toOption {text : String} {target : Path}
    (success : (Path.parseTarget text).toOption = some target) : target = Path.parse text := by
  cases parsed : Path.parseTarget text with
  | error fault =>
    rw [parsed] at success
    cases success
  | ok path =>
    rw [parsed] at success
    cases success
    exact eq_parse_of_parseTarget parsed

/-- The names on the way that segments describe. -/
def PathSegment.names (segments : List PathSegment) : List String := segments.map PathSegment.name

/-- Neither of two ways is the beginning of the other. -/
def Apart (first second : List String) : Prop := ¬first <+: second ∧ ¬second <+: first

/-- The names that two ways have in common at their beginning. -/
def sharedNames : List String → List String → List String
  | name :: first, other :: second => if name = other then name :: sharedNames first second else []
  | _, _ => []

variable {first second : List String} {name other : String}

namespace Apart

theorem symm (apart : Apart first second) : Apart second first := ⟨apart.2, apart.1⟩

theorem left_ne_nil (apart : Apart first second) : first ≠ [] := by
  rintro rfl
  exact apart.1 List.nil_prefix

theorem right_ne_nil (apart : Apart first second) : second ≠ [] := apart.symm.left_ne_nil

/-- Ways that begin alike are apart behind the name that they begin with. -/
theorem of_cons (apart : Apart (name :: first) (name :: second)) : Apart first second := by
  constructor
  · intro begins
    exact apart.1 (List.cons_prefix_cons.mpr ⟨rfl, begins⟩)
  · intro begins
    exact apart.2 (List.cons_prefix_cons.mpr ⟨rfl, begins⟩)

end Apart

theorem sharedNames_cons_self (name : String) (first second : List String) :
    sharedNames (name :: first) (name :: second) = name :: sharedNames first second := by
  rw [sharedNames, if_pos rfl]

theorem sharedNames_cons_ne (different : name ≠ other) (first second : List String) :
    sharedNames (name :: first) (other :: second) = [] := by
  rw [sharedNames, if_neg different]

/-- The beginnings of what two ways share are the beginnings of both. -/
theorem isPrefix_sharedNames (names first second : List String) :
    names <+: sharedNames first second ↔ names <+: first ∧ names <+: second := by
  induction names generalizing first second with
  | nil => simp only [List.nil_prefix, and_self]
  | cons name names ih =>
    cases first with
    | nil => simp [sharedNames]
    | cons k first =>
      cases second with
      | nil => simp [sharedNames]
      | cons l second =>
        by_cases same : k = l
        · subst same
          rw [sharedNames_cons_self]
          simp only [List.cons_prefix_cons, ih]
          constructor
          · rintro ⟨begins, left, right⟩
            exact ⟨⟨begins, left⟩, begins, right⟩
          · rintro ⟨⟨begins, left⟩, -, right⟩
            exact ⟨begins, left, right⟩
        · rw [sharedNames_cons_ne same]
          simp only [List.cons_prefix_cons, List.prefix_nil, List.cons_ne_nil, false_iff]
          rintro ⟨⟨begins, -⟩, also, -⟩
          exact same (begins.symm.trans also)

end DerivedFields

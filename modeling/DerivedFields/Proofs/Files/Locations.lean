import Mathlib
import DerivedFields.Files.Tree
import DerivedFields.Proofs.Entries

/-!
# Files by their location

Where a path leads depends on the working directory only, not on the files. Creating directories
changes no file, writing changes the one that the path leads to, and removing takes away the files
of a directory that are meant. So what an operation does to the files is said location by location.
-/

namespace DerivedFields

private theorem FileTree.setEntry_eq_writeEntry (location : List String) (entry : FileEntry)
    (entries : List (List String × FileEntry)) :
    setEntry location entry entries = writeEntry location entry entries := by
  induction entries with
  | nil => rfl
  | cons first rest ih =>
    rw [setEntry, writeEntry, ih]
    split
    · next same => rw [same]
    · rfl

/-! ## Where a path leads -/

namespace FilePath

/-- The location that names lead to from a directory on. -/
def locate (base names : List String) : List String :=
  names.foldl
    (fun location name => if name = ".." then location.dropLast else location ++ [name]) base

/-- A name that stands for itself: it is one name, and none that leads elsewhere. -/
structure Plain (name : String) : Prop where
  noSlash : '/' ∉ name.toList
  other : name ≠ "" ∧ name ≠ "." ∧ name ≠ ".."

private theorem names_append_slash (first second : String) :
    names (first ++ "/" ++ second) = names first ++ names second := by
  rw [names, Text.splitAtChar_slash, List.map_append, List.filter_append]
  rfl

variable {name : String}

private theorem Plain.names_eq (plain : Plain name) : names name = [name] := by
  obtain ⟨nonempty, notCurrent, -⟩ := plain.other
  rw [names, Text.splitAtChar_of_notMem plain.noSlash, List.map_singleton, String.ofList_toList,
    List.filter_singleton, bne_iff_ne.mpr nonempty, bne_iff_ne.mpr notCurrent]
  rfl

private theorem Plain.not_isAbsolute (plain : Plain name) : isAbsolute name = false := by
  rw [isAbsolute, beq_eq_false_iff_ne]
  intro slash
  exact plain.noSlash (List.mem_of_head? slash)

/-- What is written behind a path that is not empty does not change where it starts. -/
theorem isAbsolute_append {directory : String} (nonempty : directory ≠ "") (rest : String) :
    isAbsolute (directory ++ rest) = isAbsolute directory := by
  have some : directory.toList ≠ [] := fun empty => nonempty (String.toList_eq_nil_iff.mp empty)
  rw [isAbsolute, isAbsolute, String.toList_append, List.head?_append_of_ne_nil _ some]

/-- A plain name in a directory comes behind the names of the directory. -/
theorem Plain.names_join (plain : Plain name) (directory : String) :
    names (join directory name) = names directory ++ [name] := by
  rw [join, plain.not_isAbsolute, Bool.false_or]
  split
  · next empty =>
    rw [of_decide_eq_true empty, plain.names_eq]
    rfl
  · split
    · next slash =>
      obtain ⟨start, ends⟩ := List.getLast?_eq_some_iff.mp slash
      have written : directory = String.ofList start ++ "/" := by
        rw [← String.toList_inj, ends, String.toList_append, String.toList_ofList]
        rfl
      have own : names directory = names (String.ofList start) := by
        have split := names_append_slash (String.ofList start) ""
        rw [String.append_empty, ← written] at split
        rw [split]
        exact List.append_nil _
      rw [own, written, names_append_slash, plain.names_eq]
    · rw [names_append_slash, plain.names_eq]

/-- A plain name in a directory starts where the directory does. -/
theorem Plain.isAbsolute_join (plain : Plain name) (directory : String) :
    isAbsolute (join directory name) = isAbsolute directory := by
  rw [join, plain.not_isAbsolute, Bool.false_or]
  split
  · next empty =>
    rw [of_decide_eq_true empty, plain.not_isAbsolute]
    rfl
  · next nonempty =>
    have nonempty : directory ≠ "" := fun empty => nonempty (decide_eq_true empty)
    split
    · exact isAbsolute_append nonempty name
    · rw [String.append_assoc, isAbsolute_append nonempty]

end FilePath

namespace FileTree

/-- The location that a path leads to if the directories on its way are there. -/
def location (tree : FileTree) (path : String) : List String :=
  FilePath.locate (tree.base path) (FilePath.names path)

/-- The text of the file at a location. -/
def content? (tree : FileTree) (location : List String) : Option String :=
  match tree.entry? location with
  | some (.file content) => some content
  | some .directory | none => none

/-- The same files in the same working directory; there may be other directories. -/
structure SameFiles (first second : FileTree) : Prop where
  current : second.current = first.current
  content : ∀ location, second.content? location = first.content? location

end FileTree

/-- Where a place is, if it is anywhere. -/
def Place.LiesAt (location : List String) : Place → Prop
  | .directory place => place = location
  | .file place _ | .vacant place => place = location ∧ place ≠ []
  | .nowhere _ => True

namespace FileTree

variable {tree after : FileTree}

/-- A walk ends where its names lead, if it ends anywhere. -/
theorem walk_liesAt (tree : FileTree) (base names : List String) :
    (tree.walk base names).LiesAt (FilePath.locate base names) := by
  fun_induction walk tree base names with
  | case1 base => rfl
  | case2 base rest ih =>
    rw [FilePath.locate, List.foldl_cons, if_pos rfl]
    exact ih
  | case3 | case6 | case8 => trivial
  | case4 base name up _ location rest _ ih =>
    rw [FilePath.locate, List.foldl_cons, if_neg up]
    exact ih
  | case5 base name up _ location | case7 base name up _ location =>
    rw [FilePath.locate, List.foldl_cons, if_neg up]
    exact ⟨rfl, List.append_ne_nil_of_right_ne_nil _ (List.cons_ne_nil _ _)⟩

private theorem find_liesAt (tree : FileTree) (path : String) :
    (tree.find path).LiesAt (tree.location path) := by
  have reached := tree.walk_liesAt (tree.base path) (FilePath.names path)
  rw [find]
  split
  · trivial
  · split
    · trivial
    · trivial
    · exact reached

/-- A plain name in a directory leads directly into the directory. -/
theorem location_join (tree : FileTree) (directory : String) {name : String}
    (plain : FilePath.Plain name) :
    tree.location (FilePath.join directory name) = tree.location directory ++ [name] := by
  have start : tree.base (FilePath.join directory name) = tree.base directory := by
    rw [base, base, plain.isAbsolute_join]
  rw [location, location, start, plain.names_join, FilePath.locate, FilePath.locate,
    List.foldl_concat, if_neg plain.other.2.2]

/-! ## What the operations do -/

private theorem entry?_eq_lookup (tree : FileTree) {location : List String} (below : location ≠ []) :
    tree.entry? location = tree.entries.lookup location := by
  obtain ⟨name, rest, rfl⟩ := List.exists_cons_of_ne_nil below
  rfl

private theorem entry?_set_self {location : List String} (below : location ≠ []) (entry : FileEntry) :
    entry? (tree.set location entry) location = some entry := by
  rw [entry?_eq_lookup _ below, set, setEntry_eq_writeEntry, lookup_writeEntry_self]

private theorem entry?_set_ne {location other : List String} (different : other ≠ location)
    (entry : FileEntry) : entry? (tree.set location entry) other = tree.entry? other := by
  cases other with
  | nil => rfl
  | cons name rest =>
    simp only [set, entry?, setEntry_eq_writeEntry]
    exact lookup_writeEntry_ne different entry tree.entries

private theorem SameFiles.refl (tree : FileTree) : tree.SameFiles tree := ⟨rfl, fun _ => rfl⟩

private theorem SameFiles.trans {first second third : FileTree} (before : first.SameFiles second)
    (behind : second.SameFiles third) : first.SameFiles third :=
  ⟨behind.current.trans before.current,
    fun location => (behind.content location).trans (before.content location)⟩

/-- Paths lead to the same locations. -/
theorem location_congr (same : after.current = tree.current) : after.location = tree.location := by
  funext path
  rw [location, location, base, base, same]

/-- A directory that was not there is no file. -/
theorem sameFiles_directory {location : List String} (absent : tree.entry? location = none) :
    tree.SameFiles (tree.set location .directory) := by
  refine ⟨rfl, fun other => ?_⟩
  by_cases same : other = location
  · have below : location ≠ [] := by
      rintro rfl
      cases absent
    rw [same, content?, entry?_set_self below, content?, absent]
  · rw [content?, entry?_set_ne same, content?]

private theorem sameFiles_createBelow (tree : FileTree) (base names : List String) :
    tree.SameFiles (tree.createBelow base names).2 := by
  fun_induction createBelow tree base names with
  | case1 | case3 | case5 | case6 => exact .refl _
  | case2 tree base rest ih => exact ih
  | case4 tree base name up _ location rest _ ih => exact ih
  | case7 tree base name up _ location rest absent ih => exact (sameFiles_directory absent).trans ih

/-- Creating a directory leaves all files as they are, also where it fails on the way. -/
theorem sameFiles_createDirectory (tree : FileTree) (path : String) :
    tree.SameFiles (tree.createDirectory path).2 := by
  have created (names : List String) := sameFiles_createBelow tree (tree.base path) names
  rw [createDirectory]
  split
  · exact .refl tree
  · split
    · exact .refl tree
    · dsimp only
      split
      · have above := created (FilePath.names path).dropLast
        rcases ran : tree.createBelow (tree.base path) (FilePath.names path).dropLast with
          ⟨fault | ⟨⟩, after⟩
        · rw [ran] at above
          exact above
        · rw [ran] at above
          cases found : after.find path <;> simp only [found] <;> exact above
      · exact created _

/-- A file that is written is there with its text, and all others stay. -/
theorem content?_write {path content : String} (success : tree.write path content = .ok after) :
    after.current = tree.current ∧ after.content? (tree.location path) = some content ∧
      ∀ other, other ≠ tree.location path → after.content? other = tree.content? other := by
  have lies := tree.find_liesAt path
  rw [write] at success
  have wrote {location : List String} (lies : location = tree.location path ∧ location ≠ [])
      (same : tree.set location (.file content) = after) :
      after.current = tree.current ∧ after.content? (tree.location path) = some content ∧
        ∀ other, other ≠ tree.location path → after.content? other = tree.content? other := by
    obtain ⟨rfl, below⟩ := lies
    subst same
    refine ⟨rfl, ?_, fun other different => ?_⟩
    · rw [content?, entry?_set_self below]
    · rw [content?, entry?_set_ne different, content?]
  split at success
  · next found =>
    rw [found] at lies
    exact wrote lies (Except.ok.inj success)
  · next found =>
    rw [found] at lies
    exact wrote lies (Except.ok.inj success)
  · cases success
  · cases success

/-- A location directly in a directory, with a name that is meant. -/
def IsIn (directory : List String) (matching : String → Bool) (location : List String) : Prop :=
  ∃ name, location = directory ++ [name] ∧ matching name = true

private theorem isFileIn_file {directory location : List String} {matching : String → Bool}
    {content : String} :
    isFileIn directory matching (location, .file content) = true ↔
      IsIn directory matching location := by
  rw [isFileIn]
  split
  · next last =>
    obtain ⟨above, rfl⟩ := List.getLast?_eq_some_iff.mp last
    rw [List.dropLast_concat, Bool.and_eq_true, beq_iff_eq]
    constructor
    · rintro ⟨rfl, meant⟩
      exact ⟨_, rfl, meant⟩
    · rintro ⟨name, same, meant⟩
      obtain ⟨rfl, last⟩ := List.append_inj' same rfl
      obtain rfl := List.singleton_inj.mp last
      exact ⟨rfl, meant⟩
  · next none =>
    refine ⟨Bool.noConfusion, ?_⟩
    rintro ⟨name, rfl, -⟩
    exact (none content name rfl List.getLast?_concat).elim

/-- Files that are meant are gone from their directory, and all others stay. -/
theorem content?_removeFiles {path : String} {matching : String → Bool}
    (success : tree.removeFiles path matching = .ok after) :
    after.current = tree.current ∧
      (∀ location, IsIn (tree.location path) matching location →
        after.content? location = none) ∧
      ∀ location, ¬IsIn (tree.location path) matching location →
        after.content? location = tree.content? location := by
  have lies := tree.find_liesAt path
  rw [removeFiles] at success
  split at success
  · next place found =>
    rw [found] at lies
    obtain rfl : place = tree.location path := lies
    cases success
    refine ⟨rfl, ?_, ?_⟩
    · rintro _ ⟨name, rfl, meant⟩
      have below : tree.location path ++ [name] ≠ [] :=
        List.append_ne_nil_of_right_ne_nil _ (List.cons_ne_nil _ _)
      rw [content?, entry?_eq_lookup _ below]
      split
      · next content found =>
        -- a file that is found was not filtered out
        obtain ⟨before, behind, split, -⟩ := List.lookup_eq_some_iff.mp found
        have member := split ▸ List.mem_append_right before List.mem_cons_self
        have kept := (List.mem_filter.mp member).2
        rw [isFileIn_file.mpr ⟨name, rfl, meant⟩] at kept
        cases kept
      · rfl
      · rfl
    · intro location other
      by_cases root : location = []
      · rw [root]
        rfl
      · rw [content?, content?, entry?_eq_lookup _ root, entry?_eq_lookup _ root, lookup_filter]
        intro entry member
        cases entry with
        | directory => rfl
        | file content =>
          rw [Bool.not_eq_true', Bool.eq_false_iff]
          exact fun meant => other (isFileIn_file.mp meant)
  · cases success
  · cases success
  · cases success

end FileTree

end DerivedFields

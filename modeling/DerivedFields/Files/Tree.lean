import DerivedFields.Files.Path
import DerivedFields.Files.Fault

/-!
# File trees

The files and directories that a program works on, as a value. An entry has the names from the root
down to it, and every operation answers what a file system would: a file is written only into a
directory that exists, and nothing is below a file.
-/

namespace DerivedFields

inductive FileEntry
  | file (content : String)
  | directory
  deriving DecidableEq

/-- The entries below the root, each location once, and the location of the working directory. -/
structure FileTree where
  entries : List (List String × FileEntry)
  current : List String
  deriving DecidableEq

/-- What a path leads to. Something vacant does not exist, but the directory for it does. -/
inductive Place
  | directory (location : List String)
  | file (location : List String) (content : String)
  | vacant (location : List String)
  | nowhere (fault : FileFault)
  deriving DecidableEq

namespace FileTree

/-- The entry at a location; the root is a directory. -/
def entry? (tree : FileTree) : List String → Option FileEntry
  | [] => some .directory
  | location => tree.entries.lookup location

/-- Entries with the one at a location replaced or added. -/
def setEntry (location : List String) (entry : FileEntry) :
    List (List String × FileEntry) → List (List String × FileEntry)
  | [] => [(location, entry)]
  | (other, old) :: rest =>
    if other = location then (location, entry) :: rest
    else (other, old) :: setEntry location entry rest

def set (tree : FileTree) (location : List String) (entry : FileEntry) : FileTree :=
  { tree with entries := setEntry location entry tree.entries }

/-- Follows names from a directory on. -/
def walk (tree : FileTree) (base : List String) : List String → Place
  | [] => .directory base
  | name :: rest =>
    if name = ".." then walk tree base.dropLast rest
    else if FilePath.nameLimit < name.utf8ByteSize then .nowhere .nameTooLong
    else
      let location := base ++ [name]
      match tree.entry? location, rest with
      | some .directory, rest => walk tree location rest
      | some (.file content), [] => .file location content
      | some (.file _), _ :: _ => .nowhere .notDirectory
      | none, [] => .vacant location
      | none, _ :: _ => .nowhere .missing

/-- The directory that a path starts from. -/
def base (tree : FileTree) (path : String) : List String :=
  if FilePath.isAbsolute path then [] else tree.current

/-- What a path leads to. -/
def find (tree : FileTree) (path : String) : Place :=
  match FilePath.fault? path with
  | some fault => .nowhere fault
  | none =>
    match tree.walk (tree.base path) (FilePath.names path), FilePath.namesDirectory path with
    | .file _ _, true => .nowhere .notDirectory
    | .vacant _, true => .nowhere .missing
    | place, _ => place

/-- The text of a file. -/
def read (tree : FileTree) (path : String) : Resource :=
  match tree.find path with
  | .file _ content => .text content
  | .vacant _ | .nowhere .missing => .missing
  | .directory _ => .unreadable .isDirectory
  | .nowhere fault => .unreadable fault

/-- The tree with a file written. -/
def write (tree : FileTree) (path content : String) : Except FileFault FileTree :=
  match tree.find path with
  | .file location _ | .vacant location => .ok (tree.set location (.file content))
  | .directory _ => .error .isDirectory
  | .nowhere fault => .error fault

/-- Creates the directories on a way that are missing, up to the first fault. -/
def createBelow (tree : FileTree) (base : List String) :
    List String → Except FileFault Unit × FileTree
  | [] => (.ok (), tree)
  | name :: rest =>
    if name = ".." then createBelow tree base.dropLast rest
    else if FilePath.nameLimit < name.utf8ByteSize then (.error .nameTooLong, tree)
    else
      let location := base ++ [name]
      match tree.entry? location, rest with
      | some .directory, rest => createBelow tree location rest
      | some (.file _), [] => (.error .taken, tree)
      | some (.file _), _ :: _ => (.error .notDirectory, tree)
      | none, rest => createBelow (tree.set location .directory) location rest

/-- Creates a directory with all directories above it. The empty path is there as it is, and a
directory that ends in the name of the current one is not created itself. -/
def createDirectory (tree : FileTree) (path : String) : Except FileFault Unit × FileTree :=
  if path = "" then (.ok (), tree)
  else match FilePath.fault? path with
    | some fault => (.error fault, tree)
    | none =>
      let names := FilePath.names path
      if FilePath.endsInCurrent path then
        match tree.createBelow (tree.base path) names.dropLast with
        | (.error fault, tree) => (.error fault, tree)
        | (.ok (), tree) =>
          match tree.find path with
          | .nowhere fault => (.error fault, tree)
          | _ => (.ok (), tree)
      else tree.createBelow (tree.base path) names

/-- A file directly in a directory whose name satisfies a condition. -/
def isFileIn (directory : List String) (matching : String → Bool)
    (entry : List String × FileEntry) : Bool :=
  match entry.2, entry.1.getLast? with
  | .file _, some name => entry.1.dropLast == directory && matching name
  | _, _ => false

/-- The tree without the files of a directory whose names satisfy a condition. -/
def removeFiles (tree : FileTree) (path : String) (matching : String → Bool) :
    Except FileFault FileTree :=
  match tree.find path with
  | .directory location =>
    .ok { tree with entries := tree.entries.filter (!isFileIn location matching ·) }
  | .file .. => .error .notDirectory
  | .vacant _ => .error .missing
  | .nowhere fault => .error fault

/-- The files of the tree with their locations. -/
def files (tree : FileTree) : List (List String × String) :=
  tree.entries.filterMap fun (location, entry) =>
    match entry with
    | .file content => some (location, content)
    | .directory => none

end FileTree

end DerivedFields

import DerivedFields.Command.Outcome

/-!
# The program

Loads the files that a command looks at, carries it out, and writes back what has changed.
-/

namespace DerivedFields.Program

/-- The path from the root of a location. -/
def absolutePath (location : List String) : String := "/" ++ "/".intercalate location

/-- Loads the directories on a way and, at its end, a file or a directory. -/
def loadNames (tree : FileTree) (base : List String) : List String → IO FileTree
  | [] => return tree
  | name :: rest => do
    if name = ".." then loadNames tree base.dropLast rest
    else
      let location := base ++ [name]
      let root ← IO.FS.realPath "/"
      let path := root / absolutePath location
      if ← path.isDir then loadNames (tree.set location .directory) location rest
      else if rest.isEmpty && (← path.pathExists) then
        return tree.set location (.file (← IO.FS.readFile path))
      else return tree

/-- Loads what is at a path. -/
def loadFile (tree : FileTree) (path : String) : IO FileTree :=
  if (FilePath.fault? path).isSome then return tree
  else loadNames tree (tree.base path) (FilePath.names path)

/-- Loads the files of a directory. -/
def loadDirectory (tree : FileTree) (path : String) : IO FileTree := do
  let tree ← loadFile tree path
  match tree.find path with
  | .directory location =>
    let root ← IO.FS.realPath "/"
    let entries ← (root / absolutePath location).readDir
    entries.toList.foldlM (fun tree entry => loadFile tree (FilePath.join path entry.fileName)) tree
  | _ => return tree

/-- Loads what a command looks at. -/
def load (command : Command) (start : FileTree) : IO FileTree := do
  let tree ← (command.footprint start).files.foldlM loadFile start
  (command.footprint tree).directories.foldlM loadDirectory tree

/-- Writes back the files and directories that differ from those loaded. -/
def store (before after : FileTree) : IO Unit := do
  for (location, entry) in after.entries do
    if before.entry? location != some entry then
      match entry with
      | .directory => IO.FS.createDirAll (absolutePath location)
      | .file content => IO.FS.writeFile (absolutePath location) content
  for (location, _) in before.files do
    if (after.entry? location).isNone then IO.FS.removeFile (absolutePath location)

/-- The text that is piped in; nothing if there is a terminal instead. -/
def pipedText : IO (Option String) := do
  let stdin ← IO.getStdin
  if ← stdin.isTty then return none
  else
    let mut text := ""
    repeat
      let line ← stdin.getLine
      if line.isEmpty then break
      text := text ++ line
    return some text

/-- Piped text is read for an evaluation without an input file only. -/
def inputText : Command → IO (Option String)
  | .eval options => if options.input.isSome then return none else pipedText
  | _ => return none

end DerivedFields.Program

open DerivedFields in
/-- Carries out the command line. -/
def main (arguments : List String) : IO UInt32 := do
  let here ← IO.currentDir
  let start : FileTree := ⟨[], FilePath.names here.toString⟩
  let start ← Program.loadFile start "."
  let before ← match Command.parse? arguments with
    | some command => Program.load command start
    | none => pure start
  let stdin ← match Command.parse? arguments with
    | some command => Program.inputText command
    | none => pure none
  let outcome := Command.executeLine arguments stdin before
  Program.store before outcome.files
  IO.print outcome.stdout
  IO.eprint outcome.stderr
  return outcome.code.toUInt32

import DerivedFields.Command.Error
import DerivedFields.Files.Tables
import DerivedFields.Pipeline.Definition
import DerivedFields.Pipeline.Run
import DerivedFields.RunConfig

/-!
# Running a pipeline on files

Definition, input and tables are files, and so is the result. With a directory for snapshots, the
document of each node is there after every instruction; snapshots of earlier runs are removed
first.
-/

namespace DerivedFields

/-- The file names of snapshots: those with the extension of a document format. -/
def isSnapshotName (name : String) : Bool :=
  match Format.extension? name.toList with
  | some extension => extension == ['j', 's', 'o', 'n'] || extension == ['x', 'm', 'l']
  | none => false

/-- The file of a node in the directory for snapshots. -/
def snapshotPath (directory : String) (format : Format) (node : Nat) : String :=
  FilePath.join directory ("node_" ++ toString node ++ "." ++ format.extension)

/-- Empties the directory for snapshots of those of earlier runs. -/
def startSnapshots (directory : String) (files : FileTree) : Except Failure Unit × FileTree :=
  match files.createDirectory directory with
  | (.error fault, files) => (.error (.file directory fault), files)
  | (.ok (), files) =>
    match files.removeFiles directory isSnapshotName with
    | .ok files => (.ok (), files)
    | .error fault => (.error (.file directory fault), files)

/-- Writes a text to a file. -/
def writeText (path text : String) (files : FileTree) : Except Failure Unit × FileTree :=
  match files.write path text with
  | .ok files => (.ok (), files)
  | .error fault => (.error (.file path fault), files)

/-- Writes snapshots into a directory, one file for each node. -/
def Sink.toDirectory (directory : String) (format : Format) : Sink FileTree where
  start := startSnapshots directory
  record point document files :=
    writeText (snapshotPath directory format point.node) document.render files

/-- Drops all snapshots and leaves the files alone. -/
def Sink.ignore : Sink FileTree := ⟨fun files => (.ok (), files), fun _ _ files => (.ok (), files)⟩

/-- The files of a run. -/
structure RunRequest where
  pipeline : String
  input : String
  output : Option String
  format : Option Format
  config : RunConfig
  deriving DecidableEq

/-- The text of a file. -/
def readText (files : FileTree) (path : String) : Except Failure String :=
  match files.read path with
  | .text content => .ok content
  | .missing => .error (.file path .missing)
  | .unreadable fault => .error (.file path fault)

def loadPipeline (files : FileTree) (path : String) : Except Failure Pipeline := do
  match Pipeline.read? (← readText files path) with
  | some pipeline => .ok pipeline
  | none => .error .configuration

/-- Reads a document; without a format the extension of the file decides. -/
def loadDocument (files : FileTree) (path : String) (format : Option Format) :
    Except Failure Document := do
  (Document.parse (← readText files path) (format.getD (.ofPath path))).mapError .document

def loadConfig (files : FileTree) (path : String) : Except Failure RunConfig := do
  match RunConfig.read? (← readText files path) with
  | some config => .ok config
  | none => .error .configuration

/-- Writes the result of a run, creating the directories above it. -/
def writeDocument (path : String) (document : Document) (files : FileTree) :
    Except Failure Unit × FileTree :=
  let parent := FilePath.parent path
  match files.createDirectory parent with
  | (.error fault, files) => (.error (.file parent fault), files)
  | (.ok (), files) => writeText path document.render files

namespace RunRequest

/-- The sink that the configuration asks for. -/
def sink (request : RunRequest) (format : Format) : Sink FileTree :=
  match request.config.intermediateDirectory with
  | some directory => .toDirectory directory format
  | none => .ignore

/-- Runs the pipeline on the files. The tables are those that are there once the directory for
snapshots is ready. -/
def execute (request : RunRequest) (files : FileTree) :
    Except Failure (Document × List Warning) × FileTree :=
  match do
    let pipeline ← loadPipeline files request.pipeline
    let input ← loadDocument files request.input request.format
    pure (pipeline, input)
  with
  | .error failure => (.error failure, files)
  | .ok (pipeline, input) =>
    let sink := request.sink input.format
    let tables := (sink.start files).2.tablesIn request.config.tablesDirectory
    match pipeline.run (.standard request.config.settings) (.ofSource tables) input sink files with
    | (.error failure, files) => (.error failure, files)
    | (.ok (document, warnings), files) =>
      match request.output with
      | none => (.ok (document, warnings), files)
      | some path =>
        match writeDocument path document files with
        | (.error failure, files) => (.error failure, files)
        | (.ok (), files) => (.ok (document, warnings), files)

end RunRequest

end DerivedFields

import DerivedFields.Command.Check
import DerivedFields.Command.Line
import DerivedFields.Command.Reference
import DerivedFields.Command.Run

/-!
# Commands

What a command prints, the status that it ends with and the files that it leaves, as a function of
the files that it finds and the text that is piped in.
-/

namespace DerivedFields

/-- What a command does to the outside. -/
structure CommandOutcome where
  code : Nat
  stdout : String
  stderr : String
  files : FileTree

namespace CommandOutcome

/-- A command that ends well. -/
def success (stdout : String) (files : FileTree) : CommandOutcome := ⟨0, stdout, "", files⟩

/-- A command that is stopped by an error. -/
def failed (error : CommandError) (files : FileTree) : CommandOutcome :=
  ⟨error.exitCode, "", error.message ++ "\n", files⟩

def ofResult (result : Except CommandError String) (files : FileTree) : CommandOutcome :=
  match result with
  | .ok stdout => success stdout files
  | .error error => failed error files

end CommandOutcome

def CheckResult.text : CheckResult → String
  | .valid => "Syntax is valid"
  | .value result => result.toText

/-- The standard settings, under the strict discipline if it is asked for. -/
def Settings.withDiscipline (strict : Bool) : Settings :=
  { Settings.standard with discipline := if strict then .strict else .coercive }

namespace EvalOptions

/-- The text of the document and its format: of a file as its extension says, of piped text XML if
it begins with a bracket. -/
def document (options : EvalOptions) (stdin : Option String) (files : FileTree) :
    Except CommandError (Option String × Option Format) :=
  match options.input, stdin with
  | some path, _ =>
    ((readText files path).mapError .failure).map fun content =>
      (some content, some (options.format.getD (.ofPath path)))
  | none, some content =>
    let guessed : Option Format :=
      if (Text.trimStart content.toList).head? = some '<' then some .xml else none
    .ok (some content, options.format <|> guessed)
  | none, none => .ok (none, options.format)

def execute (options : EvalOptions) (stdin : Option String) (files : FileTree) :
    Except CommandError String := do
  let (input, format) ← options.document stdin files
  let request : CheckRequest := {
    script := options.script
    input, format
    settings := .withDiscipline options.strict
    tables := files.tablesIn options.tables
    syntaxOnly := false }
  .ok ((← request.execute).text ++ "\n")

end EvalOptions

/-- Checks the syntax of a script. -/
def checkSyntax (script : String) : Except CommandError String := do
  let request : CheckRequest := {
    script
    input := none
    format := none
    settings := .standard
    tables := .empty
    syntaxOnly := true }
  .ok ((← request.execute).text ++ "\n")

namespace RunOptions

/-- The configuration of a run: that of the file, as far as no option says otherwise. -/
def configuration (options : RunOptions) (files : FileTree) : Except Failure RunConfig := do
  let config ← match options.config with
    | some path => loadConfig files path
    | none => .ok .standard
  .ok {
    settings :=
      if options.strict then { config.settings with discipline := .strict } else config.settings
    tablesDirectory := options.tables <|> config.tablesDirectory
    intermediateDirectory := options.intermediate <|> config.intermediateDirectory }

def execute (options : RunOptions) (files : FileTree) : CommandOutcome :=
  match options.configuration files with
  | .error failure => .failed (.failure failure) files
  | .ok config =>
    let request : RunRequest :=
      ⟨options.pipeline, options.input, options.output, options.format, config⟩
    match request.execute files with
    | (.error failure, files) => .failed (.failure failure) files
    | (.ok (document, warnings), files) => {
      code := 0
      stdout := if options.output.isNone then document.render ++ "\n" else ""
      stderr := String.join (warnings.map fun warning => "warning: " ++ warning.message ++ "\n")
      files }

end RunOptions

/-- The files that a command looks at, and the directories whose files it may look at. -/
structure Footprint where
  files : List String
  directories : List String

/-- The directories that hold the tables of a directory. -/
def tableDirectories (directory : Option String) : List String :=
  (directory.map fun directory =>
    [FilePath.join directory "LookupConfigs", FilePath.join directory "Lookups"]).getD []

namespace Command

/-- What a command looks at, as far as the files known so far tell. The configuration of a run is
itself a file, and names further directories. -/
def footprint (files : FileTree) : Command → Footprint
  | .eval options => ⟨options.input.toList, tableDirectories options.tables⟩
  | .run options =>
    let directories := match options.configuration files with
      | .ok config =>
        config.intermediateDirectory.toList ++ tableDirectories config.tablesDirectory
      | .error _ => []
    ⟨[options.pipeline, options.input] ++ options.output.toList ++ options.config.toList,
      directories⟩
  | _ => ⟨[], []⟩

/-- Carries out a command. -/
def execute (stdin : Option String) (files : FileTree) : Command → CommandOutcome
  | .check script => .ofResult (checkSyntax script) files
  | .eval options => .ofResult (options.execute stdin files) files
  | .run options => options.execute files
  | .functions => .success (Documentation.functionReference .builtin none) files
  | .docs => .success Documentation.overview files
  | .doc category => .ofResult (Documentation.page .builtin category) files
  | .version => .success "quill 0.1.0\n" files

/-- Carries out a command line. -/
def executeLine (arguments : List String) (stdin : Option String) (files : FileTree) :
    CommandOutcome :=
  match parse? arguments with
  | some command => command.execute stdin files
  | none => ⟨2, "", "error: the command line is wrong\n", files⟩

end Command

end DerivedFields

import Mathlib
import DerivedFields.Proofs.Files.Snapshots

/-!
# The files that a run leaves

A run with a directory for snapshots leaves a file for each node there, which holds the document of
the last point that the run came to in the node, and no snapshots of earlier runs. A run that
succeeds also writes the result, one that fails at an instruction does not. All other files are as
they were before.
-/

namespace DerivedFields

/-! ## Loading and writing -/

/-- A failure for which no instruction is to blame. -/
def Failure.Outside (failure : Failure) : Prop :=
  ∀ node position path cause, failure ≠ .instruction node position path cause

private theorem readText_error {files : FileTree} {path : String} {failure : Failure}
    (failed : readText files path = .error failure) : failure.Outside := by
  rw [readText] at failed
  split at failed <;> cases failed <;> exact nofun

private theorem loadPipeline_error {files : FileTree} {path : String} {failure : Failure}
    (failed : loadPipeline files path = .error failure) : failure.Outside := by
  rw [loadPipeline] at failed
  cases read : readText files path with
  | error cause =>
    rw [read] at failed
    cases failed
    exact readText_error read
  | ok text =>
    rw [read] at failed
    simp only [bind, Except.bind] at failed
    split at failed <;> cases failed
    exact nofun

private theorem loadDocument_error {files : FileTree} {path : String} {format : Option Format}
    {failure : Failure} (failed : loadDocument files path format = .error failure) :
    failure.Outside := by
  rw [loadDocument] at failed
  cases read : readText files path with
  | error cause =>
    rw [read] at failed
    cases failed
    exact readText_error read
  | ok text =>
    rw [read] at failed
    simp only [bind, Except.bind] at failed
    cases parsed : Document.parse text (format.getD (.ofPath path)) with
    | error cause =>
      rw [parsed] at failed
      cases failed
      exact nofun
    | ok document =>
      rw [parsed] at failed
      cases failed

/-- A result that is written is in its file, and all other files stay. -/
theorem writeDocument_ok {path : String} {document : Document} {files after : FileTree}
    (success : writeDocument path document files = (.ok (), after)) :
    after.content? (files.location path) = some document.render ∧
      ∀ location, location ≠ files.location path →
        after.content? location = files.content? location := by
  have created := files.sameFiles_createDirectory (FilePath.parent path)
  rw [writeDocument] at success
  generalize files.createDirectory (FilePath.parent path) = made at created success
  rcases made with ⟨fault | ⟨⟩, ready⟩
  · cases success
  · rcases writeText_cases path document.render ready with ⟨last, ran, wrote⟩ | ⟨fault, ran⟩
    · obtain rfl : last = after := congrArg Prod.snd (ran.symm.trans success)
      obtain ⟨-, here, others⟩ := FileTree.content?_write wrote
      rw [FileTree.location_congr created.current] at here others
      exact ⟨here, fun location other => (others location other).trans (created.content location)⟩
    · cases ran.symm.trans success

private theorem writeDocument_error {path : String} {document : Document} {files after : FileTree}
    {failure : Failure} (failed : writeDocument path document files = (.error failure, after)) :
    failure.Outside := by
  rw [writeDocument] at failed
  generalize files.createDirectory (FilePath.parent path) = made at failed
  rcases made with ⟨fault | ⟨⟩, ready⟩
  · cases failed
    exact nofun
  · rcases writeText_cases path document.render ready with ⟨last, ran, wrote⟩ | ⟨fault, ran⟩
    · cases ran.symm.trans failed
    · cases ran.symm.trans failed
      exact nofun

namespace RunRequest

variable {request : RunRequest} {files : FileTree} {directory : String}

/-- The tables of a run: those that are there once the directory for snapshots is ready. -/
def tables (request : RunRequest) (format : Format) (files : FileTree) : TableSource :=
  ((request.sink format).start files).2.tablesIn request.config.tablesDirectory

/-- The pipeline and the input that a request names, as they are read. -/
structure Loads (request : RunRequest) (files : FileTree) (pipeline : Pipeline)
    (input : Document) : Prop where
  pipeline : loadPipeline files request.pipeline = .ok pipeline
  input : loadDocument files request.input request.format = .ok input

/-- What the pipeline of a request does to the files. -/
def runPipeline (request : RunRequest) (files : FileTree) (pipeline : Pipeline)
    (input : Document) : Except Failure (Document × List Warning) × FileTree :=
  pipeline.run (.standard request.config.settings) (.ofSource (request.tables input.format files))
    input (request.sink input.format) files

/-- A run needs a pipeline and an input. What is left to do then is to write the result. -/
theorem execute_cases (request : RunRequest) (files : FileTree) :
    (∃ failure, request.execute files = (.error failure, files) ∧ failure.Outside) ∨
      ∃ pipeline input, request.Loads files pipeline input ∧
        request.execute files =
          match request.runPipeline files pipeline input with
          | (.error failure, told) => (.error failure, told)
          | (.ok (document, warnings), told) =>
            match request.output with
            | none => (.ok (document, warnings), told)
            | some path =>
              match writeDocument path document told with
              | (.error failure, after) => (.error failure, after)
              | (.ok (), after) => (.ok (document, warnings), after) := by
  rw [execute]
  cases loaded : loadPipeline files request.pipeline with
  | error failure => exact .inl ⟨failure, rfl, loadPipeline_error loaded⟩
  | ok pipeline =>
    cases read : loadDocument files request.input request.format with
    | error failure => exact .inl ⟨failure, rfl, loadDocument_error read⟩
    | ok input => exact .inr ⟨pipeline, input, ⟨loaded, read⟩, rfl⟩

/-- Where a run succeeds its pipeline did, and the result is written if there is a file for it. -/
theorem execute_ok {document : Document} {warnings : List Warning} {after : FileTree}
    (success : request.execute files = (.ok (document, warnings), after)) :
    ∃ pipeline input told, request.Loads files pipeline input ∧
      request.runPipeline files pipeline input = (.ok (document, warnings), told) ∧
      (request.output = none → after = told) ∧
      ∀ path, request.output = some path → writeDocument path document told = (.ok (), after) := by
  rcases request.execute_cases files with ⟨failure, failed, -⟩ | ⟨pipeline, input, loads, ran⟩
  · cases failed.symm.trans success
  · rw [success] at ran
    refine ⟨pipeline, input, ?_⟩
    generalize request.runPipeline files pipeline input = piped at ran ⊢
    rcases piped with ⟨failure | ⟨reached, given⟩, told⟩
    · cases ran
    · refine ⟨told, loads, ?_⟩
      dsimp only at ran
      cases output : request.output with
      | none =>
        rw [output] at ran
        cases ran
        exact ⟨rfl, fun _ => rfl, nofun⟩
      | some path =>
        rw [output] at ran
        dsimp only at ran
        split at ran
        · cases ran
        · next wrote =>
          cases ran
          refine ⟨rfl, nofun, ?_⟩
          rintro _ ⟨⟩
          exact wrote

/-- A run that stops at an instruction stops with its pipeline. -/
theorem execute_stopped {node position : Nat} {target : String} {cause : Failure}
    {after : FileTree}
    (stopped : request.execute files = (.error (.instruction node position target cause), after)) :
    ∃ pipeline input, request.Loads files pipeline input ∧
      request.runPipeline files pipeline input =
        (.error (.instruction node position target cause), after) := by
  rcases request.execute_cases files with ⟨failure, failed, outer⟩ | ⟨pipeline, input, loads, ran⟩
  · cases failed.symm.trans stopped
    exact absurd rfl (outer node position target cause)
  · rw [stopped] at ran
    refine ⟨pipeline, input, loads, ?_⟩
    generalize request.runPipeline files pipeline input = piped at ran ⊢
    rcases piped with ⟨failure | ⟨reached, given⟩, told⟩
    · exact ran.symm
    · dsimp only at ran
      split at ran
      · cases ran
      · split at ran
        · next failed =>
          cases ran
          exact absurd rfl (writeDocument_error failed node position target cause)
        · cases ran

private theorem runPipeline_eq (configured : request.config.intermediateDirectory = some directory)
    (pipeline : Pipeline) (input : Document) :
    request.runPipeline files pipeline input =
      pipeline.run (.standard request.config.settings) (.ofSource (request.tables input.format files))
        input (.toDirectory directory input.format) files := by
  rw [runPipeline, sink, configured]

/-- What a run with a directory for snapshots leaves, with a result that goes elsewhere. When it
succeeds, the directory has the document of each node and the result is written; when an instruction
fails, it has those up to there and the result is not touched. No other file is. -/
theorem execute_files
    (configured : request.config.intermediateDirectory = some directory)
    (outside : ∀ path, request.output = some path →
      (files.location path).dropLast ≠ files.location directory) :
    let ran := request.execute files
    let place := files.location directory
    let evaluator := Evaluator.standard request.config.settings
    let unchanged (location : List String) := ran.2.content? location = files.content? location
    (∀ document warnings, ran.1 = .ok (document, warnings) →
      ∃ pipeline input, request.Loads files pipeline input ∧
        let source := request.tables input.format files
        (pipeline.run evaluator (.ofSource source) input Sink.discard ()).1 =
          .ok (document, warnings) ∧
        ran.2.HoldsSnapshots place input.format (pipeline.documentAt evaluator source input)
          (SnapshotPoint.completed pipeline.nodes.length) ∧
        (∀ path, request.output = some path →
          ran.2.content? (files.location path) = some document.render) ∧
        ∀ location, ¬FileTree.IsIn place isSnapshotName location →
          (∀ path, request.output = some path → location ≠ files.location path) →
          unchanged location) ∧
    ∀ node position target cause,
      ran.1 = .error (.instruction node position target cause) →
      ∃ pipeline input, request.Loads files pipeline input ∧
        ran.2.HoldsSnapshots place input.format
          (pipeline.documentAt evaluator (request.tables input.format files) input)
          (SnapshotPoint.lastBefore node position) ∧
        (∀ path, request.output = some path → unchanged (files.location path)) ∧
        ∀ location, ¬FileTree.IsIn place isSnapshotName location → unchanged location := by
  intro ran place evaluator unchanged
  have regular : evaluator.registry.Regular := Registry.regular_builtin
  have apart {location : List String} (member : FileTree.IsIn place isSnapshotName location)
      {path : String} (output : request.output = some path) : location ≠ files.location path := by
    obtain ⟨name, rfl, -⟩ := member
    intro same
    apply outside path output
    rw [← same, List.dropLast_concat]
  constructor
  · intro document warnings success
    obtain ⟨pipeline, input, told, loads, through, unwritten, written⟩ :=
      execute_ok (Prod.ext success rfl : ran = (.ok (document, warnings), ran.2))
    rw [runPipeline_eq configured] at through
    obtain ⟨onSuccess, -⟩ := pipeline.run_toDirectory regular
      (request.tables input.format files) input directory input.format files
    rw [through] at onSuccess
    obtain ⟨finished, current, snapshots, others⟩ := onSuccess (document, warnings) rfl
    refine ⟨pipeline, input, loads, finished, ?_⟩
    cases output : request.output with
    | none =>
      dsimp only [unchanged]
      rw [unwritten output]
      exact ⟨snapshots, nofun, fun location other _ => others location other⟩
    | some path =>
      obtain ⟨here, beyond⟩ := writeDocument_ok (written path output)
      rw [FileTree.location_congr current] at here beyond
      refine ⟨snapshots.congr fun location member => beyond location (apart member output), ?_, ?_⟩
      · rintro _ ⟨⟩
        exact here
      · intro location other different
        exact (beyond location (different path rfl)).trans (others location other)
  · intro node position target cause failed
    obtain ⟨pipeline, input, loads, stopped⟩ := execute_stopped
      (Prod.ext failed rfl : ran = (.error (.instruction node position target cause), ran.2))
    rw [runPipeline_eq configured] at stopped
    obtain ⟨-, onFailure⟩ := pipeline.run_toDirectory regular
      (request.tables input.format files) input directory input.format files
    rw [stopped] at onFailure
    obtain ⟨-, snapshots, others⟩ := onFailure node position target cause rfl
    refine ⟨pipeline, input, loads, snapshots, fun path output => ?_, others⟩
    exact others _ fun member => apart member output rfl

/-- One pipeline stops at the second instruction of its second node, the other one comes to its end. -/
theorem execute_files_two_runs :
    let first := "\x7b\"instructions\":[\x7b\"path\":\"a\"\x7d]\x7d"
    let second := "\x7b\"instructions\":[\x7b\"path\":\"b\"\x7d]\x7d"
    let faulty := "\x7b\"instructions\":[\x7b\"path\":\"b\"\x7d,\x7b\"path\":\"\"\x7d]\x7d"
    let files : FileTree := {
      entries := [
        (["p.json"], .file ("\x7b\"nodes\":[" ++ first ++ "," ++ faulty ++ "]\x7d")),
        (["q.json"], .file ("\x7b\"nodes\":[" ++ first ++ "," ++ second ++ "]\x7d")),
        (["i.json"], .file "\x7b\x7d"), (["o.json"], .file "result"), (["d"], .directory),
        (["d", "node_3.xml"], .file "<a/>"), (["d", "notes.txt"], .file "notes")]
      current := [] }
    let request (pipeline : String) : RunRequest :=
      ⟨pipeline, "i.json", some "o.json", none, ⟨.standard, none, some "d"⟩⟩
    let failure : Failure := .instruction 2 2 "" (.eval (.field (.target (.noSegments ""))))
    let result := "\x7b\n  \"a\": \"\",\n  \"b\": \"\"\n\x7d"
    let ran (pipeline : String) := (request pipeline).execute files
    let holds (name : String) (points : List SnapshotPoint) :=
      ∃ pipeline input, (request name).Loads files pipeline input ∧
        (ran name).2.HoldsSnapshots ["d"] input.format
          (pipeline.documentAt (.standard .standard) ((request name).tables input.format files) input)
          points
    (∀ name, (request name).config.intermediateDirectory = some "d" ∧
        ∀ path, (request name).output = some path →
          (files.location path).dropLast ≠ files.location "d") ∧
      ((ran "p.json").1 = .error failure ∧
        holds "p.json" [.nodeComplete 1, .instruction 2 1] ∧
        (ran "p.json").2.content? ["d", "notes.txt"] = some "notes" ∧
        (ran "p.json").2.content? ["o.json"] = some "result") ∧
      ((ran "q.json").1.map (fun reached => reached.1.render) = .ok result ∧
        holds "q.json" [.nodeComplete 1, .nodeComplete 2] ∧
        (ran "q.json").2.content? ["d", "notes.txt"] = some "notes" ∧
        (ran "q.json").2.content? ["o.json"] = some result) := by
  intro first second faulty files request failure result ran holds
  have outside : ∀ path, some "o.json" = some path →
      (files.location path).dropLast ≠ files.location "d" := by
    rintro path ⟨⟩
    decide +kernel
  have notes : ¬FileTree.IsIn ["d"] isSnapshotName ["d", "notes.txt"] := by
    rintro ⟨name, same, meant⟩
    have last : ["d"] ++ ["notes.txt"] = ["d"] ++ [name] := same
    obtain rfl := List.singleton_inj.mp (List.append_cancel_left last)
    exact absurd meant (by decide +kernel)
  refine ⟨fun name => ⟨rfl, outside⟩, ?_, ?_⟩
  · have stopped : (ran "p.json").1.map (fun _ => ()) = .error failure := by decide +kernel
    have failed : (ran "p.json").1 = .error failure := by
      cases outcome : (ran "p.json").1 with
      | error cause =>
        rw [outcome] at stopped
        exact congrArg Except.error (Except.error.inj stopped)
      | ok reached =>
        rw [outcome] at stopped
        cases stopped
    obtain ⟨pipeline, input, loads, snapshots, kept, others⟩ :=
      (@execute_files (request "p.json") files "d" rfl outside).2 2 2 "" _ failed
    exact ⟨failed, ⟨pipeline, input, loads, snapshots⟩, (others _ notes).trans rfl,
      (kept "o.json" rfl).trans rfl⟩
  · have reaches : (ran "q.json").1.map (fun reached => reached.1.render) = .ok result := by
      decide +kernel
    have nodes : (loadPipeline files "q.json").map (fun pipeline => pipeline.nodes.length) =
        .ok 2 := by decide +kernel
    cases outcome : (ran "q.json").1 with
    | error cause =>
      rw [outcome] at reaches
      cases reaches
    | ok reached =>
      rw [outcome] at reaches
      obtain ⟨pipeline, input, loads, -, snapshots, written, others⟩ :=
        (@execute_files (request "q.json") files "d" rfl outside).1 reached.1 reached.2 outcome
      have two : pipeline.nodes.length = 2 := by
        rw [show loadPipeline files "q.json" = .ok pipeline from loads.pipeline] at nodes
        exact Except.ok.inj nodes
      rw [two] at snapshots
      refine ⟨reaches, ⟨pipeline, input, loads, snapshots⟩, ?_, ?_⟩
      · refine (others _ notes ?_).trans rfl
        rintro path ⟨⟩
        decide +kernel
      · exact (written "o.json" rfl).trans (congrArg some (Except.ok.inj reaches))

end RunRequest

end DerivedFields

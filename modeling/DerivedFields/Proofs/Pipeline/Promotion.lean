import Mathlib
import DerivedFields.Command.Run
import DerivedFields.Proofs.Pipeline.Course

/-!
# When the output changes

The document of a node becomes the output as soon as all instructions of the node are carried out,
before the sink receives the snapshot of the node. So a step that fails leaves the output as it was,
unless it is the sink that refuses this snapshot: then the run is still in the node, but the output
is new already and nothing is left of the document of the node. The next step carries out the
instructions of the node on an empty document.
-/

namespace DerivedFields

open Stateful

namespace Running

variable {σ : Type} (pipeline : Pipeline) (evaluator : Evaluator) (sink : Sink σ)

/-- The state after all instructions of the node that a run is in. There is none if the run is in no
node, or if it fails before. -/
def carriedOut? (execution : Execution σ) : Option (Execution σ) :=
  match execution.stage with
  | .processing index =>
    match (process evaluator sink (index + 1) 1 (pipeline.instructionsAt index)).run execution with
    | (.ok (), finished) => some finished
    | (.error _, _) => none
  | .notStarted | .complete _ | .done => none

variable {pipeline evaluator sink} {execution after : Execution σ} {failure : Failure}

/-- A step that fails stays in its stage. It keeps the output as well, unless the sink refuses the
snapshot of a node whose instructions were all carried out: then the document of the node is the
output, and an empty document takes its place. -/
theorem step_failed
    (failed : (step pipeline evaluator sink).run execution = (.error failure, after)) :
    after.stage = execution.stage ∧
      match carriedOut? pipeline evaluator sink execution with
      | none => after.output = execution.output
      | some finished =>
        (∃ index, execution.stage = .processing index ∧
          (sink.record (.nodeComplete (index + 1)) finished.intermediate finished.sink).1 =
            .error failure) ∧
        after.output = finished.intermediate ∧ after.intermediate = .empty := by
  cases stage : execution.stage with
  | notStarted =>
    have carried : carriedOut? pipeline evaluator sink execution = none := by
      simp only [carriedOut?, stage]
    rw [step_run_notStarted stage] at failed
    rcases told : sink.start execution.sink with ⟨error | ⟨⟩, _⟩
    all_goals rw [told] at failed; cases failed
    rw [carried]
    exact ⟨stage, rfl⟩
  | processing index =>
    have hidden : Hidden (fun _ => ())
        (process evaluator sink (index + 1) 1 (pipeline.instructionsAt index)) :=
      hidden_process evaluator (fun _ _ _ _ => rfl) _ _ _
    have unseen := hidden execution
    rw [step_run_processing stage] at failed
    rcases ran : (process evaluator sink (index + 1) 1
      (pipeline.instructionsAt index)).run execution with ⟨error | ⟨⟩, finished⟩
    all_goals rw [ran] at unseen failed
    · have carried : carriedOut? pipeline evaluator sink execution = none := by
        simp only [carriedOut?, stage, ran]
      cases failed
      rw [carried]
      exact ⟨(congrArg Prod.fst unseen).trans stage, congrArg (·.2.1) unseen⟩
    · have carried : carriedOut? pipeline evaluator sink execution = some finished := by
        simp only [carriedOut?, stage, ran]
      dsimp only at failed
      rcases told : sink.record (.nodeComplete (index + 1)) finished.intermediate finished.sink
        with ⟨error | ⟨⟩, _⟩
      all_goals rw [told] at failed; cases failed
      rw [carried]
      exact ⟨(congrArg Prod.fst unseen).trans stage, ⟨index, rfl, congrArg Prod.fst told⟩, rfl, rfl⟩
  | complete index =>
    rw [step_run_complete stage] at failed
    cases failed
  | done =>
    rw [step_run_done stage] at failed
    cases failed

/-- Takes snapshots after instructions, but refuses those of nodes. -/
def refuseNodes : Sink Unit where
  start _ := (.ok (), ())
  record point _ _ :=
    match point with
    | .instruction .. => (.ok (), ())
    | .nodeComplete _ => (.error (.file "node_1.json" .isDirectory), ())

/-- A run that has begun the one node of its pipeline, which writes one member. -/
def begunNode : Execution Unit :=
  ((step ⟨[⟨none, [⟨"a", ""⟩]⟩]⟩ (.standard .standard) refuseNodes).run
    (.start .empty (.ofSource .empty) ())).2

theorem step_failed_refused :
    let ran := (step ⟨[⟨none, [⟨"a", ""⟩]⟩]⟩ (.standard .standard) refuseNodes).run begunNode
    ran.1 = .error (.file "node_1.json" .isDirectory) ∧ ran.2.stage = begunNode.stage ∧
      begunNode.output = .empty ∧ ran.2.output = .json [("a", .string "")] ∧
      ran.2.intermediate = .empty := by
  have blank : Text.allBlank "".toList = true := by cbv
  have processed : (process (.standard .standard) refuseNodes 1 1
      (Pipeline.instructionsAt ⟨[⟨none, [⟨"a", ""⟩]⟩]⟩ 0)).run begunNode =
        (.ok (), { begunNode with intermediate := .json [("a", .string "")] }) := by
    simp only [Pipeline.instructionsAt, List.getElem?_cons_zero, Option.map_some, Option.getD_some,
      process, execute, write, run_bind, run_tryCatch, run_get, run_set, blank, if_true]
    rfl
  have carried : carriedOut? ⟨[⟨none, [⟨"a", ""⟩]⟩]⟩ (.standard .standard) refuseNodes begunNode =
      some { begunNode with intermediate := .json [("a", .string "")] } := by
    rw [carriedOut?, show begunNode.stage = .processing 0 from rfl]
    simp only [processed]
  intro ran
  have failed : ran = (.error (.file "node_1.json" .isDirectory), ran.2) := by
    simp only [ran]
    rw [step_run_processing (show begunNode.stage = .processing 0 from rfl), processed]
    rfl
  have outcome := step_failed failed
  rw [carried] at outcome
  obtain ⟨stage, -, promoted, emptied⟩ := outcome
  exact ⟨congrArg Prod.fst failed, stage, rfl, promoted, emptied⟩

/-- Files where a directory has the name of the first snapshot. -/
def blocked : FileTree :=
  ⟨[(["steps"], .directory), (["steps", "node_1.json"], .directory)], []⟩

private theorem base_blocked (path : String) : blocked.base path = [] := ite_self _

/-- The directory for snapshots is there, and nothing in it is a file to be removed. -/
theorem start_blocked : (Sink.toDirectory "steps" .json).start blocked = (.ok (), blocked) := by
  have legal : FilePath.fault? "steps" = none := by decide
  have names : FilePath.names "steps" = ["steps"] := by cbv
  have ends : FilePath.endsInCurrent "steps" = false := by cbv
  have walked : blocked.walk [] ["steps"] = .directory ["steps"] := by cbv
  have created : blocked.createBelow [] ["steps"] = (.ok (), blocked) := by cbv
  have found : blocked.find "steps" = .directory ["steps"] := by
    simp only [FileTree.find, legal, names, base_blocked, walked]
  have made : blocked.createDirectory "steps" = (.ok (), blocked) := by
    rw [FileTree.createDirectory, if_neg (by decide), legal]
    simp only [names, ends, base_blocked, created, Bool.false_eq_true, if_false]
  simp only [Sink.toDirectory, startSnapshots, made, FileTree.removeFiles, found]
  rfl

/-- No document can be written where the directory is. -/
theorem record_blocked (document : Document) :
    (Sink.toDirectory "steps" .json).record (.nodeComplete 1) document blocked =
      (.error (.file "steps/node_1.json" .isDirectory), blocked) := by
  have named : snapshotPath "steps" .json 1 = "steps/node_1.json" := by rfl
  have legal : FilePath.fault? "steps/node_1.json" = none := by decide
  have names : FilePath.names "steps/node_1.json" = ["steps", "node_1.json"] := by cbv
  have walked : blocked.walk [] ["steps", "node_1.json"] = .directory ["steps", "node_1.json"] := by
    cbv
  have found : blocked.find "steps/node_1.json" = .directory ["steps", "node_1.json"] := by
    simp only [FileTree.find, legal, names, base_blocked, walked]
  simp only [Sink.toDirectory, SnapshotPoint.node, named, writeText, FileTree.write, found]

/-- A run in its first node that writes snapshots to these files. -/
def inBlockedNode (output intermediate : Document) : Execution FileTree :=
  ⟨.processing 0, output, intermediate, [], [], .ofSource .empty, blocked⟩

/-- A node with nothing to do fails there each time it is tried. After the second time the output has
lost its members, although the run is still in the node. -/
theorem step_failed_loses_output :
    let made := calls ⟨[⟨none, []⟩]⟩ (.standard .standard) (.toDirectory "steps" .json) 3
      (.start (.json [("a", .string "x")]) (.ofSource .empty) blocked)
    made.map (·.1) = [.ok true, .error (.file "steps/node_1.json" .isDirectory),
        .error (.file "steps/node_1.json" .isDirectory)] ∧
      made.map (·.2.stage) = [.processing 0, .processing 0, .processing 0] ∧
      made.map (·.2.output) = [.json [("a", .string "x")], .json [("a", .string "x")], .empty] := by
  have first : (step ⟨[⟨none, []⟩]⟩ (.standard .standard) (.toDirectory "steps" .json)).run
      (.start (.json [("a", .string "x")]) (.ofSource .empty) blocked) =
        (.ok true, inBlockedNode (.json [("a", .string "x")]) (.json [("a", .string "x")])) := by
    rw [step_run_notStarted rfl]
    simp only [Execution.start, start_blocked]
    rfl
  have tried (output intermediate : Document) :
      (step ⟨[⟨none, []⟩]⟩ (.standard .standard) (.toDirectory "steps" .json)).run
          (inBlockedNode output intermediate) =
        (.error (.file "steps/node_1.json" .isDirectory), inBlockedNode intermediate .empty) := by
    rw [step_run_processing rfl]
    simp only [Pipeline.instructionsAt, List.getElem?_cons_zero, Option.map_some, Option.getD_some,
      inBlockedNode, process, run_pure, Nat.zero_add, record_blocked]
  simp only [calls, first, tried]
  exact ⟨rfl, rfl, rfl⟩

end Running

end DerivedFields

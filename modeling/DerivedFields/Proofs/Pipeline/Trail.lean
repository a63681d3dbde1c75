import DerivedFields.Proofs.Pipeline.Course
import DerivedFields.Proofs.Pipeline.Points
import DerivedFields.Proofs.Pipeline.Simulation

/-!
# The trail of a run

A sink that keeps all snapshots holds a document for every point that a run has come to. The
document of a point is the one that the pipeline would end with if it were cut off there. The
invariant carries two facts through a run: the points that are kept and those that are still ahead
are together the points of the pipeline, and the document that is being written is that of the
pipeline cut before the next instruction. A run that fails stops in front of a point that is still
ahead.
-/

namespace DerivedFields

open Stateful

/-! ## The invariant -/

/-- The run with one more snapshot. -/
def Execution.withSnapshot (execution : Execution Snapshots) (point : SnapshotPoint)
    (document : Document) : Execution Snapshots :=
  { execution with sink := execution.sink ++ [(point, document)] }

/-- All snapshots are kept: their points and those that are still ahead are the points of the
pipeline, and the document of a point is that of the pipeline cut there. -/
structure Execution.Traced (pipeline : Pipeline) (evaluator : Evaluator) (source : TableSource)
    (input : Document) (ahead : List SnapshotPoint) (execution : Execution Snapshots) : Prop where
  points : execution.sink.map Prod.fst ++ ahead = pipeline.points
  documents : ∀ point document, (point, document) ∈ execution.sink →
    ((pipeline.cut point).effect evaluator source input).map Prod.fst = .ok document

/-- A part of a run takes the snapshots up to those that are behind it, or it fails in front of the
point of an instruction. -/
inductive Execution.Trails {α : Type} (pipeline : Pipeline) (evaluator : Evaluator)
    (source : TableSource) (input : Document) (behind : List SnapshotPoint) :
    Except Failure α × Execution Snapshots → Prop
  | through {value : α} {after : Execution Snapshots}
    (traced : after.Traced pipeline evaluator source input behind) :
    Trails pipeline evaluator source input behind (.ok value, after)
  | stopped {node position : Nat} {path : String} {cause : Failure} {ahead : List SnapshotPoint}
    {after : Execution Snapshots}
    (traced : after.Traced pipeline evaluator source input (.instruction node position :: ahead)) :
    Trails pipeline evaluator source input behind
      (.error (.instruction node position path cause), after)

namespace Execution

variable {pipeline : Pipeline} {evaluator : Evaluator} {source : TableSource} {input : Document}
  {execution other : Execution Snapshots} {ahead : List SnapshotPoint}

private theorem Traced.of_sink (traced : execution.Traced pipeline evaluator source input ahead)
    (same : other.sink = execution.sink) : other.Traced pipeline evaluator source input ahead := by
  constructor
  · rw [same]
    exact traced.points
  · rw [same]
    exact traced.documents

/-- The snapshot of the next point is taken. -/
theorem Traced.record {point : SnapshotPoint} {document : Document}
    (traced : execution.Traced pipeline evaluator source input (point :: ahead))
    (reached : ((pipeline.cut point).effect evaluator source input).map Prod.fst = .ok document) :
    (execution.withSnapshot point document).Traced pipeline evaluator source input ahead := by
  constructor
  · rw [withSnapshot, List.map_append, List.append_assoc]
    exact traced.points
  · intro place kept member
    rcases List.mem_append.mp member with earlier | last
    · exact traced.documents place kept earlier
    · obtain ⟨rfl, rfl⟩ := Prod.mk.inj (List.mem_singleton.mp last)
      exact reached

end Execution

namespace Running

variable {pipeline : Pipeline} {evaluator : Evaluator} {source : TableSource} {input : Document}
  {node : PipelineNode} {index : Nat} {execution : Execution Snapshots}
  {behind : List SnapshotPoint}

private theorem tellSink_keep (point : SnapshotPoint) (document : Document) :
    (tellSink (Sink.keep.record point document)).run execution =
      (.ok (), execution.withSnapshot point document) :=
  tellSink_eq _ execution

/-- An instruction that is attempted writes what it says, or its failure says where it happened. The
snapshots stay as they are. -/
theorem attempt_cases (regular : evaluator.registry.Regular) (sound : execution.Sound source)
    (number position : Nat) (instruction : Instruction) :
    let ran := (tryCatch (execute evaluator number position instruction) fun failure =>
      throw (.instruction number position instruction.path failure)).run execution
    ran.2.sink = execution.sink ∧ ran.2.output = execution.output ∧ ran.2.Sound source ∧
      ((∃ cause, ran.1 = .error (.instruction number position instruction.path cause)) ∨
        ran.1 = .ok () ∧
          Instruction.apply evaluator source number execution.output
            (execution.intermediate, execution.warnings) (instruction, position) =
          .ok (ran.2.intermediate, ran.2.warnings)) := by
  intro ran
  have attempted := attempt_run regular sound number position instruction
  have silent : ran.2.visible id = execution.visible id :=
    (hidden_execute evaluator number position instruction).tryCatch
      (fun failure => hidden_throw (.instruction number position instruction.path failure))
      execution
  refine ⟨congrArg (·.2.2) silent, attempted.output, attempted.sound, ?_⟩
  cases applied : Instruction.apply evaluator source number execution.output
    (execution.intermediate, execution.warnings) (instruction, position) with
  | error failure =>
    obtain ⟨cause, rfl⟩ := Instruction.failure_of_apply applied
    exact .inl ⟨cause, attempted.result.trans (congrArg (Except.map fun _ => ()) applied)⟩
  | ok written =>
    refine .inr ⟨attempted.result.trans (congrArg (Except.map fun _ => ()) applied), ?_⟩
    rw [← attempted.final written applied]

/-- The instructions of a node that are left. The document that is being written is that of the
pipeline cut before the first of them. -/
theorem process_trails (regular : evaluator.registry.Regular) (sound : execution.Sound source)
    (found : pipeline.nodes[index]? = some node) (count : Nat) (instructions : List Instruction)
    (left : node.instructions.drop count = instructions) {warnings : List Warning}
    (before : (pipeline.cut (.nodeComplete index)).effect evaluator source input =
      .ok (execution.output, warnings))
    (reached : (pipeline.cut (.instruction (index + 1) count)).effect evaluator source input =
      .ok (execution.intermediate, execution.warnings))
    (traced : execution.Traced pipeline evaluator source input
      (SnapshotPoint.within (index + 1) (count + 1) instructions.length ++ behind)) :
    Execution.Trails pipeline evaluator source input behind
      ((process evaluator Sink.keep (index + 1) (count + 1) instructions).run execution) := by
  induction instructions generalizing count execution with
  | nil => exact .through traced
  | cons instruction rest ih =>
    obtain ⟨next, onward⟩ := getElem?_and_drop_of_drop_eq_cons left
    have attempted := attempt_cases regular sound (index + 1) (count + 1) instruction
    have applied := Pipeline.effect_cut_succ found next before reached
    simp only [process, run_bind, run_get]
    generalize (tryCatch (execute evaluator (index + 1) (count + 1) instruction) fun failure =>
      throw (.instruction (index + 1) (count + 1) instruction.path failure)).run execution = ran
      at attempted ⊢
    rcases ran with ⟨result, after⟩
    obtain ⟨same, output, kept, ⟨cause, rfl⟩ | ⟨rfl, written⟩⟩ := attempted
    · exact .stopped (traced.of_sink same)
    · have grown := applied.trans written
      have sound_snapshot : (after.withSnapshot (.instruction (index + 1) (count + 1))
        after.intermediate).Sound source := kept.of_kept rfl rfl
      simp only [tellSink_keep]
      refine ih sound_snapshot (count + 1) onward ?_ grown ?_
      · rw [before, ← output]
        rfl
      · exact (traced.of_sink same).record (congrArg (Except.map Prod.fst) grown)

/-- The step that processes a node takes the snapshots of its points. -/
theorem step_trails (regular : evaluator.registry.Regular) (sound : execution.Sound source)
    (found : pipeline.nodes[index]? = some node) (stage : execution.stage = .processing index)
    (copied : execution.intermediate = execution.output)
    (before : (pipeline.cut (.nodeComplete index)).effect evaluator source input =
      .ok (execution.output, execution.warnings))
    (traced : execution.Traced pipeline evaluator source input
      (node.points (index + 1) ++ behind)) :
    Execution.Trails pipeline evaluator source input behind
      ((step pipeline evaluator Sink.keep).run execution) := by
  have complete := Pipeline.effect_cut_nodeComplete found before
  -- what the node leaves is known from its effect, what it keeps from the points
  have carried : execution.Reaches source
      (node.apply evaluator source (index + 1) (execution.output, execution.warnings))
      ((process evaluator Sink.keep (index + 1) 1 node.instructions).run execution) := by
    have processed := process_run regular Sink.reliable_keep sound (index + 1) 1 node.instructions
    rw [copied] at processed
    exact processed
  have processed : Execution.Trails pipeline evaluator source input
      ([.nodeComplete (index + 1)] ++ behind)
      ((process evaluator Sink.keep (index + 1) 1 node.instructions).run execution) := by
    refine process_trails regular sound found 0 node.instructions List.drop_zero before ?_ ?_
    · rw [copied]
      exact Pipeline.effect_cut_zero found before
    · rw [← List.append_assoc]
      exact traced
  have instructions : pipeline.instructionsAt index = node.instructions := by
    rw [Pipeline.instructionsAt, found, Option.map_some, Option.getD_some]
  rw [step_run_processing stage, instructions]
  generalize (process evaluator Sink.keep (index + 1) 1 node.instructions).run execution = ran
    at carried processed ⊢
  generalize node.apply evaluator source (index + 1) (execution.output, execution.warnings) = effect
    at carried complete
  cases processed with
  | stopped traced => exact .stopped traced
  | @through _ after traced =>
    cases effect with
    | error _ => cases carried.result
    | ok reached =>
      obtain rfl : reached = (after.intermediate, after.warnings) := carried.final reached rfl
      exact .through ((traced.record (congrArg (Except.map Prod.fst) complete)).of_sink rfl)

/-- From the node that it enters on, a run takes the snapshots of the nodes that are left. -/
theorem nodes_trails (regular : evaluator.registry.Regular) (sound : execution.Sound source)
    (index : Nat) (nodes : List PipelineNode) (left : pipeline.nodes.drop index = nodes)
    (before : (pipeline.cut (.nodeComplete index)).effect evaluator source input =
      .ok (execution.output, execution.warnings))
    (traced : execution.Traced pipeline evaluator source input
      (Pipeline.pointsFrom (index + 1) nodes)) :
    Execution.Trails pipeline evaluator source input []
      ((do
        enter pipeline index
        steps pipeline evaluator Sink.keep (2 * nodes.length)).run execution) := by
  induction nodes generalizing index execution with
  | nil =>
    have outside : ¬index < pipeline.nodes.length := by
      rw [List.drop_eq_nil_iff] at left
      omega
    simp only [run_bind, enter_run, outside, if_false]
    exact .through (traced.of_sink rfl)
  | cons node nodes ih =>
    obtain ⟨found, onward⟩ := getElem?_and_drop_of_drop_eq_cons left
    have inside : index < pipeline.nodes.length := (List.getElem?_eq_some_iff.mp found).1
    let begun : Execution Snapshots :=
      { execution with intermediate := execution.output, stage := .processing index }
    have begun_sound : begun.Sound source := sound.of_kept rfl rfl
    have stepped := step_trails regular begun_sound found rfl rfl before (traced.of_sink rfl)
    obtain ⟨after, ran, kept, final⟩ :=
      step_processing regular Sink.reliable_keep begun_sound rfl rfl found
    have complete := Pipeline.effect_cut_nodeComplete found before
    simp only [List.length_cons, Nat.mul_add, steps, run_bind, enter_run, inside, if_true]
    rw [ran] at stepped ⊢
    cases applied :
      node.apply evaluator source (index + 1) (execution.output, execution.warnings) with
    | error failure =>
      rw [applied] at stepped
      cases stepped with
      | stopped traced => exact .stopped traced
    | ok reached =>
      obtain ⟨rfl, stage⟩ := final reached applied
      rw [applied] at stepped complete
      cases stepped with
      | through traced =>
        have rest := ih kept (index + 1) onward complete traced
        simp only [Except.map, if_true, step, run_bind, run_get, stage, enter_run, run_pure]
          at rest ⊢
        exact rest

end Running

namespace Pipeline

variable (pipeline : Pipeline) {evaluator : Evaluator} {source : TableSource} {tables : TableCache}

theorem execute_trails (regular : evaluator.registry.Regular) (serves : tables.Serves source)
    (input : Document) (earlier : Snapshots) :
    Execution.Trails pipeline evaluator source input []
      (pipeline.execute evaluator Sink.keep (.start input tables earlier)) := by
  let started : Execution Snapshots := .start input tables []
  have traced : started.Traced pipeline evaluator source input (pointsFrom 1 pipeline.nodes) :=
    ⟨rfl, nofun⟩
  have trails := Running.nodes_trails regular (Execution.sound_start serves input []) 0
    pipeline.nodes List.drop_zero rfl traced
  simp only [execute, stepCount, Running.steps, Running.step, Execution.start, run_bind, run_get,
    Running.tellSink_run Sink.reliable_keep.start, run_pure] at trails ⊢
  exact trails

/-- With the built-in functions, a run that succeeds keeps a snapshot for every point of its
pipeline in order, and one that fails keeps those before the instruction that failed. Every document
that is kept is the one that the pipeline ends with if it is cut at the point of the snapshot.
Tables that the evaluator has kept from before make no difference. -/
theorem run_standard_trail (settings : Settings) (serves : tables.Serves source) (input : Document)
    (earlier : Snapshots) :
    let ran (pipeline : Pipeline) :=
      pipeline.run (.standard settings) tables input Sink.keep earlier
    (∀ reached, (ran pipeline).1 = .ok reached →
      (ran pipeline).2.map Prod.fst = pipeline.points) ∧
    (∀ failure, (ran pipeline).1 = .error failure →
      ∃ node position path cause, failure = .instruction node position path cause ∧
        .instruction node position ∈ pipeline.points ∧
        (ran pipeline).2.map Prod.fst =
          pipeline.points.takeWhile (· ≠ .instruction node position)) ∧
    ∀ point document, (point, document) ∈ (ran pipeline).2 →
      (ran (pipeline.cut point)).1.map Prod.fst = .ok document := by
  intro ran
  have trails : Execution.Trails pipeline (.standard settings) source input []
      (pipeline.execute (.standard settings) Sink.keep (.start input tables earlier)) :=
    pipeline.execute_trails Registry.regular_builtin serves input earlier
  have result : (ran pipeline).1 = (pipeline.execute (.standard settings) Sink.keep
      (.start input tables earlier)).1.map fun _ => _ := rfl
  have snapshots : (ran pipeline).2 = (pipeline.execute (.standard settings) Sink.keep
      (.start input tables earlier)).2.sink := rfl
  have cut (point : SnapshotPoint) : (ran (pipeline.cut point)).1 =
      (pipeline.cut point).effect (.standard settings) source input :=
    (pipeline.cut point).run_fst Registry.regular_builtin Sink.reliable_keep serves input earlier
  generalize pipeline.execute (.standard settings) Sink.keep
    (.start input tables earlier) = executed at trails result snapshots
  simp only [result, snapshots, cut]
  cases trails with
  | through traced =>
    refine ⟨fun _ _ => ?_, nofun, traced.documents⟩
    rw [← traced.points, List.append_nil]
  | @stopped node position path cause ahead after traced =>
    refine ⟨nofun, ?_, traced.documents⟩
    rintro _ ⟨⟩
    have distinct := pipeline.nodup_points
    rw [← traced.points] at distinct ⊢
    have apart : ∀ place ∈ after.sink.map Prod.fst,
        decide (place ≠ .instruction node position) = true := by
      intro place member
      refine decide_eq_true ?_
      rintro rfl
      exact List.disjoint_of_nodup_append distinct member List.mem_cons_self
    refine ⟨node, position, path, cause, rfl, ?_, ?_⟩
    · exact List.mem_append_right _ List.mem_cons_self
    · rw [List.takeWhile_append_of_pos apart, List.takeWhile_cons_of_neg, List.append_nil]
      simp

/-- The first node has no instructions and leaves a snapshot all the same. The second one fails at
its second instruction, behind the snapshot of the first. Cut there, the pipeline runs to its
end. -/
theorem run_standard_trail_failed :
    let pipeline : Pipeline := ⟨[⟨none, []⟩, ⟨none, [⟨"total", ""⟩, ⟨"", ""⟩]⟩]⟩
    let ran (pipeline : Pipeline) :=
      pipeline.run (.standard .standard) (.ofSource .empty) .empty Sink.keep []
    let cut := pipeline.cut (.instruction 2 1)
    ((ran pipeline).1 =
        .error (.instruction 2 2 "" (.eval (.field (.target (.noSegments ""))))) ∧
      (ran pipeline).2.map Prod.fst = [.nodeComplete 1, .instruction 2 1] ∧
      (.instruction 2 1, .json [("total", .string "")]) ∈ (ran pipeline).2) ∧
      (ran cut).1 = .ok (.json [("total", .string "")], []) ∧
        (ran cut).2.map Prod.fst = [.nodeComplete 1, .instruction 2 1, .nodeComplete 2] := by
  intro pipeline ran cut
  have serves := TableCache.serves_ofSource .empty
  obtain ⟨-, onFailure, documents⟩ := run_standard_trail pipeline .standard serves .empty []
  obtain ⟨onSuccess, -, -⟩ := run_standard_trail cut .standard serves .empty []
  have failed : (ran pipeline).1 =
      .error (.instruction 2 2 "" (.eval (.field (.target (.noSegments ""))))) := by
    rw [pipeline.run_fst Registry.regular_builtin Sink.reliable_keep serves]
    rfl
  have succeeded : (ran cut).1 = .ok (.json [("total", .string "")], []) := by
    rw [cut.run_fst Registry.regular_builtin Sink.reliable_keep serves]
    rfl
  have trail : (ran pipeline).2.map Prod.fst = [.nodeComplete 1, .instruction 2 1] := by
    obtain ⟨_, _, _, _, ⟨⟩, -, points⟩ := onFailure _ failed
    rw [points]
    rfl
  have inside : .instruction 2 1 ∈ (ran pipeline).2.map Prod.fst := by
    rw [trail]
    exact List.mem_cons_of_mem _ (List.mem_singleton_self _)
  obtain ⟨⟨_, document⟩, member, rfl⟩ := List.mem_map.mp inside
  obtain rfl : .json [("total", .string "")] = document := by
    have same : (ran cut).1.map Prod.fst = .ok document := documents _ document member
    rw [succeeded] at same
    exact Except.ok.inj same
  exact ⟨⟨failed, trail, member⟩, succeeded, onSuccess _ succeeded⟩

end Pipeline

end DerivedFields

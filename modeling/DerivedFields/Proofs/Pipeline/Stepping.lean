import DerivedFields.Pipeline.Run
import DerivedFields.Proofs.Stateful

/-!
# What a step of a run does

The instructions of a node change the document of the node, the scripts and tables that are kept and
the warnings. The stage of the run and its output are none of their business, and the sink learns of
them by snapshots only. So there is one equation for a step from each stage, which names every place
where the stage or the output changes.
-/

namespace DerivedFields

open Stateful

variable {σ α β γ : Type}

/-- The instructions of a node; there are none if there is no such node. -/
def Pipeline.instructionsAt (pipeline : Pipeline) (index : Nat) : List Instruction :=
  (pipeline.nodes[index]?.map (·.instructions)).getD []

/-- What can be seen of a run from outside: its stage, its output, and a view of its sink. -/
def Execution.visible (view : σ → γ) (execution : Execution σ) : Stage × Document × γ :=
  (execution.stage, execution.output, view execution.sink)

namespace Running

variable {view : σ → γ}

/-- Nothing of a computation can be seen from outside, whether it fails or not. -/
def Hidden (view : σ → γ) (computation : Running σ α) : Prop :=
  ∀ execution, (computation.run execution).2.visible view = execution.visible view

theorem hidden_throw (failure : Failure) : Hidden view (throw failure : Running σ α) := fun _ => rfl

private theorem hidden_modify {change : Execution σ → Execution σ}
    (hidden : ∀ execution, (change execution).visible view = execution.visible view) :
    Hidden view (modify change : Running σ PUnit) := hidden

private theorem Hidden.bind {computation : Running σ α} {next : α → Running σ β}
    (first : Hidden view computation) (second : ∀ value, Hidden view (next value)) :
    Hidden view (computation >>= next) := by
  intro execution
  have before := first execution
  rw [run_bind]
  rcases ran : computation.run execution with ⟨error | value, after⟩
  all_goals rw [ran] at before
  · exact before
  · exact (second value after).trans before

theorem Hidden.tryCatch {computation : Running σ α} {handle : Failure → Running σ α}
    (first : Hidden view computation) (second : ∀ failure, Hidden view (handle failure)) :
    Hidden view (tryCatch computation handle) := by
  intro execution
  have before := first execution
  rw [run_tryCatch]
  rcases ran : computation.run execution with ⟨error | value, after⟩
  all_goals rw [ran] at before
  · exact (second error after).trans before
  · exact before

private theorem hidden_write (path text : String) : Hidden view (write path text : Running σ Unit) := by
  intro execution
  simp only [write, run_bind, run_get]
  rcases execution.intermediate.set path text with ⟨written, error | ⟨⟩⟩ <;> rfl

private theorem hidden_compile (script : String) :
    Hidden view (compile script : Running σ Script.Expr) := by
  intro execution
  simp only [compile, run_bind, run_get]
  cases execution.scripts.lookup (Script.decodeEntities script) with
  | some expr => rfl
  | none => cases Script.parse (Script.decodeEntities script) <;> rfl

private theorem hidden_evaluate (evaluator : Evaluator) (target : String) (expr : Script.Expr) :
    Hidden view (evaluate evaluator target expr : Running σ (Value × List RecoveredFailure)) := by
  intro execution
  simp only [evaluate, run_bind, run_get]
  generalize (DerivedFields.evaluate evaluator.registry _ expr).run _ = ran
  rcases ran with ⟨error | value, progress⟩ <;> rfl

theorem hidden_execute (evaluator : Evaluator) (node position : Nat) (instruction : Instruction) :
    Hidden view (execute evaluator node position instruction : Running σ Unit) := by
  unfold execute
  split
  · exact hidden_write _ _
  · refine (hidden_compile _).bind fun expr => (hidden_evaluate _ _ expr).bind fun evaluated => ?_
    exact (hidden_write _ _).bind fun _ => hidden_modify fun _ => rfl

theorem tellSink_eq (act : σ → Except Failure Unit × σ) (execution : Execution σ) :
    (tellSink act).run execution =
      ((act execution.sink).1, { execution with sink := (act execution.sink).2 }) := by
  simp only [tellSink, run_bind, run_get, run_set]
  cases (act execution.sink).1 <;> rfl

/-- A sink can be told what its view does not show. -/
theorem hidden_tellSink {act : σ → Except Failure Unit × σ}
    (blind : ∀ state, view (act state).2 = view state) :
    Hidden view (tellSink act : Running σ Unit) := by
  intro execution
  rw [tellSink_eq]
  exact congrArg (fun shown => (execution.stage, execution.output, shown)) (blind execution.sink)

/-- The snapshots behind the instructions of a node are all that can be seen of them. -/
theorem hidden_process (evaluator : Evaluator) {sink : Sink σ}
    (blind : ∀ node position document state,
      view (sink.record (.instruction node position) document state).2 = view state)
    (node position : Nat) (instructions : List Instruction) :
    Hidden view (process evaluator sink node position instructions) := by
  induction instructions generalizing position with
  | nil => exact fun _ => rfl
  | cons instruction rest ih =>
    refine ((hidden_execute evaluator node position instruction).tryCatch fun _ =>
      hidden_throw _).bind fun _ => ?_
    intro execution
    rw [run_bind, run_get]
    exact (hidden_tellSink (blind node position execution.intermediate)).bind
      (fun _ => ih (position + 1)) execution

/-! ## Steps -/

variable {pipeline : Pipeline} {evaluator : Evaluator} {sink : Sink σ} {execution : Execution σ}

theorem enter_run (pipeline : Pipeline) (index : Nat) :
    (enter pipeline index).run execution =
      (.ok (), if index < pipeline.nodes.length then
          { execution with intermediate := execution.output, stage := .processing index }
        else { execution with stage := .done }) := rfl

theorem step_run_notStarted (stage : execution.stage = .notStarted) :
    (step pipeline evaluator sink).run execution =
      match sink.start execution.sink with
      | (.error failure, told) => (.error failure, { execution with sink := told })
      | (.ok (), told) =>
        (.ok true, ((enter pipeline 0).run { execution with sink := told }).2) := by
  simp only [step, run_bind, run_get, stage, tellSink_eq]
  rcases sink.start execution.sink with ⟨error | ⟨⟩, told⟩ <;> rfl

/-- The output changes once all instructions are carried out, the stage only when the sink has taken
the snapshot of the node as well. -/
theorem step_run_processing {index : Nat} (stage : execution.stage = .processing index) :
    (step pipeline evaluator sink).run execution =
      match (process evaluator sink (index + 1) 1 (pipeline.instructionsAt index)).run execution with
      | (.error failure, after) => (.error failure, after)
      | (.ok (), after) =>
        match sink.record (.nodeComplete (index + 1)) after.intermediate after.sink with
        | (.error failure, told) =>
          (.error failure,
            { after with output := after.intermediate, intermediate := .empty, sink := told })
        | (.ok (), told) =>
          (.ok true,
            { after with
              output := after.intermediate
              intermediate := .empty
              sink := told
              stage := .complete index }) := by
  simp only [step, run_bind, run_get, stage, Pipeline.instructionsAt]
  rcases (process evaluator sink (index + 1) 1 _).run execution with ⟨error | ⟨⟩, after⟩
  · rfl
  · simp only [promote, run_modify, tellSink_eq]
    rcases sink.record (.nodeComplete (index + 1)) after.intermediate after.sink with
      ⟨error | ⟨⟩, told⟩ <;> rfl

theorem step_run_complete {index : Nat} (stage : execution.stage = .complete index) :
    (step pipeline evaluator sink).run execution =
      (.ok true, ((enter pipeline (index + 1)).run execution).2) := by
  simp only [step, run_bind, run_get, stage]
  rfl

theorem step_run_done (stage : execution.stage = .done) :
    (step pipeline evaluator sink).run execution = (.ok false, execution) := by
  simp only [step, run_bind, run_get, stage]
  rfl

end Running

end DerivedFields

import Mathlib
import DerivedFields.Proofs.Pipeline.Course

/-!
# What a run tells its sink

No part of a run looks at the state of its sink. So with any sink a run does what it does with the
sink that keeps all snapshots, and its own sink is told these snapshots in their order. Where the
sink refuses one, the run ends with that refusal. What a sink is left with is then a matter of the
snapshots alone.
-/

namespace DerivedFields

open Stateful

variable {σ α β : Type}

/-- Gives a sink snapshots in order, up to the first one that it refuses. -/
def Sink.tell (sink : Sink σ) : Snapshots → σ → Except Failure Unit × σ
  | [], state => (.ok (), state)
  | (point, document) :: rest, state =>
    match sink.record point document state with
    | (.ok (), next) => sink.tell rest next
    | (.error failure, next) => (.error failure, next)

private theorem Sink.tell_append (sink : Sink σ) (first second : Snapshots) (state : σ) :
    sink.tell (first ++ second) state =
      match sink.tell first state with
      | (.ok (), next) => sink.tell second next
      | (.error failure, next) => (.error failure, next) := by
  induction first generalizing state with
  | nil => rfl
  | cons snapshot first ih =>
    obtain ⟨point, document⟩ := snapshot
    rw [List.cons_append, tell, tell]
    rcases sink.record point document state with ⟨failure | ⟨⟩, next⟩
    · rfl
    · exact ih next

/-- A run at the same place with another sink. -/
def Execution.withSink {τ : Type} (execution : Execution τ) (state : σ) : Execution σ where
  stage := execution.stage
  output := execution.output
  intermediate := execution.intermediate
  scripts := execution.scripts
  warnings := execution.warnings
  tables := execution.tables
  sink := state

/-- A run with a sink does what it does where all snapshots are kept, and the sink takes those that
are new; or it ends with the refusal of one of them. -/
inductive Sink.Tells (sink : Sink σ) (earlier : Snapshots) (state : σ) :
    Except Failure α × Execution Snapshots → Except Failure α × Execution σ → Prop
  | took {result : Except Failure α} {after : Execution Snapshots} {new : Snapshots} {told : σ}
    (kept : after.sink = earlier ++ new) (took : sink.tell new state = (.ok (), told)) :
    Tells sink earlier state (result, after) (result, after.withSink told)
  | refused {result : Except Failure α} {after : Execution Snapshots} {new : Snapshots}
    {failure : Failure} {other : Execution σ}
    (kept : after.sink = earlier ++ new)
    (refused : sink.tell new state = (.error failure, other.sink)) :
    Tells sink earlier state (result, after) (.error failure, other)

namespace Sink.Tells

variable {sink : Sink σ} {earlier : Snapshots} {state : σ}

/-- Whatever happens, snapshots are added to those that are kept. -/
theorem grows {kept : Except Failure α × Execution Snapshots}
    {ran : Except Failure α × Execution σ} (tells : sink.Tells earlier state kept ran) :
    ∃ new, kept.2.sink = earlier ++ new := by
  cases tells with
  | took kept => exact ⟨_, kept⟩
  | refused kept => exact ⟨_, kept⟩

/-- One part of a run after the other. -/
theorem bind {execution : Execution Snapshots} {kept : Running Snapshots α}
    {computation : Running σ α} {keptNext : α → Running Snapshots β} {next : α → Running σ β}
    (first : sink.Tells execution.sink state (kept.run execution)
      (computation.run (execution.withSink state)))
    (second : ∀ value after told, kept.run execution = (.ok value, after) →
      sink.Tells after.sink told ((keptNext value).run after)
        ((next value).run (after.withSink told))) :
    sink.Tells execution.sink state ((kept >>= keptNext).run execution)
      ((computation >>= next).run (execution.withSink state)) := by
  rw [run_bind, run_bind]
  generalize kept.run execution = ran at first second
  generalize computation.run (execution.withSink state) = other at first
  cases first with
  | @took result after new told kept took =>
    cases result with
    | error failure => exact .took kept took
    | ok value =>
      have onward := second value after told rfl
      dsimp only
      generalize (keptNext value).run after = ran at onward ⊢
      generalize (next value).run (after.withSink told) = other at onward ⊢
      cases onward with
      | took keptThen tookThen =>
        rw [kept, List.append_assoc] at keptThen
        refine .took keptThen ?_
        rw [tell_append, took]
        exact tookThen
      | refused keptThen refusedThen =>
        rw [kept, List.append_assoc] at keptThen
        refine .refused keptThen ?_
        rw [tell_append, took]
        exact refusedThen
  | @refused result after new failure other kept refused =>
    cases result with
    | error failure => exact .refused kept refused
    | ok value =>
      obtain ⟨more, keptThen⟩ := (second value after state rfl).grows
      dsimp only
      generalize (keptNext value).run after = ran at keptThen ⊢
      rw [kept, List.append_assoc] at keptThen
      refine .refused keptThen ?_
      rw [tell_append, refused]

end Sink.Tells

namespace Running

variable {evaluator : Evaluator} {sink : Sink σ} {execution : Execution Snapshots}
  {pipeline : Pipeline}

/-! ## Parts without snapshots -/

/-- Two computations that differ in the type of their sink only, and do not touch it. -/
def Silent (kept : Running Snapshots α) (computation : Running σ α) : Prop :=
  ∀ execution state, (kept.run execution).2.sink = execution.sink ∧
    computation.run (execution.withSink state) =
      ((kept.run execution).1, (kept.run execution).2.withSink state)

private theorem Silent.tells {kept : Running Snapshots α} {computation : Running σ α}
    (silent : Silent kept computation) (sink : Sink σ) (execution : Execution Snapshots)
    (state : σ) :
    sink.Tells execution.sink state (kept.run execution)
      (computation.run (execution.withSink state)) := by
  obtain ⟨same, ran⟩ := silent execution state
  rw [ran]
  rw [← List.append_nil execution.sink] at same
  exact .took same rfl

private theorem silent_throw (failure : Failure) :
    Silent (throw failure : Running Snapshots α) (throw failure : Running σ α) :=
  fun _ _ => ⟨rfl, rfl⟩

private theorem Silent.bind {kept : Running Snapshots α} {computation : Running σ α}
    {keptNext : α → Running Snapshots β} {next : α → Running σ β}
    (first : Silent kept computation) (second : ∀ value, Silent (keptNext value) (next value)) :
    Silent (kept >>= keptNext) (computation >>= next) := by
  intro execution state
  obtain ⟨same, ran⟩ := first execution state
  rw [run_bind, run_bind, ran]
  generalize kept.run execution = before at same
  rcases before with ⟨failure | value, after⟩
  · exact ⟨same, rfl⟩
  · obtain ⟨sameThen, ranThen⟩ := second value after state
    exact ⟨sameThen.trans same, ranThen⟩

private theorem Silent.tryCatch {kept : Running Snapshots α} {computation : Running σ α}
    {keptHandle : Failure → Running Snapshots α} {handle : Failure → Running σ α}
    (first : Silent kept computation)
    (second : ∀ failure, Silent (keptHandle failure) (handle failure)) :
    Silent (tryCatch kept keptHandle) (tryCatch computation handle) := by
  intro execution state
  obtain ⟨same, ran⟩ := first execution state
  rw [run_tryCatch, run_tryCatch, ran]
  generalize kept.run execution = before at same
  rcases before with ⟨failure | value, after⟩
  · obtain ⟨sameThen, ranThen⟩ := second failure after state
    exact ⟨sameThen.trans same, ranThen⟩
  · exact ⟨same, rfl⟩

private theorem silent_write (path text : String) :
    Silent (write path text) (write path text : Running σ Unit) := by
  intro execution state
  simp only [write, run_bind, run_get, Execution.withSink]
  rcases execution.intermediate.set path text with ⟨written, error | ⟨⟩⟩ <;> exact ⟨rfl, rfl⟩

private theorem silent_compile (script : String) :
    Silent (compile script) (compile script : Running σ Script.Expr) := by
  intro execution state
  simp only [compile, run_bind, run_get, Execution.withSink]
  cases execution.scripts.lookup (Script.decodeEntities script) with
  | some expr => exact ⟨rfl, rfl⟩
  | none => cases Script.parse (Script.decodeEntities script) <;> exact ⟨rfl, rfl⟩

private theorem silent_evaluate (evaluator : Evaluator) (target : String) (expr : Script.Expr) :
    Silent (evaluate evaluator target expr)
      (evaluate evaluator target expr : Running σ (Value × List RecoveredFailure)) := by
  intro execution state
  simp only [evaluate, run_bind, run_get, Execution.withSink]
  generalize (DerivedFields.evaluate evaluator.registry _ expr).run _ = ran
  rcases ran with ⟨error | value, progress⟩ <;> exact ⟨rfl, rfl⟩

private theorem silent_execute (evaluator : Evaluator) (node position : Nat)
    (instruction : Instruction) :
    Silent (execute evaluator node position instruction)
      (execute evaluator node position instruction : Running σ Unit) := by
  unfold execute
  split
  · exact silent_write _ _
  · refine (silent_compile _).bind fun expr => (silent_evaluate _ _ expr).bind fun evaluated => ?_
    exact (silent_write _ _).bind fun _ _ _ => ⟨rfl, rfl⟩

/-! ## Parts with snapshots -/

private theorem tell_singleton (sink : Sink σ) (point : SnapshotPoint) (document : Document)
    (state : σ) :
    sink.tell [(point, document)] state = sink.record point document state := by
  rw [Sink.tell]
  rcases sink.record point document state with ⟨failure | ⟨⟩, told⟩ <;> rfl

private theorem tells_record (sink : Sink σ) (point : SnapshotPoint) (document : Document)
    (execution : Execution Snapshots) (state : σ) :
    sink.Tells execution.sink state
      ((tellSink (Sink.keep.record point document)).run execution)
      ((tellSink (sink.record point document)).run (execution.withSink state)) := by
  have told := tell_singleton sink point document state
  rw [tellSink_eq, tellSink_eq]
  rcases recorded : sink.record point document state with ⟨failure | ⟨⟩, next⟩
  · rw [recorded] at told
    simp only [Execution.withSink, recorded]
    exact .refused rfl told
  · rw [recorded] at told
    simp only [Execution.withSink, recorded]
    exact .took rfl told

/-- The instructions of a node, with the snapshots behind them. -/
theorem tells_process (evaluator : Evaluator) (sink : Sink σ) (node position : Nat)
    (instructions : List Instruction) (execution : Execution Snapshots) (state : σ) :
    sink.Tells execution.sink state
      ((process evaluator Sink.keep node position instructions).run execution)
      ((process evaluator sink node position instructions).run (execution.withSink state)) := by
  induction instructions generalizing position execution state with
  | nil => exact .took (List.append_nil _).symm rfl
  | cons instruction rest ih =>
    have attempt := ((silent_execute (σ := σ) evaluator node position instruction).tryCatch
      fun failure => silent_throw (.instruction node position instruction.path failure)).tells sink
        execution state
    rw [process, process]
    refine attempt.bind fun _ after told _ => ?_
    exact (tells_record sink (.instruction node position) after.intermediate after told).bind
      fun _ after told _ => ih (position + 1) after told

private theorem enter_withSink (pipeline : Pipeline) (index : Nat) (execution : Execution Snapshots)
    (state : σ) :
    ((enter pipeline index).run execution).2.sink = execution.sink ∧
      ((enter pipeline index).run (execution.withSink state)).2 =
        ((enter pipeline index).run execution).2.withSink state := by
  rw [enter_run, enter_run]
  dsimp only
  split <;> exact ⟨rfl, rfl⟩

/-- A step behind the first one. -/
theorem tells_step (pipeline : Pipeline) (evaluator : Evaluator) (sink : Sink σ)
    {execution : Execution Snapshots} (begun : execution.stage ≠ .notStarted) (state : σ) :
    sink.Tells execution.sink state ((step pipeline evaluator Sink.keep).run execution)
      ((step pipeline evaluator sink).run (execution.withSink state)) := by
  cases stage : execution.stage with
  | notStarted => exact absurd stage begun
  | processing index =>
    have processed := tells_process evaluator sink (index + 1) 1 (pipeline.instructionsAt index)
      execution state
    have same : (execution.withSink state).stage = .processing index := stage
    rw [step_run_processing stage, step_run_processing same]
    generalize (process evaluator Sink.keep (index + 1) 1 _).run execution = ran at processed ⊢
    generalize (process evaluator sink (index + 1) 1 _).run (execution.withSink state) = other
      at processed ⊢
    -- one more snapshot, that of the node, is kept behind those of its instructions
    have grown {after : Execution Snapshots} {new : Snapshots}
        (kept : after.sink = execution.sink ++ new) :
        after.sink ++ [(.nodeComplete (index + 1), after.intermediate)] =
          execution.sink ++ (new ++ [(.nodeComplete (index + 1), after.intermediate)]) := by
      rw [kept, List.append_assoc]
    cases processed with
    | @took result after new told kept took =>
      rcases result with failure | ⟨⟩
      · exact .took kept took
      · have last := tell_singleton sink (.nodeComplete (index + 1)) after.intermediate told
        dsimp only [Sink.keep, Execution.withSink]
        rcases recorded : sink.record (.nodeComplete (index + 1)) after.intermediate told with
          ⟨failure | ⟨⟩, next⟩
        all_goals rw [recorded] at last
        · refine .refused (grown kept) ?_
          rw [Sink.tell_append, took]
          exact last
        · refine .took (grown kept) ?_
          rw [Sink.tell_append, took]
          exact last
    | @refused result after new failure other kept refused =>
      rcases result with failure | ⟨⟩
      · exact .refused kept refused
      · refine .refused (grown kept) ?_
        rw [Sink.tell_append, refused]
  | complete index =>
    have same : (execution.withSink state).stage = .complete index := stage
    obtain ⟨kept, entered⟩ := enter_withSink pipeline (index + 1) execution state
    rw [step_run_complete stage, step_run_complete same, entered]
    exact .took (kept.trans (List.append_nil _).symm) rfl
  | done =>
    have same : (execution.withSink state).stage = .done := stage
    rw [step_run_done stage, step_run_done same]
    exact .took (List.append_nil _).symm rfl

/-- No step leads back to the beginning of a run. -/
theorem enter_begun (pipeline : Pipeline) (index : Nat) (execution : Execution σ) :
    ((enter pipeline index).run execution).2.stage ≠ .notStarted := by
  rw [enter_run]
  dsimp only
  split <;> exact Stage.noConfusion

private theorem step_begun {sink : Sink σ} {execution after : Execution σ} {value : Bool}
    (begun : execution.stage ≠ .notStarted)
    (ran : (step pipeline evaluator sink).run execution = (.ok value, after)) :
    after.stage ≠ .notStarted := by
  cases stage : execution.stage with
  | notStarted => exact absurd stage begun
  | processing index =>
    rw [step_run_processing stage] at ran
    split at ran
    · cases ran
    · split at ran
      · cases ran
      · cases ran
        exact Stage.noConfusion
  | complete index =>
    rw [step_run_complete stage] at ran
    cases ran
    exact enter_begun pipeline (index + 1) execution
  | done =>
    rw [step_run_done stage] at ran
    cases ran
    exact begun

private theorem tells_steps (pipeline : Pipeline) (evaluator : Evaluator) (sink : Sink σ) (count : Nat)
    {execution : Execution Snapshots} (begun : execution.stage ≠ .notStarted) (state : σ) :
    sink.Tells execution.sink state ((steps pipeline evaluator Sink.keep count).run execution)
      ((steps pipeline evaluator sink count).run (execution.withSink state)) := by
  induction count generalizing execution state with
  | zero => exact .took (List.append_nil _).symm rfl
  | succ count ih =>
    rw [steps, steps]
    refine (tells_step pipeline evaluator sink begun state).bind fun value after told ran => ?_
    cases value with
    | false => exact .took (List.append_nil _).symm rfl
    | true => exact ih (step_begun begun ran) told

end Running

namespace Pipeline

variable {state told : σ}

/-- The answer of a run is what can be read from the state in which it ends. -/
theorem run_eq (pipeline : Pipeline) (evaluator : Evaluator) (tables : TableCache)
    (input : Document) (sink : Sink σ) (state : σ) :
    pipeline.run evaluator tables input sink state =
      let executed := pipeline.execute evaluator sink (.start input tables state)
      (executed.1.map fun _ => (executed.2.output, executed.2.warnings), executed.2.sink) := rfl

/-- A sink that is ready is told the snapshots that a run keeps. -/
theorem execute_tells (pipeline : Pipeline) (evaluator : Evaluator) (sink : Sink σ)
    (input : Document) (tables : TableCache) (ready : sink.start state = (.ok (), told)) :
    sink.Tells [] told (pipeline.execute evaluator Sink.keep (.start input tables []))
      (pipeline.execute evaluator sink (.start input tables state)) := by
  let start : Execution Snapshots := .start input tables []
  let entered := ((Running.enter pipeline 0).run start).2
  obtain ⟨same, other⟩ := Running.enter_withSink pipeline 0 start told
  have kept : (Running.step pipeline evaluator Sink.keep).run start = (.ok true, entered) :=
    Running.step_run_notStarted rfl
  have first : (Running.step pipeline evaluator sink).run (.start input tables state) =
      (.ok true, entered.withSink told) := by
    rw [Running.step_run_notStarted rfl]
    dsimp only [Execution.start]
    rw [ready, ← other]
    rfl
  have begun : entered.stage ≠ .notStarted := Running.enter_begun pipeline 0 start
  have onward := Running.tells_steps pipeline evaluator sink (2 * pipeline.nodes.length) begun told
  rw [execute, execute, stepCount, Running.steps, Running.steps, run_bind, run_bind, kept, first]
  rw [same] at onward
  exact onward

/-- A sink that is not ready ends a run at once. -/
theorem execute_unready {failure : Failure} (pipeline : Pipeline) (evaluator : Evaluator)
    (sink : Sink σ) (input : Document) (tables : TableCache)
    (unready : sink.start state = (.error failure, told)) :
    (pipeline.execute evaluator sink (.start input tables state)).1 = .error failure := by
  have first : (Running.step pipeline evaluator sink).run (.start input tables state) =
      (.error failure, (Execution.start input tables state).withSink told) := by
    rw [Running.step_run_notStarted rfl]
    dsimp only [Execution.start]
    rw [unready]
    rfl
  rw [execute, stepCount, Running.steps, run_bind, first]

end Pipeline

end DerivedFields

import DerivedFields.Proofs.Pipeline.Stepping

/-!
# The course of a run

A run may be asked for a step at any time, also after a step that failed. The invariant ties its
stage, its output and the snapshots of whole nodes to the steps that went on: the stages that were
reached and those that are still ahead are together the route of the pipeline, and the documents that
became the output are the snapshots of the nodes, in order. A step that fails is tried again from the
same stage, so it leaves no trace there. Any other step before the end reaches the first of the stages
that are ahead.
-/

namespace DerivedFields

open Stateful

/-! ## The route of a pipeline -/

namespace Pipeline

/-- The stages of a run from its beginning to its end. -/
def route (pipeline : Pipeline) : List Stage :=
  .notStarted ::
    (List.range pipeline.nodes.length).flatMap (fun node => [.processing node, .complete node]) ++
      [.done]

/-- The stages from the beginning of a node on. -/
def stagesFrom (pipeline : Pipeline) (index : Nat) : List Stage :=
  (List.range' index (pipeline.nodes.length - index)).flatMap
    (fun node => [.processing node, .complete node]) ++ [.done]

/-- The stages that a run still goes through. -/
def stagesAfter (pipeline : Pipeline) : Stage → List Stage
  | .notStarted => pipeline.stagesFrom 0
  | .processing index => .complete index :: pipeline.stagesFrom (index + 1)
  | .complete index => pipeline.stagesFrom (index + 1)
  | .done => []

variable (pipeline : Pipeline)

private theorem route_eq : pipeline.route = .notStarted :: pipeline.stagesAfter .notStarted := by
  rw [route, stagesAfter, stagesFrom, List.range_eq_range', Nat.sub_zero, List.cons_append]

private theorem stagesFrom_of_lt {index : Nat} (inside : index < pipeline.nodes.length) :
    pipeline.stagesFrom index =
      .processing index :: pipeline.stagesAfter (.processing index) := by
  obtain ⟨rest, counted⟩ : ∃ rest, pipeline.nodes.length - index = rest + 1 :=
    ⟨pipeline.nodes.length - index - 1, by omega⟩
  have onward : pipeline.nodes.length - (index + 1) = rest := by omega
  simp only [stagesFrom, stagesAfter, counted, onward, List.range'_succ, List.flatMap_cons,
    List.cons_append, List.nil_append]

private theorem stagesFrom_of_le {index : Nat} (outside : pipeline.nodes.length ≤ index) :
    pipeline.stagesFrom index = [.done] := by
  have exhausted : pipeline.nodes.length - index = 0 := by omega
  rw [stagesFrom, exhausted]
  rfl

private theorem length_route : pipeline.route.length = 2 * pipeline.nodes.length + 2 := by
  simp only [route, List.length_append, List.length_cons, List.length_nil, List.length_flatMap,
    List.map_const', List.length_range, List.sum_replicate_nat]
  omega

/-- Only at its end has a run no stage before it. -/
theorem stagesAfter_eq_nil_iff {stage : Stage} :
    pipeline.stagesAfter stage = [] ↔ stage = .done := by
  cases stage <;> simp [stagesAfter, stagesFrom]

end Pipeline

/-! ## Calls -/

/-- The snapshots that a sink keeps. -/
abbrev Snapshots := List (SnapshotPoint × Document)

/-- The snapshots of whole nodes, each with the number of its node. -/
def Snapshots.completed (snapshots : Snapshots) : List (Document × Nat) :=
  snapshots.filterMap fun (point, document) =>
    match point with
    | .nodeComplete node => some (document, node)
    | .instruction .. => none

/-- The output of a run that has just completed a node. -/
def Execution.promoted? {σ : Type} (execution : Execution σ) : Option Document :=
  match execution.stage with
  | .complete _ => some execution.output
  | .notStarted | .processing _ | .done => none

namespace Running

variable {σ : Type} (pipeline : Pipeline) (evaluator : Evaluator) (sink : Sink σ)

/-- Entering a node, or coming to the end, is going on to the next stage. -/
theorem stagesFrom_enter (index : Nat) (execution : Execution σ) :
    let entered := ((enter pipeline index).run execution).2
    pipeline.stagesFrom index = entered.stage :: pipeline.stagesAfter entered.stage := by
  simp only [enter_run]
  split
  · next inside => exact pipeline.stagesFrom_of_lt inside
  · next outside => exact pipeline.stagesFrom_of_le (by omega)

/-- The results of a number of calls of `step`, each with the state that it left. A call that failed
is followed by the next one all the same. -/
def calls : Nat → Execution σ → List (Except Failure Bool × Execution σ)
  | 0, _ => []
  | count + 1, execution =>
    let ran := (step pipeline evaluator sink).run execution
    ran :: calls count ran.2

/-- The state that calls leave a run in. -/
def stateAfter (execution : Execution σ) (calls : List (Except Failure Bool × Execution σ)) :
    Execution σ :=
  calls.foldl (fun _ ran => ran.2) execution

/-- The instructions of a node take no snapshots of whole nodes. -/
theorem hidden_process_completed (evaluator : Evaluator) (node position : Nat)
    (instructions : List Instruction) :
    Hidden Snapshots.completed (process evaluator Sink.keep node position instructions) :=
  hidden_process evaluator (fun _ _ _ _ => by simp [Snapshots.completed, Sink.keep]) _ _ _

/-- What a step does before the end of a run: it goes on to the next stage, or the instructions of the
node that it processes fail, and the run stays where it is. -/
theorem step_ahead (evaluator : Evaluator) {execution : Execution Snapshots}
    (ahead : execution.stage ≠ .done) :
    let ran := (step pipeline evaluator Sink.keep).run execution
    let processed (node : Nat) :=
      ((process evaluator Sink.keep (node + 1) 1 (pipeline.instructionsAt node)).run execution).1
    ((∀ node, execution.stage = .processing node → processed node = .ok ()) ∧
        ran.1 = .ok true ∧
        pipeline.stagesAfter execution.stage = ran.2.stage :: pipeline.stagesAfter ran.2.stage) ∨
      ∃ node failure, execution.stage = .processing node ∧ processed node = .error failure ∧
        ran.1 = .error failure ∧ ran.2.stage = execution.stage := by
  cases stage : execution.stage with
  | notStarted =>
    rw [step_run_notStarted stage]
    exact .inl ⟨nofun, rfl, stagesFrom_enter pipeline 0 _⟩
  | processing index =>
    have unseen := hidden_process_completed evaluator (index + 1) 1 (pipeline.instructionsAt index)
      execution
    rw [step_run_processing stage]
    rcases ran : (process evaluator Sink.keep (index + 1) 1 (pipeline.instructionsAt index)).run
      execution with ⟨failure | ⟨⟩, after⟩
    · rw [ran] at unseen
      exact .inr ⟨index, failure, rfl, congrArg Prod.fst ran, rfl,
        (congrArg Prod.fst unseen).trans stage⟩
    · refine .inl ⟨?_, rfl, rfl⟩
      rintro _ ⟨⟩
      exact congrArg Prod.fst ran
  | complete index =>
    rw [step_run_complete stage]
    exact .inl ⟨nofun, rfl, stagesFrom_enter pipeline (index + 1) _⟩
  | done => exact absurd stage ahead

/-- The states reached by the calls that went on. -/
def moves (calls : List (Except Failure Bool × Execution σ)) : List (Execution σ) :=
  calls.filterMap fun ran =>
    match ran.1 with
    | .ok true => some ran.2
    | .ok false | .error _ => none

private theorem moves_cons (ran : Except Failure Bool × Execution σ)
    (calls : List (Except Failure Bool × Execution σ)) :
    moves (ran :: calls) = moves [ran] ++ moves calls := by
  rw [moves, moves, moves, ← List.filterMap_append, List.singleton_append]

end Running

/-! ## The invariant -/

/-- The outputs of the nodes that were completed by the steps that went on. -/
def Execution.promotions {σ : Type} (moves : List (Execution σ)) : List Document :=
  moves.filterMap promoted?

private theorem Execution.promotions_concat {σ : Type} (moves : List (Execution σ))
    (reached : Execution σ) :
    promotions (moves ++ [reached]) = promotions moves ++ reached.promoted?.toList := by
  rw [promotions, List.filterMap_append, ← promotions]
  cases shown : reached.promoted? <;> simp [shown]

/-- The stages that a run has reached by the steps that went on, the last of which is its own, and
those that are ahead. -/
structure Execution.OnRoute {σ : Type} (pipeline : Pipeline) (moves : List (Execution σ))
    (execution : Execution σ) : Prop where
  stages : .notStarted :: moves.map (·.stage) ++ pipeline.stagesAfter execution.stage = pipeline.route
  last : (.notStarted :: moves.map (·.stage)).getLast? = some execution.stage

/-- What holds of a run with all snapshots kept, after the steps that went on. -/
structure Execution.OnCourse (pipeline : Pipeline) (input : Document)
    (moves : List (Execution Snapshots)) (execution : Execution Snapshots) : Prop
    extends Execution.OnRoute pipeline moves execution where
  processing : ∀ node, execution.stage = .processing node → (promotions moves).length = node
  complete : ∀ node, execution.stage = .complete node → (promotions moves).length = node + 1
  snapshots : Snapshots.completed execution.sink = (promotions moves).zipIdx 1
  output : execution.output = (promotions moves).getLast?.getD input

namespace Execution.OnRoute

variable {σ : Type} {pipeline : Pipeline} {moves : List (Execution σ)} {execution : Execution σ}

private theorem start (pipeline : Pipeline) (input : Document) (tables : TableCache) (state : σ) :
    OnRoute pipeline [] (.start input tables state) :=
  ⟨pipeline.route_eq.symm, rfl⟩

/-- A run that goes on is on the next stage. -/
theorem move (route : OnRoute pipeline moves execution) {reached : Execution σ}
    (next : pipeline.stagesAfter execution.stage =
      reached.stage :: pipeline.stagesAfter reached.stage) :
    OnRoute pipeline (moves ++ [reached]) reached := by
  obtain ⟨stages, -⟩ := route
  rw [next] at stages
  constructor
  · simpa [List.append_assoc] using stages
  · rw [List.map_append, ← List.cons_append]
    exact List.getLast?_concat

/-- The steps that went on count the stage of a run. -/
theorem getElem?_route (route : OnRoute pipeline moves execution) :
    pipeline.route[moves.length]? = some execution.stage := by
  have inside : moves.length < (Stage.notStarted :: moves.map (·.stage)).length := by simp
  rw [← route.stages, List.getElem?_append_left inside, ← route.last, List.getLast?_eq_getElem?]
  simp

private theorem getElem?_route_next (route : OnRoute pipeline moves execution) {next : Stage}
    {behind : List Stage} (ahead : pipeline.stagesAfter execution.stage = next :: behind) :
    pipeline.route[moves.length + 1]? = some next := by
  have reached : (Stage.notStarted :: moves.map (·.stage)).length = moves.length + 1 := by simp
  rw [← route.stages, ahead, ← reached, List.getElem?_append_right (Nat.le_refl _), Nat.sub_self]
  rfl

/-- A run that went on has left its first stage. -/
theorem begun (route : OnRoute pipeline moves execution) (moved : moves ≠ []) :
    execution.stage ≠ .notStarted := by
  intro stage
  have stages := route.stages
  rw [stage, pipeline.route_eq, List.cons_append, List.cons_inj_right, List.append_left_eq_self,
    List.map_eq_nil_iff] at stages
  exact moved stages

/-- A run is over after one step to start it and two for each node. -/
theorem stage_eq_done_iff (route : OnRoute pipeline moves execution) :
    execution.stage = .done ↔ moves.length = pipeline.stepCount := by
  have lengths := congrArg List.length route.stages
  rw [pipeline.length_route, List.length_append, List.length_cons, List.length_map] at lengths
  rw [← pipeline.stagesAfter_eq_nil_iff, List.eq_nil_iff_length_eq_zero, Pipeline.stepCount]
  omega

end Execution.OnRoute

namespace Execution.OnCourse

variable {pipeline : Pipeline} {input : Document} {moves : List (Execution Snapshots)}
  {execution other : Execution Snapshots}

/-- The invariant depends on what can be seen of a run. -/
theorem congr (course : OnCourse pipeline input moves execution)
    (same : other.visible Snapshots.completed = execution.visible Snapshots.completed) :
    OnCourse pipeline input moves other := by
  obtain ⟨stage, output, snapshots⟩ : other.stage = execution.stage ∧
      other.output = execution.output ∧
      Snapshots.completed other.sink = Snapshots.completed execution.sink := by
    simpa only [visible, Prod.mk.injEq] using same
  obtain ⟨⟨stages, last⟩, processing, complete, kept, shown⟩ := course
  exact ⟨⟨stage ▸ stages, stage ▸ last⟩, stage ▸ processing, stage ▸ complete,
    snapshots.trans kept, output.trans shown⟩

/-- A node is entered with the documents that are there. -/
theorem enter {index : Nat} (course : OnCourse pipeline input moves execution)
    (ahead : pipeline.stagesAfter execution.stage = pipeline.stagesFrom index)
    (counted : (promotions moves).length = index) :
    let entered := ((Running.enter pipeline index).run execution).2
    OnCourse pipeline input (moves ++ [entered]) entered := by
  intro entered
  have route : OnRoute pipeline (moves ++ [entered]) entered :=
    course.move (ahead.trans (Running.stagesFrom_enter pipeline index execution))
  obtain ⟨-, -, -, kept, shown⟩ := course
  revert route
  simp only [entered, Running.enter_run]
  split <;> intro route
  · refine ⟨route, ?_, nofun, ?_, ?_⟩
    all_goals simp only [promotions_concat, promoted?, Option.toList_none, List.append_nil]
    · rintro _ ⟨⟩
      exact counted
    · exact kept
    · exact shown
  · refine ⟨route, nofun, nofun, ?_, ?_⟩
    all_goals simp only [promotions_concat, promoted?, Option.toList_none, List.append_nil]
    · exact kept
    · exact shown

/-- What a node wrote becomes the output together with the snapshot of the node. -/
theorem completeNode {index : Nat} (course : OnCourse pipeline input moves execution)
    (stage : execution.stage = .processing index) (intermediate : Document) :
    let completed :=
      { execution with
        output := execution.intermediate
        intermediate
        sink := execution.sink ++ [(.nodeComplete (index + 1), execution.intermediate)]
        stage := .complete index }
    OnCourse pipeline input (moves ++ [completed]) completed := by
  have counted := course.processing index stage
  refine ⟨course.move (by rw [stage]; rfl), nofun, ?_, ?_, ?_⟩
  all_goals simp only [promotions_concat, promoted?, Option.toList_some]
  · rintro _ ⟨⟩
    rw [List.length_append, counted, List.length_singleton]
  · rw [Snapshots.completed, List.filterMap_append, ← Snapshots.completed, course.snapshots,
      List.zipIdx_append, counted, Nat.add_comm]
    rfl
  · rw [List.getLast?_concat, Option.getD_some]

/-- One call keeps the invariant, whatever it returns. -/
theorem step (course : OnCourse pipeline input moves execution) (moved : moves ≠ [])
    (evaluator : Evaluator) :
    let ran := (Running.step pipeline evaluator Sink.keep).run execution
    OnCourse pipeline input (moves ++ Running.moves [ran]) ran.2 := by
  cases stage : execution.stage with
  | notStarted => exact absurd stage (course.begun moved)
  | processing index =>
    have unseen := Running.hidden_process_completed evaluator (index + 1) 1
      (pipeline.instructionsAt index) execution
    rw [Running.step_run_processing stage]
    rcases ran : (Running.process evaluator Sink.keep (index + 1) 1
      (pipeline.instructionsAt index)).run execution with ⟨error | ⟨⟩, after⟩
    all_goals rw [ran] at unseen
    · simpa [Running.moves] using course.congr unseen
    · exact (course.congr unseen).completeNode ((congrArg Prod.fst unseen).trans stage) .empty
  | complete index =>
    rw [Running.step_run_complete stage]
    exact course.enter (by rw [stage, Pipeline.stagesAfter]) (course.complete index stage)
  | done =>
    rw [Running.step_run_done stage]
    simpa [Running.moves] using course

/-- A number of calls keeps the invariant, whatever each of them returns. -/
theorem calls (course : OnCourse pipeline input moves execution) (moved : moves ≠ [])
    (evaluator : Evaluator) (count : Nat) :
    OnCourse pipeline input
      (moves ++ Running.moves (Running.calls pipeline evaluator Sink.keep count execution))
      (Running.stateAfter execution
        (Running.calls pipeline evaluator Sink.keep count execution)) := by
  induction count generalizing moves execution with
  | zero => simpa [Running.calls, Running.moves, Running.stateAfter] using course
  | succ count ih =>
    rw [Running.calls, Running.moves_cons, ← List.append_assoc]
    exact ih (course.step moved evaluator) (List.append_ne_nil_of_left_ne_nil moved _)

end Execution.OnCourse

/-! ## Runs from the beginning -/

namespace Running

/-- A run that is over stays as it is. -/
theorem calls_done {σ : Type} (pipeline : Pipeline) (evaluator : Evaluator) (sink : Sink σ)
    {execution : Execution σ} (ended : execution.stage = .done) (count : Nat) :
    calls pipeline evaluator sink count execution = .replicate count (.ok false, execution) := by
  induction count with
  | zero => rfl
  | succ count ih => rw [calls, step_run_done ended, ih, List.replicate_succ]

/-- The first call of a run with all snapshots kept begins it with no snapshots. -/
theorem onCourse_first (pipeline : Pipeline) (evaluator : Evaluator) (input : Document)
    (tables : TableCache) (earlier : Snapshots) :
    let ran := (step pipeline evaluator Sink.keep).run (.start input tables earlier)
    Execution.OnCourse pipeline input (moves [ran]) ran.2 := by
  have course : Execution.OnCourse pipeline input [] (.start input tables []) :=
    ⟨.start pipeline input tables [], nofun, nofun, rfl, rfl⟩
  rw [step_run_notStarted rfl]
  exact course.enter rfl rfl

/-- However often a run is asked for a step, also after steps that failed: the stages it reaches
follow the route of its pipeline, and the steps that went on count the stage it is in. Before its end
one more call goes on to the next stage of the route, unless it is to process a node whose instructions
fail; then it fails like them and stays in its stage. It is over after one step to start it and two for
each node that went on, and stays as it is from then on; and the snapshots of whole nodes are those of
the completed nodes in order, once each, of which the last is the output. -/
theorem calls_keep (pipeline : Pipeline) (evaluator : Evaluator) (input : Document)
    (tables : TableCache) (earlier : Snapshots) (count : Nat) :
    let start := Execution.start input tables earlier
    let made := calls pipeline evaluator Sink.keep count start
    let final := stateAfter start made
    let next := (step pipeline evaluator Sink.keep).run final
    let processed (node : Nat) :=
      ((process evaluator Sink.keep (node + 1) 1 (pipeline.instructionsAt node)).run final).1
    let outputs := Execution.promotions (moves made)
    .notStarted :: (moves made).map (·.stage) <+: pipeline.route ∧
      pipeline.route[(moves made).length]? = some final.stage ∧
      (final.stage ≠ .done →
        ((∀ node, final.stage = .processing node → processed node = .ok ()) ∧
            next.1 = .ok true ∧ pipeline.route[(moves made).length + 1]? = some next.2.stage) ∨
          ∃ node failure, final.stage = .processing node ∧ processed node = .error failure ∧
            next.1 = .error failure ∧ next.2.stage = final.stage) ∧
      (final.stage = .done ↔ (moves made).length = 2 * pipeline.nodes.length + 1) ∧
      (final.stage = .done → ∀ further,
        calls pipeline evaluator Sink.keep further final = .replicate further (.ok false, final)) ∧
      Snapshots.completed final.sink =
        (if count = 0 then Snapshots.completed earlier else outputs.zipIdx 1) ∧
      final.output = outputs.getLast?.getD input := by
  intro start made final next processed outputs
  obtain ⟨route, snapshots, output⟩ : Execution.OnRoute pipeline (moves made) final ∧
      Snapshots.completed final.sink =
        (if count = 0 then Snapshots.completed earlier else outputs.zipIdx 1) ∧
      final.output = outputs.getLast?.getD input := by
    cases count with
    | zero => exact ⟨.start pipeline input tables earlier, rfl, rfl⟩
    | succ count =>
      have course : Execution.OnCourse pipeline input (moves made) final := by
        rw [show made = _ :: _ from rfl, moves_cons]
        exact (onCourse_first pipeline evaluator input tables earlier).calls nofun evaluator count
      exact ⟨course.toOnRoute, course.snapshots, course.output⟩
  refine ⟨⟨_, route.stages⟩, route.getElem?_route, fun ahead => ?_, route.stage_eq_done_iff,
    fun ended => calls_done pipeline evaluator Sink.keep ended, snapshots, output⟩
  rcases step_ahead pipeline evaluator ahead with ⟨processed, went, onward⟩ | stays
  · exact .inl ⟨processed, went, route.getElem?_route_next onward⟩
  · exact .inr stays

end Running

end DerivedFields

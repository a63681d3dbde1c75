import Mathlib
import DerivedFields.Proofs.Evaluation.Requests
import DerivedFields.Proofs.Pipeline.Effect
import DerivedFields.Proofs.Pipeline.Stepping
import DerivedFields.Proofs.Results

/-!
# Runs have the effect of their pipeline

A run keeps scripts and tables, moves through its stages and swaps two documents. The invariant is
that every script is kept with its own expression and every table as its source gives it. Under it
each part of a run does what the corresponding part of the effect does: an instruction, the
instructions of a node, and by induction on the nodes that are left the whole run.
-/

namespace DerivedFields

open Stateful

/-- A sink that takes every snapshot. -/
structure Sink.Reliable {σ : Type} (sink : Sink σ) : Prop where
  start : ∀ state, (sink.start state).1 = .ok ()
  record : ∀ point document state, (sink.record point document state).1 = .ok ()

theorem Sink.reliable_discard : discard.Reliable := ⟨fun _ => rfl, fun _ _ _ => rfl⟩

theorem Sink.reliable_keep : keep.Reliable := ⟨fun _ => rfl, fun _ _ _ => rfl⟩

variable {σ : Type} {evaluator : Evaluator} {source : TableSource} {tables : TableCache}
  {execution : Execution σ}

/-- What a run keeps is what it would get anew. -/
structure Execution.Sound (source : TableSource) (execution : Execution σ) : Prop where
  tables : execution.tables.Serves source
  scripts : ∀ decoded expr, execution.scripts.lookup decoded = some expr →
    Script.parse decoded = .ok expr

theorem Execution.sound_start (serves : tables.Serves source) (input : Document) (state : σ) :
    (Execution.start input tables state).Sound source where
  tables := serves
  scripts _ _ kept := by simp [Execution.start] at kept

/-- What is kept decides alone whether it is sound. -/
theorem Execution.Sound.of_kept {other : Execution σ} (sound : execution.Sound source)
    (tables : other.tables = execution.tables) (scripts : other.scripts = execution.scripts) :
    other.Sound source := by
  constructor
  · rw [tables]
    exact sound.tables
  · rw [scripts]
    exact sound.scripts

/-- A part of a run has an effect: it has its result, and leaves its document and its warnings.
It stays in its stage and leaves the output alone. -/
structure Execution.Reaches (source : TableSource) (execution : Execution σ)
    (effect : Except Failure (Document × List Warning))
    (ran : Except Failure Unit × Execution σ) : Prop where
  result : ran.1 = effect.map fun _ => ()
  sound : ran.2.Sound source
  stage : ran.2.stage = execution.stage
  output : ran.2.output = execution.output
  final : ∀ reached, effect = .ok reached → reached = (ran.2.intermediate, ran.2.warnings)

/-- A run to the end has an effect: it has its result, and ends with its document as the output and
with its warnings. -/
structure Execution.Finishes (effect : Except Failure (Document × List Warning))
    (ran : Except Failure Unit × Execution σ) : Prop where
  result : ran.1 = effect.map fun _ => ()
  final : ∀ reached, effect = .ok reached → reached = (ran.2.output, ran.2.warnings)
  done : ∀ reached, effect = .ok reached → ran.2.stage = .done

namespace Running

/-- A script that is kept is not parsed again, and one that was parsed is kept. -/
theorem compile_run (sound : execution.Sound source) (script : String) :
    ∃ scripts, (compile script).run execution =
        ((Script.parse (Script.decodeEntities script)).mapError .parse,
          { execution with scripts }) ∧
      { execution with scripts : Execution σ }.Sound source := by
  simp only [compile, run_bind, run_get]
  cases kept : execution.scripts.lookup (Script.decodeEntities script) with
  | some expr =>
    refine ⟨execution.scripts, ?_, sound⟩
    rw [sound.scripts _ _ kept]
    rfl
  | none =>
    cases parsed : Script.parse (Script.decodeEntities script) with
    | error error => exact ⟨execution.scripts, rfl, sound⟩
    | ok expr =>
      refine ⟨(Script.decodeEntities script, expr) :: execution.scripts, rfl,
        sound.tables, ?_⟩
      intro decoded other
      simp only [List.lookup_cons]
      cases same : decoded == Script.decodeEntities script with
      | true =>
        rintro ⟨⟩
        rw [beq_iff_eq.mp same]
        exact parsed
      | false => exact sound.scripts decoded other

/-- Tables that are kept do not show in the value of a script. -/
theorem evaluate_run (regular : evaluator.registry.Regular) (sound : execution.Sound source)
    (target : String) (expr : Script.Expr) :
    ∃ tables, (evaluate evaluator target expr).run execution =
        ((evaluator.value source execution.output execution.intermediate target expr).mapError
            .eval,
          { execution with tables }) ∧
      { execution with tables : Execution σ }.Sound source := by
  let scope : Scope :=
    ⟨evaluator.settings, execution.output, execution.intermediate, some (Path.parse target)⟩
  have fresh := evaluate_ofSource regular scope expr sound.tables []
  simp only [evaluate, Evaluator.value, run_bind, run_get]
  generalize (DerivedFields.evaluate evaluator.registry scope expr).run ⟨execution.tables, []⟩ = ran
    at fresh ⊢
  generalize (DerivedFields.evaluate evaluator.registry scope expr).run ⟨.ofSource source, []⟩ =
    anew at fresh ⊢
  rcases ran with ⟨result, ⟨tables, recovered⟩⟩
  rcases anew with ⟨result', ⟨tables', recovered'⟩⟩
  obtain ⟨rfl, alike, rfl⟩ : result = result' ∧ TableCache.Alike source tables tables' ∧
    recovered = recovered' := ⟨fresh.1, fresh.2.tables, fresh.2.recovered⟩
  refine ⟨tables, ?_, alike.first, sound.scripts⟩
  cases result <;> rfl

private theorem set_fst_of_written {document written : Document} {path text : String}
    (success : document.written path text = .ok written) :
    (document.set path text).1 = written := by
  simp only [Document.written] at success
  generalize (document.set path text).2 = result at success
  cases result with
  | error error => cases success
  | ok _ => exact Except.ok.inj success

/-- A write that succeeds leaves the document written; one that fails may have begun to. -/
theorem write_run (sound : execution.Sound source) (path text : String) :
    execution.Reaches source
      (((execution.intermediate.written path text).mapError fun error => .eval (.field error)).map
        (·, execution.warnings))
      ((write path text).run execution) := by
  have ran : (write path text).run execution =
      (((execution.intermediate.written path text).map fun _ => ()).mapError
          fun error => .eval (.field error),
        { execution with intermediate := (execution.intermediate.set path text).1 }) := by
    simp only [write, Document.written, run_bind, run_get]
    rcases execution.intermediate.set path text with ⟨written, error | ⟨⟩⟩ <;> rfl
  rw [ran]
  cases wrote : execution.intermediate.written path text with
  | error error =>
    refine ⟨rfl, sound.of_kept rfl rfl, rfl, rfl, ?_⟩
    rintro _ ⟨⟩
  | ok written =>
    refine ⟨rfl, sound.of_kept rfl rfl, rfl, rfl, ?_⟩
    rintro _ ⟨⟩
    rw [set_fst_of_written wrote]

/-- What has an effect can be followed by further warnings. -/
theorem warn_run {computation : Running σ Unit} {effect : Except Failure (Document × List Warning)}
    (reaches : execution.Reaches source effect (computation.run execution)) (more : List Warning) :
    execution.Reaches source (effect.map fun (written, warnings) => (written, warnings ++ more))
      ((do
        computation
        modify fun execution : Execution σ =>
          { execution with warnings := execution.warnings ++ more }).run execution) := by
  rw [run_bind]
  generalize computation.run execution = ran at reaches ⊢
  rcases ran with ⟨result, after⟩
  obtain ⟨rfl, sound, stage, output, final⟩ := reaches
  cases effect with
  | error failure =>
    refine ⟨rfl, sound, stage, output, ?_⟩
    rintro _ ⟨⟩
  | ok reached =>
    refine ⟨rfl, sound.of_kept rfl rfl, stage, output, ?_⟩
    rintro _ ⟨⟩
    rw [final reached rfl]
    rfl

/-- A reliable sink changes nothing but its own state. -/
theorem tellSink_run {act : σ → Except Failure Unit × σ} (taken : ∀ state, (act state).1 = .ok ())
    (execution : Execution σ) :
    (tellSink act).run execution = (.ok (), { execution with sink := (act execution.sink).2 }) := by
  rw [tellSink_eq, taken]

/-- An instruction writes what its effect says and keeps its warnings, or fails alike. -/
theorem execute_run (regular : evaluator.registry.Regular) (sound : execution.Sound source)
    (node position : Nat) (instruction : Instruction) :
    execution.Reaches source
      ((instruction.effect evaluator source execution.output execution.intermediate).map
        fun (written, recovered) =>
          (written, execution.warnings ++ recovered.map (⟨node, position, instruction.path, ·⟩)))
      ((execute evaluator node position instruction).run execution) := by
  by_cases blank : Text.allBlank instruction.script.toList
  · have wrote := write_run sound instruction.path ""
    simp only [execute, Instruction.effect, Instruction.text, blank, if_true]
    cases written : execution.intermediate.written instruction.path ""
    all_goals
      rw [written] at wrote
      simp only [bind, Except.bind, written, Except.mapError, Except.map, List.map_nil,
        List.append_nil]
      exact wrote
  · obtain ⟨scripts, compiled, kept⟩ := compile_run sound instruction.script
    simp only [execute, Instruction.effect, Instruction.text, blank, if_false, Bool.false_eq_true]
    rw [run_bind, compiled]
    cases Script.parse (Script.decodeEntities instruction.script) with
    | error error => exact ⟨rfl, kept, rfl, rfl, by rintro _ ⟨⟩⟩
    | ok expr =>
      obtain ⟨tables, evaluated, served⟩ := evaluate_run regular kept instruction.path expr
      simp only [Except.mapError]
      rw [run_bind, evaluated]
      cases valued : evaluator.value source execution.output execution.intermediate instruction.path
        expr with
      | error error =>
        refine ⟨?_, served, rfl, rfl, ?_⟩
        all_goals simp only [bind, Except.bind, valued, Except.mapError, Except.map]
        rintro _ ⟨⟩
      | ok pair =>
        rcases pair with ⟨value, recovered⟩
        have wrote := warn_run (write_run served instruction.path value.toText)
          (recovered.map (⟨node, position, instruction.path, ·⟩))
        cases written : execution.intermediate.written instruction.path value.toText
        all_goals
          rw [written] at wrote
          simp only [bind, Except.bind, valued, written, Except.mapError, Except.map]
          exact ⟨wrote.result, wrote.sound, wrote.stage, wrote.output, wrote.final⟩

/-- A failure of an instruction says where it happened. -/
theorem attempt_run (regular : evaluator.registry.Regular) (sound : execution.Sound source)
    (node position : Nat) (instruction : Instruction) :
    execution.Reaches source
      (Instruction.apply evaluator source node execution.output
        (execution.intermediate, execution.warnings) (instruction, position))
      ((tryCatch (execute evaluator node position instruction) fun failure =>
        throw (.instruction node position instruction.path failure)).run execution) := by
  have executed := execute_run regular sound node position instruction
  simp only [Instruction.apply, run_tryCatch]
  generalize instruction.effect evaluator source execution.output execution.intermediate = effect
    at executed ⊢
  rcases ran : (execute evaluator node position instruction).run execution with ⟨result, after⟩
  rw [ran] at executed
  obtain ⟨rfl, kept, stage, output, final⟩ := executed
  cases effect with
  | error failure =>
    refine ⟨rfl, kept, stage, output, ?_⟩
    rintro _ ⟨⟩
  | ok reached => exact ⟨rfl, kept, stage, output, final⟩

/-- A process has the effect of its instructions one after the other, for they all begin with the
same output. -/
theorem process_run {sink : Sink σ} (regular : evaluator.registry.Regular)
    (reliable : sink.Reliable) (sound : execution.Sound source) (node position : Nat)
    (instructions : List Instruction) :
    execution.Reaches source
      ((instructions.zipIdx position).foldlM
        (Instruction.apply evaluator source node execution.output)
        (execution.intermediate, execution.warnings))
      ((process evaluator sink node position instructions).run execution) := by
  induction instructions generalizing position execution with
  | nil =>
    refine ⟨rfl, sound, rfl, rfl, ?_⟩
    rintro _ ⟨⟩
    rfl
  | cons instruction rest ih =>
    have attempted := attempt_run regular sound node position instruction
    simp only [process, run_bind, run_get, List.zipIdx_cons, List.foldlM_cons]
    generalize Instruction.apply evaluator source node execution.output
      (execution.intermediate, execution.warnings) (instruction, position) = effect at attempted ⊢
    generalize (tryCatch (execute evaluator node position instruction) fun failure =>
      throw (.instruction node position instruction.path failure)).run execution = ran
      at attempted ⊢
    rcases ran with ⟨result, after⟩
    obtain ⟨rfl, kept, stage, output, final⟩ := attempted
    cases effect with
    | error failure =>
      refine ⟨rfl, kept, stage, output, ?_⟩
      rintro _ ⟨⟩
    | ok reached =>
      have left : reached = (after.intermediate, after.warnings) := final reached rfl
      subst left
      have recorded := reliable.record (.instruction node position) after.intermediate
      simp only [Except.map, tellSink_run recorded]
      generalize (sink.record (.instruction node position) after.intermediate after.sink).2 = told
      have onward := @ih { after with sink := told } (kept.of_kept rfl rfl) (position + 1)
      rw [← output]
      exact ⟨onward.result, onward.sound, onward.stage.trans stage, onward.output.trans output,
        onward.final⟩

/-- The step that processes a node ends with the document of the node as the output. -/
theorem step_processing {sink : Sink σ} {pipeline : Pipeline} {node : PipelineNode} {index : Nat}
    (regular : evaluator.registry.Regular) (reliable : sink.Reliable)
    (sound : execution.Sound source) (stage : execution.stage = .processing index)
    (copied : execution.intermediate = execution.output)
    (found : pipeline.nodes[index]? = some node) :
    ∃ after,
      (step pipeline evaluator sink).run execution =
        ((node.apply evaluator source (index + 1) (execution.output, execution.warnings)).map
          fun _ => true, after) ∧
      after.Sound source ∧
      ∀ reached,
        node.apply evaluator source (index + 1) (execution.output, execution.warnings) =
          .ok reached →
        reached = (after.output, after.warnings) ∧ after.stage = .complete index := by
  have processed := process_run regular reliable sound (index + 1) 1 node.instructions
  rw [copied] at processed
  simp only [step, run_bind, run_get, stage, found, Option.map_some, Option.getD_some,
    PipelineNode.apply]
  generalize (node.instructions.zipIdx 1).foldlM
    (Instruction.apply evaluator source (index + 1) execution.output)
    (execution.output, execution.warnings) = effect at processed ⊢
  generalize (process evaluator sink (index + 1) 1 node.instructions).run execution = ran
    at processed ⊢
  rcases ran with ⟨result, after⟩
  obtain ⟨rfl, kept, -, -, final⟩ := processed
  cases effect with
  | error failure =>
    refine ⟨after, rfl, kept, ?_⟩
    rintro _ ⟨⟩
  | ok reached =>
    have left : reached = (after.intermediate, after.warnings) := final reached rfl
    subst left
    have recorded := reliable.record (.nodeComplete (index + 1)) after.intermediate
    simp only [Except.map, promote, run_modify, tellSink_run recorded, run_pure]
    refine ⟨_, rfl, kept.of_kept rfl rfl, ?_⟩
    rintro _ ⟨⟩
    exact ⟨rfl, rfl⟩

/-- From the node that it enters on, a run has the effect of the nodes that are left. -/
theorem nodes_run {sink : Sink σ} {pipeline : Pipeline} (regular : evaluator.registry.Regular)
    (reliable : sink.Reliable) (sound : execution.Sound source) (index : Nat)
    (nodes : List PipelineNode) (left : pipeline.nodes.drop index = nodes) :
    Execution.Finishes
      ((nodes.zipIdx (index + 1)).foldlM (fun state numbered =>
          numbered.1.apply evaluator source numbered.2 state)
        (execution.output, execution.warnings))
      ((do
        enter pipeline index
        steps pipeline evaluator sink (2 * nodes.length)).run execution) := by
  induction nodes generalizing index execution with
  | nil =>
    have outside : ¬index < pipeline.nodes.length := by
      rw [List.drop_eq_nil_iff] at left
      omega
    simp only [run_bind, enter_run, outside, if_false]
    refine ⟨rfl, ?_, ?_⟩
    all_goals
      rintro _ ⟨⟩
      rfl
  | cons node nodes ih =>
    obtain ⟨found, onward⟩ := getElem?_and_drop_of_drop_eq_cons left
    have inside : index < pipeline.nodes.length := (List.getElem?_eq_some_iff.mp found).1
    let begun : Execution σ :=
      { execution with intermediate := execution.output, stage := .processing index }
    have begun_sound : begun.Sound source := sound.of_kept rfl rfl
    obtain ⟨after, stepped, kept, final⟩ :=
      step_processing regular reliable begun_sound rfl rfl found
    simp only [List.length_cons, Nat.mul_add, steps, run_bind, enter_run, inside, if_true,
      List.zipIdx_cons, List.foldlM_cons]
    rw [stepped]
    cases applied :
      node.apply evaluator source (index + 1) (execution.output, execution.warnings) with
    | error failure =>
      refine ⟨rfl, ?_, ?_⟩
      all_goals rintro _ ⟨⟩
    | ok reached =>
      obtain ⟨reached_eq, stage⟩ := final reached applied
      subst reached_eq
      have rest := ih kept (index + 1) onward
      simp only [Except.map, if_true, step, run_bind, run_get, stage, enter_run, run_pure] at rest ⊢
      exact rest

end Running

namespace Pipeline

variable (pipeline : Pipeline) {sink : Sink σ}

/-- A run takes enough steps to come to its end, and has the effect of its pipeline. -/
theorem execute_finishes (regular : evaluator.registry.Regular) (reliable : sink.Reliable)
    (serves : tables.Serves source) (input : Document) (state : σ) :
    Execution.Finishes (pipeline.effect evaluator source input)
      (pipeline.execute evaluator sink (.start input tables state)) := by
  let started : Execution σ :=
    { Execution.start input tables state with sink := (sink.start state).2 }
  have sound : started.Sound source := (Execution.sound_start serves input state).of_kept rfl rfl
  have finished := Running.nodes_run regular reliable sound 0 pipeline.nodes List.drop_zero
  simp only [execute, stepCount, Running.steps, Running.step, Execution.start, run_bind, run_get,
    Running.tellSink_run reliable.start, run_pure] at finished ⊢
  exact finished

/-- The document and the warnings of a run, or its failure, are the effect of the pipeline. -/
theorem run_fst (regular : evaluator.registry.Regular) (reliable : sink.Reliable)
    (serves : tables.Serves source) (input : Document) (state : σ) :
    (pipeline.run evaluator tables input sink state).1 =
      pipeline.effect evaluator source input := by
  have finished := pipeline.execute_finishes regular reliable serves input state
  simp only [run]
  cases effect : pipeline.effect evaluator source input with
  | error failure => rw [finished.result, effect]; rfl
  | ok reached =>
    rw [finished.result, effect, finished.final reached effect]
    rfl

/-- Under the built-in functions and with a reliable sink, a run gives the final document and the
warnings of its nodes and instructions carried out one after the other, each on its own, or the
first failure among them, whatever tables its evaluator has kept from before. A run that succeeds
took all of its steps. -/
theorem run_standard (settings : Settings) (reliable : sink.Reliable)
    (serves : tables.Serves source) (input : Document) (state : σ) :
    (pipeline.run (.standard settings) tables input sink state).1 =
        pipeline.effect (.standard settings) source input ∧
      ∀ reached, pipeline.effect (.standard settings) source input = .ok reached →
        (pipeline.execute (.standard settings) sink (.start input tables state)).2.stage = .done :=
  ⟨pipeline.run_fst Registry.regular_builtin reliable serves input state,
    (pipeline.execute_finishes Registry.regular_builtin reliable serves input state).done⟩

/-- The first node looks up in a table that was kept from before. The second node sees what it wrote,
but within the first node nothing of it shows. -/
theorem run_standard_two_nodes :
    let tables := ((TableCache.ofSource Evaluator.prices).get "prices").2
    (tables.isLoaded "prices" = true ∧ tables.Serves Evaluator.prices) ∧
      ((Pipeline.mk
          [⟨none, [⟨"total", "Lookup('pen', 'prices', 2)"⟩, ⟨"copy", "total"⟩]⟩,
            ⟨none, [⟨"last", "total"⟩]⟩]).run (.standard .standard) tables .empty Sink.keep []).1 =
        .ok (.json [("total", .string "2"), ("copy", .string ""), ("last", .string "2")], []) := by
  intro tables
  have serves : tables.Serves Evaluator.prices := (TableCache.serves_ofSource _).get_snd "prices"
  refine ⟨⟨by decide +kernel, serves⟩, ?_⟩
  rw [(run_standard _ .standard Sink.reliable_keep serves .empty []).1]
  have script : Text.allBlank "Lookup('pen', 'prices', 2)".toList = false := by cbv
  have total : Text.allBlank "total".toList = false := by cbv
  have parsedScript : Script.parse (Script.decodeEntities "Lookup('pen', 'prices', 2)") =
      .ok (.call "Lookup" [.string "pen", .string "prices", .number (.ofInt 2)]) := by cbv
  have parsedTotal : Script.parse (Script.decodeEntities "total") = .ok (.field "total") := by cbv
  have eagerly : isConditional "Lookup" = false := by cbv
  have found : Registry.builtin.get? "Lookup" =
      some ⟨"Lookup", .range 3 4, .lookup, .ofTables lookup⟩ := by rfl
  have called (scope : Scope) :
      (callFunction scope ⟨"Lookup", .range 3 4, .lookup, .ofTables lookup⟩
          [.string "pen", .string "prices", .numeric (.ofInt 2)]).run
        ⟨.ofSource Evaluator.prices, []⟩ =
      (.ok (.string "2"), ⟨((TableCache.ofSource Evaluator.prices).get "prices").2, []⟩) := by
    cbv
  have looked : Evaluator.value (.standard .standard) Evaluator.prices .empty .empty "total"
      (.call "Lookup" [.string "pen", .string "prices", .number (.ofInt 2)]) =
      .ok (.string "2", []) := by
    simp only [Evaluator.value, Evaluator.standard, evaluate, evaluateAll, eagerly, found, called,
      run_bind, run_pure, Bool.false_eq_true, if_false]
    rfl
  simp only [effect, PipelineNode.apply, Instruction.apply, Instruction.effect, Instruction.text,
    script, total, parsedScript, parsedTotal, looked, Bool.false_eq_true, if_false,
    Except.mapError, bind, Except.bind, List.zipIdx_cons, List.zipIdx_nil, List.foldlM_cons,
    List.foldlM_nil]
  simp only [Evaluator.value, evaluate, run_pure]
  rfl

end Pipeline

end DerivedFields

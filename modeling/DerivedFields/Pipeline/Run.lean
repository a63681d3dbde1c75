import DerivedFields.Evaluation
import DerivedFields.Pipeline.Basic
import DerivedFields.Pipeline.Sink

/-!
# Running a pipeline

Every node starts from a copy of the output document and writes into that copy; at its end the copy
becomes the output. A run goes through its stages one step at a time: a step begins a node, or
processes all of its instructions, or ends the run.

A step that fails leaves the run in its stage, so that the next step processes the same node again
on the document as far as it was written.
-/

namespace DerivedFields

/-- Where a run is; nodes are counted from zero. -/
inductive Stage
  | notStarted
  | processing (node : Nat)
  | complete (node : Nat)
  | done
  deriving DecidableEq

/-- A recovered failure with the instruction that it happened in, counted from one. -/
structure Warning where
  node : Nat
  position : Nat
  path : String
  failure : RecoveredFailure
  deriving DecidableEq

def Warning.message (warning : Warning) : String :=
  "node " ++ toString warning.node ++ ", instruction " ++ toString warning.position ++ " (path '" ++
    warning.path ++ "'): " ++ warning.failure.function ++ " returned '' after: " ++
    warning.failure.error.message

/-- The state of a run. Scripts that were parsed before are kept by their decoded text. -/
structure Execution (σ : Type) where
  stage : Stage
  output : Document
  intermediate : Document
  scripts : List (String × Script.Expr)
  warnings : List Warning
  tables : TableCache
  sink : σ

/-- The state before the first step. -/
def Execution.start {σ : Type} (input : Document) (tables : TableCache) (sink : σ) :
    Execution σ :=
  ⟨.notStarted, input, input, [], [], tables, sink⟩

/-- A computation that may fail and goes on changing the state of a run. -/
abbrev Running (σ : Type) := ExceptT Failure (StateM (Execution σ))

namespace Running

variable {σ : Type}

/-- The result of a computation, its error turned into a failure. -/
def check {ε α : Type} (toFailure : ε → Failure) : Except ε α → Running σ α
  | .ok value => return value
  | .error error => throw (toFailure error)

/-- Lets the sink act. -/
def tellSink (act : σ → Except Failure Unit × σ) : Running σ Unit := do
  let execution ← get
  let (result, sink) := act execution.sink
  set { execution with sink }
  check id result

/-- Writes text into the document of the node. -/
def write (path text : String) : Running σ Unit := do
  let execution ← get
  let (intermediate, result) := execution.intermediate.set path text
  set { execution with intermediate }
  check (fun error => .eval (.field error)) result

/-- The expression of a script; each decoded text is parsed once. -/
def compile (script : String) : Running σ Script.Expr := do
  let decoded := Script.decodeEntities script
  let execution ← get
  match execution.scripts.lookup decoded with
  | some expr => return expr
  | none =>
    let expr ← check .parse (Script.parse decoded)
    set { execution with scripts := (decoded, expr) :: execution.scripts }
    return expr

/-- Evaluates an expression for a target path, and returns the failures recovered as well. -/
def evaluate (evaluator : Evaluator) (target : String) (expr : Script.Expr) :
    Running σ (Value × List RecoveredFailure) := do
  let execution ← get
  let scope : Scope :=
    ⟨evaluator.settings, execution.output, execution.intermediate, some (Path.parse target)⟩
  let (result, progress) :=
    (DerivedFields.evaluate evaluator.registry scope expr).run ⟨execution.tables, []⟩
  set { execution with tables := progress.tables }
  let value ← check .eval result
  return (value, progress.recovered)

/-- Carries out one instruction. A blank script writes the empty text. Warnings are kept only once
the value has been written. -/
def execute (evaluator : Evaluator) (node position : Nat) (instruction : Instruction) :
    Running σ Unit := do
  if Text.allBlank instruction.script.toList then write instruction.path ""
  else
    let expr ← compile instruction.script
    let (value, recovered) ← evaluate evaluator instruction.path expr
    write instruction.path value.toText
    modify fun execution =>
      { execution with
        warnings := execution.warnings ++
          recovered.map fun failure => ⟨node, position, instruction.path, failure⟩ }

/-- Carries out the instructions of a node from a position on, with a snapshot after each. -/
def process (evaluator : Evaluator) (sink : Sink σ) (node : Nat) :
    Nat → List Instruction → Running σ Unit
  | _, [] => return ()
  | position, instruction :: rest => do
    tryCatch (execute evaluator node position instruction) fun source =>
      throw (.instruction node position instruction.path source)
    let execution ← get
    tellSink (sink.record (.instruction node position) execution.intermediate)
    process evaluator sink node (position + 1) rest

/-- Begins a node with a copy of the output, or ends the run if there is no such node. -/
def enter (pipeline : Pipeline) (index : Nat) : Running σ Unit :=
  modify fun execution =>
    if index < pipeline.nodes.length then
      { execution with intermediate := execution.output, stage := .processing index }
    else { execution with stage := .done }

/-- Makes the document of the node the output. -/
def promote : Running σ Unit :=
  modify fun execution =>
    { execution with output := execution.intermediate, intermediate := .empty }

/-- Goes on by one stage; `false` says that the run was over already. -/
def step (pipeline : Pipeline) (evaluator : Evaluator) (sink : Sink σ) : Running σ Bool := do
  match (← get).stage with
  | .notStarted =>
    tellSink sink.start
    enter pipeline 0
    return true
  | .processing index =>
    process evaluator sink (index + 1) 1
      ((pipeline.nodes[index]?.map (·.instructions)).getD [])
    promote
    let execution ← get
    tellSink (sink.record (.nodeComplete (index + 1)) execution.output)
    modify fun execution => { execution with stage := .complete index }
    return true
  | .complete index =>
    enter pipeline (index + 1)
    return true
  | .done => return false

/-- Takes steps until the run is over, but no more than a number of them. -/
def steps (pipeline : Pipeline) (evaluator : Evaluator) (sink : Sink σ) : Nat → Running σ Unit
  | 0 => return ()
  | count + 1 => do
    if ← step pipeline evaluator sink then steps pipeline evaluator sink count else return ()

end Running

/-- The number of steps until a run is over: one to start it and two for each node. -/
def Pipeline.stepCount (pipeline : Pipeline) : Nat := 2 * pipeline.nodes.length + 1

/-- Runs a pipeline to its end or to the first failure, and returns the state it ends in. -/
def Pipeline.execute {σ : Type} (pipeline : Pipeline) (evaluator : Evaluator) (sink : Sink σ)
    (initial : Execution σ) : Except Failure Unit × Execution σ :=
  (Running.steps pipeline evaluator sink pipeline.stepCount).run initial

/-- Runs a pipeline on a document, with the tables that the evaluator has kept: its final output and
warnings, and the state of the sink. -/
def Pipeline.run {σ : Type} (pipeline : Pipeline) (evaluator : Evaluator) (tables : TableCache)
    (input : Document) (sink : Sink σ) (state : σ) :
    Except Failure (Document × List Warning) × σ :=
  let (result, final) := pipeline.execute evaluator sink (.start input tables state)
  (result.map fun _ => (final.output, final.warnings), final.sink)

end DerivedFields

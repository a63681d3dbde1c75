import DerivedFields.Pipeline.Run

/-!
# What a pipeline does to a document

The effect of a pipeline is a fold over its nodes, and that of a node a fold over its instructions.
There are no stages and no snapshots here, no script is kept after it was parsed and no table after
it was read. Every instruction works on its own, on the output of the node before and on the
document as its node has written it so far.
-/

namespace DerivedFields

variable (evaluator : Evaluator) (source : TableSource)

/-- The value of an expression for a target path, evaluated on its own, and the failures recovered
for it. -/
def Evaluator.value (output intermediate : Document) (target : String) (expr : Script.Expr) :
    Except EvalError (Value × List RecoveredFailure) :=
  let scope : Scope := ⟨evaluator.settings, output, intermediate, some (Path.parse target)⟩
  let (result, progress) := (evaluate evaluator.registry scope expr).run ⟨.ofSource source, []⟩
  result.map (·, progress.recovered)

/-- The document with text written at a path. -/
def Document.written (document : Document) (path text : String) : Except FieldError Document :=
  (document.set path text).2.map fun _ => (document.set path text).1

namespace Instruction

/-- The text that an instruction writes, with the failures recovered for it. A blank script gives
the empty text; any other is decoded, parsed, and evaluated for the path of its instruction. -/
def text (instruction : Instruction) (output intermediate : Document) :
    Except Failure (String × List RecoveredFailure) :=
  if Text.allBlank instruction.script.toList then .ok ("", [])
  else do
    let expr ← (Script.parse (Script.decodeEntities instruction.script)).mapError .parse
    let (value, recovered) ←
      (evaluator.value source output intermediate instruction.path expr).mapError .eval
    .ok (value.toText, recovered)

/-- The document with the text of an instruction written. -/
def effect (instruction : Instruction) (output intermediate : Document) :
    Except Failure (Document × List RecoveredFailure) := do
  let (text, recovered) ← instruction.text evaluator source output intermediate
  let written ← (intermediate.written instruction.path text).mapError fun error =>
    .eval (.field error)
  .ok (written, recovered)

/-- Carries out a numbered instruction of a node that began with an output document. Its warnings
go behind those that there are; a failure says where it happened. -/
def apply (node : Nat) (output : Document) (state : Document × List Warning)
    (numbered : Instruction × Nat) : Except Failure (Document × List Warning) := do
  let (instruction, position) := numbered
  let (written, recovered) ← (instruction.effect evaluator source output state.1).mapError
    (.instruction node position instruction.path)
  .ok (written, state.2 ++ recovered.map (⟨node, position, instruction.path, ·⟩))

end Instruction

/-- Carries out the instructions of a numbered node in order, from a copy of the output. -/
def PipelineNode.apply (node : PipelineNode) (number : Nat) (state : Document × List Warning) :
    Except Failure (Document × List Warning) :=
  (node.instructions.zipIdx 1).foldlM (Instruction.apply evaluator source number state.1) state

/-- The final document of a pipeline and its warnings, or the failure that ends it. -/
def Pipeline.effect (pipeline : Pipeline) (input : Document) :
    Except Failure (Document × List Warning) :=
  (pipeline.nodes.zipIdx 1).foldlM
    (fun state (node, number) => node.apply evaluator source number state) (input, [])

end DerivedFields

/-!
# Pipelines

A pipeline is a sequence of nodes, each a sequence of instructions. An instruction names the path
that a script's value is written to.
-/

namespace DerivedFields

structure Instruction where
  path : String
  script : String
  deriving DecidableEq

structure PipelineNode where
  name : Option String
  instructions : List Instruction
  deriving DecidableEq

structure Pipeline where
  nodes : List PipelineNode
  deriving DecidableEq

/-- The number of instructions in all nodes. -/
def Pipeline.instructionCount (pipeline : Pipeline) : Nat :=
  pipeline.nodes.foldl (fun count node => count + node.instructions.length) 0

end DerivedFields

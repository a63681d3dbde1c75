import DerivedFields.Json.Reader
import DerivedFields.Json.Record
import DerivedFields.Pipeline.Basic

/-!
# Pipeline definitions

A pipeline as a JSON record. Only the path of an instruction has to be given.
-/

namespace DerivedFields

open Json.Written (defaulted? nullable? string?)

namespace Instruction

def ofWritten? (written : Json.Written) : Option Instruction := do
  match ← written.fields? ["path", "script"] with
  | [some path, script] =>
    some {
      path := ← path.string?
      script := ← defaulted? "" string? script }
  | _ => none

def toJson (instruction : Instruction) : Json :=
  .object [("path", .string instruction.path), ("script", .string instruction.script)]

end Instruction

namespace PipelineNode

/-- The instructions of a node. -/
def instructions? (written : Json.Written) : Option (List Instruction) := do
  (← written.array?).mapM Instruction.ofWritten?

def ofWritten? (written : Json.Written) : Option PipelineNode := do
  match ← written.fields? ["name", "instructions"] with
  | [name, instructions] =>
    some {
      name := ← defaulted? none (nullable? string?) name
      instructions := ← defaulted? [] instructions? instructions }
  | _ => none

/-- A node without a name has no member for it. -/
def toJson (node : PipelineNode) : Json :=
  let instructions := ("instructions", Json.array (node.instructions.map Instruction.toJson))
  match node.name with
  | some name => .object [("name", .string name), instructions]
  | none => .object [instructions]

end PipelineNode

namespace Pipeline

def nodes? (written : Json.Written) : Option (List PipelineNode) := do
  (← written.array?).mapM PipelineNode.ofWritten?

def ofWritten? (written : Json.Written) : Option Pipeline := do
  match ← written.fields? ["nodes"] with
  | [nodes] => some ⟨← defaulted? [] nodes? nodes⟩
  | _ => none

def ofJson? (json : Json) : Option Pipeline := ofWritten? json.asWritten

/-- Reads the text of a definition. -/
def read? (text : String) : Option Pipeline := (Json.Written.read? text).bind ofWritten?

def toJson (pipeline : Pipeline) : Json :=
  .object [("nodes", .array (pipeline.nodes.map PipelineNode.toJson))]

end Pipeline

end DerivedFields

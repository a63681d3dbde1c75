import Mathlib
import DerivedFields.Proofs.Pipeline.Effect
import DerivedFields.Proofs.Results

/-!
# Points of a pipeline

A pipeline has a point behind each of its instructions and one at the end of each node. Cut off at a
point, it is carried out up to there. The effect of a cut follows from that of the cut before it by the
instruction, or the node, in between.
-/

namespace DerivedFields

/-! ## Points of a pipeline -/

/-- The points of the instructions of a node, from a position on. -/
def SnapshotPoint.within (node position count : Nat) : List SnapshotPoint :=
  (List.range' position count).map (.instruction node)

/-- The points of a node with a number: one after each instruction, and the end of the node. -/
def PipelineNode.points (node : PipelineNode) (number : Nat) : List SnapshotPoint :=
  SnapshotPoint.within number 1 node.instructions.length ++ [.nodeComplete number]

namespace Pipeline

/-- The points of numbered nodes. -/
def pointsFrom (number : Nat) : List PipelineNode → List SnapshotPoint
  | [] => []
  | node :: rest => node.points number ++ pointsFrom (number + 1) rest

/-- The points of a pipeline in the order of its execution. -/
def points (pipeline : Pipeline) : List SnapshotPoint := pointsFrom 1 pipeline.nodes

end Pipeline

theorem PipelineNode.node_of_mem_points {node : PipelineNode} {number : Nat} {point : SnapshotPoint}
    (member : point ∈ node.points number) : point.node = number := by
  rcases List.mem_append.mp member with within | last
  · obtain ⟨position, -, rfl⟩ := List.mem_map.mp within
    rfl
  · obtain rfl := List.mem_singleton.mp last
    rfl

private theorem PipelineNode.nodup_points (node : PipelineNode) (number : Nat) :
    (node.points number).Nodup := by
  have within : (SnapshotPoint.within number 1 node.instructions.length).Nodup :=
    (List.nodup_range' 1).map fun _ _ same => (SnapshotPoint.instruction.inj same).2
  refine within.append (List.nodup_singleton _) ?_
  intro point inside last
  obtain ⟨position, -, rfl⟩ := List.mem_map.mp inside
  cases List.mem_singleton.mp last

namespace Pipeline

theorem le_node_of_mem_pointsFrom {number : Nat} {nodes : List PipelineNode} {point : SnapshotPoint}
    (member : point ∈ pointsFrom number nodes) : number ≤ point.node := by
  induction nodes generalizing number with
  | nil => cases member
  | cons node rest ih =>
    rcases List.mem_append.mp member with first | later
    · exact (PipelineNode.node_of_mem_points first).ge
    · have := ih later
      omega

private theorem nodup_pointsFrom (number : Nat) (nodes : List PipelineNode) :
    (pointsFrom number nodes).Nodup := by
  induction nodes generalizing number with
  | nil => exact List.nodup_nil
  | cons node rest ih =>
    refine (node.nodup_points number).append (ih (number + 1)) ?_
    intro point first later
    have here := PipelineNode.node_of_mem_points first
    have behind := le_node_of_mem_pointsFrom later
    omega

/-- No point is passed twice. -/
theorem nodup_points (pipeline : Pipeline) : pipeline.points.Nodup :=
  nodup_pointsFrom 1 pipeline.nodes

end Pipeline

/-! ## Cuts -/

/-- The node with its first instructions only. -/
def PipelineNode.cut (node : PipelineNode) (count : Nat) : PipelineNode :=
  { node with instructions := node.instructions.take count }

/-- The pipeline up to a point: the nodes up to the one of the point, and of that node the
instructions up to the point. -/
def Pipeline.cut (pipeline : Pipeline) : SnapshotPoint → Pipeline
  | .instruction number position => ⟨(pipeline.nodes.take number).modifyLast (·.cut position)⟩
  | .nodeComplete number => ⟨pipeline.nodes.take number⟩

namespace Pipeline

variable {pipeline : Pipeline} {evaluator : Evaluator} {source : TableSource} {input : Document}
  {node : PipelineNode} {index : Nat}

private theorem nodes_take_succ (found : pipeline.nodes[index]? = some node) :
    pipeline.nodes.take (index + 1) = pipeline.nodes.take index ++ [node] := by
  rw [List.take_add_one, found, Option.toList_some]

private theorem cut_instruction (found : pipeline.nodes[index]? = some node) (count : Nat) :
    pipeline.cut (.instruction (index + 1) count) =
      ⟨pipeline.nodes.take index ++ [node.cut count]⟩ := by
  rw [cut, nodes_take_succ found, List.modifyLast_concat]

/-- A node that is not shortened is complete. -/
theorem cut_length (found : pipeline.nodes[index]? = some node) :
    pipeline.cut (.instruction (index + 1) node.instructions.length) =
      pipeline.cut (.nodeComplete (index + 1)) := by
  rw [cut_instruction found, PipelineNode.cut, List.take_length, cut, nodes_take_succ found]

/-- The last node of a pipeline works on what the ones before it left. -/
theorem effect_cut_instruction (found : pipeline.nodes[index]? = some node) (count : Nat)
    {started : Document × List Warning}
    (before : (pipeline.cut (.nodeComplete index)).effect evaluator source input = .ok started) :
    (pipeline.cut (.instruction (index + 1) count)).effect evaluator source input =
      (node.cut count).apply evaluator source (index + 1) started := by
  have inside : index < pipeline.nodes.length := (List.getElem?_eq_some_iff.mp found).1
  have counted : (pipeline.nodes.take index).length = index := List.length_take_of_le inside.le
  simp only [effect, cut] at before
  rw [cut_instruction found, effect, foldlM_zipIdx_concat before, counted]

/-- A node that is complete was carried out as a whole. -/
theorem effect_cut_nodeComplete (found : pipeline.nodes[index]? = some node)
    {started : Document × List Warning}
    (before : (pipeline.cut (.nodeComplete index)).effect evaluator source input = .ok started) :
    (pipeline.cut (.nodeComplete (index + 1))).effect evaluator source input =
      node.apply evaluator source (index + 1) started := by
  rw [← cut_length found, effect_cut_instruction found _ before, PipelineNode.cut, List.take_length]

/-- No instruction of a node has been carried out yet. -/
theorem effect_cut_zero (found : pipeline.nodes[index]? = some node)
    {started : Document × List Warning}
    (before : (pipeline.cut (.nodeComplete index)).effect evaluator source input = .ok started) :
    (pipeline.cut (.instruction (index + 1) 0)).effect evaluator source input = .ok started := by
  rw [effect_cut_instruction found 0 before]
  rfl

/-- One more instruction of a node is carried out. -/
theorem effect_cut_succ (found : pipeline.nodes[index]? = some node) {count : Nat}
    {instruction : Instruction} (next : node.instructions[count]? = some instruction)
    {started reached : Document × List Warning}
    (before : (pipeline.cut (.nodeComplete index)).effect evaluator source input = .ok started)
    (after : (pipeline.cut (.instruction (index + 1) count)).effect evaluator source input =
      .ok reached) :
    (pipeline.cut (.instruction (index + 1) (count + 1))).effect evaluator source input =
      Instruction.apply evaluator source (index + 1) started.1 reached
        (instruction, count + 1) := by
  have inside : count < node.instructions.length := (List.getElem?_eq_some_iff.mp next).1
  have counted : (node.instructions.take count).length = count := List.length_take_of_le inside.le
  rw [effect_cut_instruction found _ before] at after ⊢
  simp only [PipelineNode.apply, PipelineNode.cut] at after ⊢
  rw [List.take_add_one, next, Option.toList_some, foldlM_zipIdx_concat after, counted]

end Pipeline

/-- A failure says where it happened. -/
theorem Instruction.failure_of_apply {evaluator : Evaluator} {source : TableSource}
    {number position : Nat} {output : Document} {state : Document × List Warning}
    {instruction : Instruction} {failure : Failure}
    (failed : Instruction.apply evaluator source number output state (instruction, position) =
      .error failure) :
    ∃ cause, failure = .instruction number position instruction.path cause := by
  simp only [Instruction.apply] at failed
  cases written : instruction.effect evaluator source output state.1 with
  | error cause =>
    rw [written] at failed
    exact ⟨cause, (Except.error.inj failed).symm⟩
  | ok _ =>
    rw [written] at failed
    cases failed

end DerivedFields

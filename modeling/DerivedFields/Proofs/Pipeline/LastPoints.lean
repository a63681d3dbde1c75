import Mathlib
import DerivedFields.Proofs.Pipeline.Trail

/-!
# The last point of each node

The points of a pipeline come node by node, so the last one that a run has come to in a node is the
end of the node, unless the run stopped in it. There it is the instruction before the one that
failed, if there is one.
-/

namespace DerivedFields

/-! ## The last of those with a node -/

/-- The last of the points of a node. -/
def SnapshotPoint.lastOf? (node : Nat) (points : List SnapshotPoint) : Option SnapshotPoint :=
  (points.filter fun point => point.node == node).getLast?

/-- The last snapshot of a node. -/
def Snapshots.lastOf? (node : Nat) (snapshots : Snapshots) : Option (SnapshotPoint × Document) :=
  (snapshots.filter fun snapshot => snapshot.1.node == node).getLast?

theorem Snapshots.lastOf?_cons (node : Nat) (snapshot : SnapshotPoint × Document)
    (rest : Snapshots) :
    Snapshots.lastOf? node (snapshot :: rest) =
      (rest.lastOf? node).or (if snapshot.1.node = node then some snapshot else none) := by
  rw [lastOf?, lastOf?, List.filter_cons]
  by_cases own : snapshot.1.node = node
  · rw [if_pos (beq_iff_eq.mpr own), if_pos own, List.getLast?_cons]
    cases (rest.filter fun snapshot => snapshot.1.node == node).getLast? <;> rfl
  · rw [if_neg (fun same => own (beq_iff_eq.mp same)), if_neg own, Option.or_none]

theorem Snapshots.lastOf?_points (node : Nat) (snapshots : Snapshots) :
    (snapshots.lastOf? node).map Prod.fst =
      SnapshotPoint.lastOf? node (snapshots.map Prod.fst) := by
  rw [lastOf?, SnapshotPoint.lastOf?, List.filter_map, List.getLast?_map]
  rfl

private theorem SnapshotPoint.filter_eq_nil {node : Nat} {points : List SnapshotPoint}
    (other : ∀ point ∈ points, point.node ≠ node) :
    points.filter (fun point => point.node == node) = [] := by
  rw [List.filter_eq_nil_iff]
  intro point member same
  exact other point member (beq_iff_eq.mp same)

/-- The ends of the first nodes. -/
def SnapshotPoint.completed (count : Nat) : List SnapshotPoint :=
  (List.range' 1 count).map .nodeComplete

/-- The last points of the nodes in front of an instruction: the ends of the nodes before, and of
its own node the instruction before it, unless it is the first one. -/
def SnapshotPoint.lastBefore (node position : Nat) : List SnapshotPoint :=
  completed (node - 1) ++ if 1 < position then [.instruction node (position - 1)] else []

private theorem SnapshotPoint.mem_completed {point : SnapshotPoint} {count : Nat} :
    point ∈ completed count ↔ ∃ node, 1 ≤ node ∧ node ≤ count ∧ point = .nodeComplete node := by
  simp only [completed, List.mem_map, List.mem_range'_1]
  constructor
  · rintro ⟨node, ⟨least, most⟩, rfl⟩
    exact ⟨node, least, by omega, rfl⟩
  · rintro ⟨node, least, most, rfl⟩
    exact ⟨node, ⟨least, by omega⟩, rfl⟩

private theorem SnapshotPoint.mem_lastBefore {point : SnapshotPoint} {node position : Nat} :
    point ∈ lastBefore node position ↔
      (∃ earlier, 1 ≤ earlier ∧ earlier < node ∧ point = .nodeComplete earlier) ∨
        1 < position ∧ point = .instruction node (position - 1) := by
  rw [lastBefore, List.mem_append, mem_completed]
  refine or_congr ?_ ?_
  · refine exists_congr fun earlier => and_congr_right fun least => and_congr_left' ?_
    omega
  · split <;> simp_all

/-! ## The points of a node -/

namespace Pipeline

private theorem pairwise_pointsFrom (number : Nat) (nodes : List PipelineNode) :
    (pointsFrom number nodes).Pairwise fun first second => first.node ≤ second.node := by
  induction nodes generalizing number with
  | nil => exact .nil
  | cons node rest ih =>
    have within : (node.points number).Pairwise fun first second => first.node ≤ second.node := by
      apply List.pairwise_of_forall_mem_list
      intro first here second there
      rw [PipelineNode.node_of_mem_points here, PipelineNode.node_of_mem_points there]
    refine List.pairwise_append.mpr ⟨within, ih (number + 1), ?_⟩
    intro first here second behind
    have := PipelineNode.node_of_mem_points here
    have := le_node_of_mem_pointsFrom behind
    omega

private theorem filter_pointsFrom (number index : Nat) (nodes : List PipelineNode) :
    (pointsFrom number nodes).filter (fun point => point.node == number + index) =
      (nodes[index]?.map fun node => node.points (number + index)).getD [] := by
  induction nodes generalizing number index with
  | nil => rfl
  | cons node rest ih =>
    rw [pointsFrom, List.filter_append]
    cases index with
    | zero =>
      have own : (node.points number).filter (fun point => point.node == number) =
          node.points number := by
        rw [List.filter_eq_self]
        exact fun point member => beq_iff_eq.mpr (PipelineNode.node_of_mem_points member)
      have others :
          (pointsFrom (number + 1) rest).filter (fun point => point.node == number) = [] := by
        apply SnapshotPoint.filter_eq_nil
        intro point member
        have := le_node_of_mem_pointsFrom member
        omega
      rw [Nat.add_zero, own, others, List.append_nil]
      rfl
    | succ index =>
      have own : (node.points number).filter (fun point => point.node == number + (index + 1)) =
          [] := by
        apply SnapshotPoint.filter_eq_nil
        intro point member
        have := PipelineNode.node_of_mem_points member
        omega
      have shifted : number + (index + 1) = number + 1 + index := by omega
      rw [own, List.nil_append, shifted, ih]
      rfl

/-- The points of a node of a pipeline. -/
theorem filter_points (pipeline : Pipeline) (index : Nat) :
    pipeline.points.filter (fun point => point.node == index + 1) =
      (pipeline.nodes[index]?.map fun node => node.points (index + 1)).getD [] := by
  rw [Nat.add_comm]
  exact filter_pointsFrom 1 index pipeline.nodes

/-- The last point of a node is its end. -/
theorem lastOf?_points (pipeline : Pipeline) (number : Nat) :
    SnapshotPoint.lastOf? number pipeline.points =
      if 1 ≤ number ∧ number ≤ pipeline.nodes.length then some (.nodeComplete number)
      else none := by
  rw [SnapshotPoint.lastOf?]
  cases number with
  | zero =>
    rw [SnapshotPoint.filter_eq_nil, if_neg (by omega)]
    · rfl
    · intro point member
      have := le_node_of_mem_pointsFrom member
      omega
  | succ index =>
    rw [filter_points]
    by_cases inside : index < pipeline.nodes.length
    · rw [List.getElem?_eq_getElem inside, if_pos (by omega), Option.map_some, Option.getD_some,
        PipelineNode.points, List.getLast?_concat]
    · rw [List.getElem?_eq_none (Nat.le_of_not_lt inside), if_neg (by omega)]
      rfl

theorem lastOf?_points_iff (pipeline : Pipeline) (point : SnapshotPoint) :
    SnapshotPoint.lastOf? point.node pipeline.points = some point ↔
      point ∈ SnapshotPoint.completed pipeline.nodes.length := by
  rw [lastOf?_points, SnapshotPoint.mem_completed]
  constructor
  · intro last
    split at last
    · next inside => exact ⟨point.node, inside.1, inside.2, (Option.some.inj last).symm⟩
    · cases last
  · rintro ⟨node, least, most, rfl⟩
    exact if_pos ⟨least, most⟩

variable {pipeline : Pipeline} {before ahead : List SnapshotPoint} {node position : Nat}

/-- The points of a node in front of one of its instructions. -/
theorem within_of_split {first last : List SnapshotPoint} {count : Nat}
    (split : first ++ .instruction node position :: last =
      SnapshotPoint.within node 1 count ++ [.nodeComplete node]) :
    1 ≤ position ∧ first = SnapshotPoint.within node 1 (position - 1) := by
  have length : (SnapshotPoint.within node 1 count).length = count := by
    rw [SnapshotPoint.within, List.length_map, List.length_range']
  have here : (SnapshotPoint.within node 1 count ++ [.nodeComplete node])[first.length]? =
      some (.instruction node position) := by
    rw [← split, List.getElem?_append_right Nat.le.refl, Nat.sub_self, List.getElem?_cons_zero]
  -- the end of the node is no instruction, so the instruction stands before it
  have inside : first.length < count := by
    by_contra outside
    rw [List.getElem?_append_right (by omega), length] at here
    cases List.mem_singleton.mp (List.mem_of_getElem? here)
  have position_eq : position = first.length + 1 := by
    rw [List.getElem?_append_left (by omega), SnapshotPoint.within, List.getElem?_map,
      List.getElem?_range' (by omega), Option.map_some] at here
    have := (SnapshotPoint.instruction.inj (Option.some.inj here)).2
    omega
  obtain ⟨rest, rfl⟩ := Nat.exists_eq_add_of_le inside.le
  rw [SnapshotPoint.within, ← List.range'_append_1, List.map_append, List.append_assoc] at split
  have front : first.length = ((List.range' 1 first.length).map
      (SnapshotPoint.instruction node)).length := by
    rw [List.length_map, List.length_range']
  refine ⟨by omega, ?_⟩
  rw [position_eq, Nat.add_sub_cancel]
  exact (List.append_inj split front).1

/-- In front of an instruction stand the instructions before it in its node. -/
theorem filter_before
    (split : before ++ .instruction node position :: ahead = pipeline.points) :
    1 ≤ node ∧ node ≤ pipeline.nodes.length ∧ 1 ≤ position ∧
      before.filter (fun point => point.node == node) =
        SnapshotPoint.within node 1 (position - 1) := by
  have member : .instruction node position ∈ pipeline.points :=
    split ▸ List.mem_append_right _ List.mem_cons_self
  have least : 1 ≤ node := le_node_of_mem_pointsFrom member
  obtain ⟨index, rfl⟩ : ∃ index, node = index + 1 := ⟨node - 1, by omega⟩
  have own := filter_points pipeline index
  have self : (SnapshotPoint.instruction (index + 1) position).node == index + 1 :=
    beq_self_eq_true _
  rw [← split, List.filter_append, List.filter_cons, if_pos self] at own
  by_cases inside : index < pipeline.nodes.length
  · rw [List.getElem?_eq_getElem inside, Option.map_some, Option.getD_some,
      PipelineNode.points] at own
    obtain ⟨first, front⟩ := within_of_split own
    exact ⟨least, inside, first, front⟩
  · rw [List.getElem?_eq_none (Nat.le_of_not_lt inside)] at own
    exact absurd own (List.append_ne_nil_of_right_ne_nil _ (List.cons_ne_nil _ _))

/-- No node in front of an instruction is behind its own, and none behind it is before. -/
theorem node_of_split
    (split : before ++ .instruction node position :: ahead = pipeline.points) :
    (∀ point ∈ before, point.node ≤ node) ∧ ∀ point ∈ ahead, node ≤ point.node := by
  have sorted := pairwise_pointsFrom 1 pipeline.nodes
  change pipeline.points.Pairwise _ at sorted
  rw [← split] at sorted
  obtain ⟨-, behind, before_le⟩ := List.pairwise_append.mp sorted
  exact ⟨fun point member => before_le point member _ List.mem_cons_self,
    fun point member => List.rel_of_pairwise_cons behind member⟩

/-- The nodes before that of an instruction are complete in front of it. -/
theorem lastOf?_before_earlier
    (split : before ++ .instruction node position :: ahead = pipeline.points) {number : Nat}
    (earlier : number < node) :
    SnapshotPoint.lastOf? number before = SnapshotPoint.lastOf? number pipeline.points := by
  have none_behind : (SnapshotPoint.instruction node position :: ahead).filter
      (fun point => point.node == number) = [] := by
    apply SnapshotPoint.filter_eq_nil
    intro point member
    rcases List.mem_cons.mp member with rfl | later
    · exact earlier.ne'
    · have := (node_of_split split).2 point later
      omega
  rw [SnapshotPoint.lastOf?, SnapshotPoint.lastOf?, ← split, List.filter_append, none_behind,
    List.append_nil]

/-- The node of an instruction has come to the instruction before it, if there is one. -/
theorem lastOf?_before_own
    (split : before ++ .instruction node position :: ahead = pipeline.points) :
    SnapshotPoint.lastOf? node before =
      if 1 < position then some (.instruction node (position - 1)) else none := by
  obtain ⟨-, -, -, own⟩ := filter_before split
  rw [SnapshotPoint.lastOf?, own, SnapshotPoint.within, List.getLast?_map, List.getLast?_range']
  by_cases further : 1 < position
  · rw [if_neg (by omega), if_pos further, Option.map_some, Nat.add_sub_cancel_left]
  · rw [if_pos (by omega), if_neg further, Option.map_none]

/-- The nodes behind that of an instruction have not begun in front of it. -/
theorem lastOf?_before_later
    (split : before ++ .instruction node position :: ahead = pipeline.points) {number : Nat}
    (later : node < number) : SnapshotPoint.lastOf? number before = none := by
  rw [SnapshotPoint.lastOf?, SnapshotPoint.filter_eq_nil, List.getLast?_nil]
  intro point member
  have := (node_of_split split).1 point member
  omega

/-- The last point of a node that a run has come to in front of an instruction. -/
theorem lastOf?_before
    (split : before ++ .instruction node position :: ahead = pipeline.points)
    (point : SnapshotPoint) :
    SnapshotPoint.lastOf? point.node before = some point ↔
      point ∈ SnapshotPoint.lastBefore node position := by
  obtain ⟨-, most, -, -⟩ := filter_before split
  rw [SnapshotPoint.mem_lastBefore]
  rcases Nat.lt_trichotomy point.node node with less | same | greater
  · rw [lastOf?_before_earlier split less, lastOf?_points_iff, SnapshotPoint.mem_completed]
    constructor
    · rintro ⟨earlier, least, -, rfl⟩
      exact .inl ⟨earlier, least, less, rfl⟩
    · rintro (⟨earlier, least, -, rfl⟩ | ⟨-, rfl⟩)
      · exact ⟨earlier, least, less.le.trans most, rfl⟩
      · exact absurd less (Nat.lt_irrefl _)
  · rw [same, lastOf?_before_own split]
    constructor
    · intro last
      split at last
      · next further => exact .inr ⟨further, (Option.some.inj last).symm⟩
      · cases last
    · rintro (⟨earlier, -, less, rfl⟩ | ⟨further, rfl⟩)
      · exact absurd same (Nat.ne_of_lt less)
      · exact if_pos further
  · rw [lastOf?_before_later split greater]
    constructor
    · intro last
      cases last
    · rintro (⟨earlier, -, less, rfl⟩ | ⟨-, rfl⟩)
      · exact absurd greater (Nat.lt_asymm less)
      · exact absurd greater (Nat.lt_irrefl _)

end Pipeline

end DerivedFields

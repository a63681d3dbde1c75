import DerivedFields.Proofs.Pipeline.Neighbours
import DerivedFields.Proofs.Pipeline.Simulation

/-!
# The order of instructions in a node

A node begins with what the nodes before it leave, and leaves what its instructions leave. So two
neighbouring instructions with targets apart from each other can also be exchanged in a whole run. What
remains of their order is that of the members of a JSON object on the way to both targets, and an
instruction that comes later can see that only if it reads such an object as its own target.
-/

namespace DerivedFields

open Stateful (bind_eq_ok)

/-- A node leaves the document that its instructions leave. -/
theorem PipelineNode.toOption_apply (evaluator : Evaluator) (source : TableSource)
    (node : PipelineNode) (number : Nat) (state : Document × List Warning) :
    (node.apply evaluator source number state).toOption.map Prod.fst =
      Instruction.results? evaluator source state.1 state.1 node.instructions := by
  have fold (instructions : List Instruction) (position : Nat) (output : Document)
      (state : Document × List Warning) :
      ((instructions.zipIdx position).foldlM (Instruction.apply evaluator source number output)
        state).toOption.map Prod.fst =
        Instruction.results? evaluator source output state.1 instructions := by
    induction instructions generalizing position state with
    | nil => rfl
    | cons instruction rest ih =>
      simp only [List.zipIdx_cons, List.foldlM_cons, Instruction.results?, Instruction.apply,
        Instruction.result?]
      cases instruction.effect evaluator source output state.1 with
      | error failure => rfl
      | ok reached => exact ih (position + 1) _
  exact fold node.instructions 1 state.1 state

namespace Pipeline

variable {evaluator : Evaluator} {source : TableSource} {tables : TableCache}

/-- A last node begins with what the nodes before it leave. -/
theorem effect_append (earlier : List PipelineNode) (node : PipelineNode) (input : Document) :
    (Pipeline.mk (earlier ++ [node])).effect evaluator source input =
      (Pipeline.mk earlier).effect evaluator source input >>=
        node.apply evaluator source (earlier.length + 1) := by
  simp only [effect, List.zipIdx_append, List.foldlM_append, List.zipIdx_cons, List.zipIdx_nil,
    List.foldlM_cons, List.foldlM_nil, bind_pure, Nat.add_comm 1]

/-- Nodes leave the ways in a document as they are. -/
theorem names_of_effect {nodes : List PipelineNode} {input : Document}
    {reached : Document × List Warning}
    (success : (Pipeline.mk nodes).effect evaluator source input = .ok reached) :
    reached.1.names = input.names ∧ reached.1.format = input.format := by
  have fold (nodes : List PipelineNode) (number : Nat) (state : Document × List Warning)
      (success : (nodes.zipIdx number).foldlM (fun state numbered =>
        PipelineNode.apply evaluator source numbered.1 numbered.2 state) state = .ok reached) :
      reached.1.names = state.1.names ∧ reached.1.format = state.1.format := by
    induction nodes generalizing number state with
    | nil =>
      cases success
      exact ⟨rfl, rfl⟩
    | cons node nodes ih =>
      simp only [List.zipIdx_cons, List.foldlM_cons] at success
      obtain ⟨next, applied, success⟩ := bind_eq_ok success
      have left := node.toOption_apply evaluator source number state
      rw [applied] at left
      obtain ⟨names, format⟩ := Instruction.names_of_results? left.symm
      obtain ⟨names', format'⟩ := ih (number + 1) next success
      exact ⟨names'.trans names, format'.trans format⟩
  exact fold nodes 1 (input, []) success

/-- A run is over successfully with what its last node leaves. -/
theorem toOption_run {σ : Type} {sink : Sink σ} (regular : evaluator.registry.Regular)
    (reliable : sink.Reliable) (serves : tables.Serves source) (earlier : List PipelineNode)
    (node : PipelineNode) (input : Document) (state : σ) :
    ((Pipeline.mk (earlier ++ [node])).run evaluator tables input sink state).1.toOption.map
        Prod.fst =
      ((Pipeline.mk earlier).effect evaluator source input).toOption.bind fun reached =>
        Instruction.results? evaluator source reached.1 reached.1 node.instructions := by
  rw [run_fst _ regular reliable serves, effect_append]
  cases (Pipeline.mk earlier).effect evaluator source input with
  | error failure => rfl
  | ok reached => exact node.toOption_apply evaluator source _ reached

/-- A run completes if its last node does. -/
theorem isOk_run {σ : Type} {sink : Sink σ} (regular : evaluator.registry.Regular)
    (reliable : sink.Reliable) (serves : tables.Serves source) (earlier : List PipelineNode)
    (node : PipelineNode) (input : Document) (state : σ) :
    ((Pipeline.mk (earlier ++ [node])).run evaluator tables input sink state).1.isOk =
      (((Pipeline.mk earlier).effect evaluator source input).toOption.bind fun reached =>
        Instruction.results? evaluator source reached.1 reached.1 node.instructions).isSome := by
  rw [← toOption_run regular reliable serves earlier node input state]
  cases ((Pipeline.mk (earlier ++ [node])).run evaluator tables input sink state).1 <;> rfl

/-- A run that completes came to its last node, with a document that the node goes on from. -/
theorem reached_of_run {σ : Type} {sink : Sink σ} {earlier : List PipelineNode}
    {node : PipelineNode} {input : Document} {state : σ} {final : Document × List Warning}
    (regular : evaluator.registry.Regular) (reliable : sink.Reliable)
    (serves : tables.Serves source)
    (success : ((Pipeline.mk (earlier ++ [node])).run evaluator tables input sink state).1 =
      .ok final) :
    ∃ reached, (Pipeline.mk earlier).effect evaluator source input = .ok reached ∧
      Instruction.results? evaluator source reached.1 reached.1 node.instructions =
        some final.1 := by
  have left := toOption_run regular reliable serves earlier node input state
  rw [success] at left
  obtain ⟨reached, begun, leaves⟩ := Option.bind_eq_some_iff.mp left.symm
  refine ⟨reached, ?_, leaves⟩
  cases effect : (Pipeline.mk earlier).effect evaluator source input with
  | error failure =>
    rw [effect] at begun
    cases begun
  | ok other =>
    rw [effect] at begun
    cases begun
    rfl

/-- In the last node of a run neighbours with targets apart from each other can be exchanged. If
both orders complete, the two documents have the same texts, except those of JSON objects on the way
to both targets. And either both orders complete or both fail, unless a later instruction of the
node reads such an object as its own target. -/
theorem run_exchange {σ : Type} {sink : Sink σ} (reliable : sink.Reliable) (settings : Settings)
    (serves : tables.Serves source) (input : Document) (state : σ) (earlier : List PipelineNode)
    (name : Option String) (front back : List Instruction) {a b : Instruction} {p q : Path}
    (onFirst : Path.parseTarget a.path = .ok p) (onSecond : Path.parseTarget b.path = .ok q)
    (apart : Apart (input.names p) (input.names q)) :
    let run (instructions : List Instruction) :=
      ((Pipeline.mk (earlier ++ [⟨name, instructions⟩])).run (.standard settings) tables input sink
        state).1
    let original := run (front ++ a :: b :: back)
    let swapped := run (front ++ b :: a :: back)
    let onWay (path : Path) := input.format = .json ∧ input.names path <+: input.names p ∧
      input.names path <+: input.names q
    (∀ left right, original = .ok left → swapped = .ok right → ∀ path, ¬onWay path →
      ∀ lenient, left.1.resolve path lenient = right.1.resolve path lenient) ∧
    ((∀ later ∈ back, later.ReadsTarget → ¬onWay (Path.parse later.path)) →
      original.isOk = swapped.isOk) := by
  intro run original swapped onWay
  have regular : (Evaluator.standard settings).registry.Regular := Registry.regular_builtin
  constructor
  · intro left right onLeft onRight path outside lenient
    obtain ⟨reached, begun, leaves⟩ := reached_of_run regular reliable serves onLeft
    obtain ⟨other, begun', leaves'⟩ := reached_of_run regular reliable serves onRight
    obtain rfl : reached = other := Except.ok.inj (begun.symm.trans begun')
    obtain ⟨names, format⟩ := names_of_effect begun
    obtain ⟨names', format'⟩ := Instruction.names_of_results? leaves
    rw [← names] at apart
    have alike :=
      (Instruction.results?_exchange regular source reached.1 front back onFirst onSecond apart).2
        left.1 right.1 leaves leaves'
    refine alike.resolve_eq (fun json onPath => ?_) lenient
    rw [format', format] at json
    rw [names', names] at onPath
    exact outside ⟨json, (isPrefix_sharedNames _ _ _).mp onPath⟩
  · intro quiet
    simp only [original, swapped, run, isOk_run regular reliable serves]
    cases begun : (Pipeline.mk earlier).effect (.standard settings) source input with
    | error failure => rfl
    | ok reached =>
      obtain ⟨names, format⟩ := names_of_effect begun
      rw [← names] at apart
      have exchanged :=
        (Instruction.results?_exchange regular source reached.1 front back onFirst onSecond apart).1
      refine isSome_eq_of_rel (exchanged fun later member json onPath reads => ?_)
      rw [format] at json
      rw [names] at onPath
      exact quiet later member reads ⟨json, (isPrefix_sharedNames _ _ _).mp onPath⟩

/-- Here a later instruction writes to the object on the common way, but does not read it. -/
theorem run_exchange_writer :
    let run (instructions : List Instruction) :=
      ((Pipeline.mk [⟨none, instructions⟩]).run (.standard .standard) (.ofSource .empty) .empty
        Sink.discard ()).1
    (run [⟨"x/a", "'1'"⟩, ⟨"x/b", "y"⟩, ⟨"x", "y"⟩]).isOk =
      (run [⟨"x/b", "y"⟩, ⟨"x/a", "'1'"⟩, ⟨"x", "y"⟩]).isOk := by
  have onA : Path.parseTarget "x/a" = .ok ⟨[.element "x", .element "a"]⟩ := by cbv
  have onB : Path.parseTarget "x/b" = .ok ⟨[.element "x", .element "b"]⟩ := by cbv
  have apart : Apart (Document.names .empty ⟨[.element "x", .element "a"]⟩)
      (Document.names .empty ⟨[.element "x", .element "b"]⟩) := by
    constructor <;> decide
  have serves := TableCache.serves_ofSource .empty
  refine (run_exchange Sink.reliable_discard .standard serves .empty () [] none [] [⟨"x", "y"⟩]
    onA onB apart).2 ?_
  intro later member
  obtain rfl := List.mem_singleton.mp member
  rintro ⟨-, expr, parsed, text, named, here⟩
  have read : Script.parse (Script.decodeEntities "y") = .ok (.field "y") := by cbv
  cases read.symm.trans parsed
  obtain rfl := List.mem_singleton.mp named
  have onX : Path.parse "x" = ⟨[.element "x"]⟩ := by cbv
  have onY : Path.parse "y" = ⟨[.element "y"]⟩ := by cbv
  have elsewhere : Path.parse "y" ≠ Path.parse "x" := by simp [onX, onY]
  exact absurd here elsewhere

/-- Here it reads that object, and so it fails in one order only. -/
theorem run_exchange_reader :
    Path.parseTarget "x/a" = .ok ⟨[.element "x", .element "a"]⟩ ∧
      Path.parseTarget "x/b" = .ok ⟨[.element "x", .element "b"]⟩ ∧
      Apart
        (Document.names (.json [("y", .object [("a", .string ""), ("b", .string "")])])
          ⟨[.element "x", .element "a"]⟩)
        (Document.names (.json [("y", .object [("a", .string ""), ("b", .string "")])])
          ⟨[.element "x", .element "b"]⟩) ∧
      ((Pipeline.mk [⟨none, [⟨"x/a", ""⟩, ⟨"x/b", ""⟩, ⟨"x", "if(x == y, '', -'b')"⟩]⟩]).run
        (.standard .standard) (.ofSource .empty)
        (.json [("y", .object [("a", .string ""), ("b", .string "")])]) Sink.discard ()).1.isOk = true ∧
      ((Pipeline.mk [⟨none, [⟨"x/b", ""⟩, ⟨"x/a", ""⟩, ⟨"x", "if(x == y, '', -'b')"⟩]⟩]).run
        (.standard .standard) (.ofSource .empty)
        (.json [("y", .object [("a", .string ""), ("b", .string "")])]) Sink.discard ()).1.isOk = false := by
  have blank : Text.allBlank "".toList = true := by cbv
  have script : Text.allBlank "if(x == y, '', -'b')".toList = false := by cbv
  have parsed : Script.parse (Script.decodeEntities "if(x == y, '', -'b')") =
      .ok (.call "if"
        [.binary .equal (.field "x") (.field "y"), .string "", .negate (.string "b")]) := by
    cbv
  have conditional : isConditional "if" = true := by cbv
  refine ⟨by cbv, by cbv, by constructor <;> decide, ?_, ?_⟩
  all_goals
    rw [run_fst _ Registry.regular_builtin Sink.reliable_discard (TableCache.serves_ofSource .empty)]
    simp only [effect, PipelineNode.apply, Instruction.apply, Instruction.effect, Instruction.text,
      blank, script, parsed, Bool.false_eq_true, if_false, if_true, Except.mapError, Except.map,
      bind, Except.bind, Evaluator.value, evaluate, conditional, evaluateConditional, List.zipIdx_cons,
      List.zipIdx_nil, List.foldlM_cons, List.foldlM_nil]
    rfl

end Pipeline

end DerivedFields

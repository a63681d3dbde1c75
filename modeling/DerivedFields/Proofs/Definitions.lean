import DerivedFields.Pipeline.Definition
import DerivedFields.Proofs.Calendar.Iso
import DerivedFields.Proofs.Json.RoundTrip
import DerivedFields.RunConfig

/-!
# Definitions stored

Pipelines and configurations are stored as JSON texts. Every field is either written or left out
where its default is what it holds, texts are escaped, and the time has all its nanoseconds. So a
stored definition is read as it was, in whatever layout its text is.
-/

namespace DerivedFields

open Json (Integral asWritten itemsAsWritten ofOption)
open Json.Written (array? boolean? nullable? string?)

/-- Whatever is written of a value has no fractions, and is read as that value. -/
def Restores {α : Type} (write : α → Json) (read : Json.Written → Option α) : Prop :=
  ∀ value, Integral (write value) ∧ read (write value).asWritten = some value

namespace Restores

variable {α : Type} {write : α → Json} {read : Json.Written → Option α}

/-! ## Texts, options and lists -/

private theorem integral_atom {json : Json} (noNumber : ∀ value, json ≠ .number value)
    (noItems : ∀ items, json ≠ .array items) (noMembers : ∀ members, json ≠ .object members) :
    Integral json :=
  (Json.throughout_atom noItems noMembers).mpr fun value same => absurd same (noNumber value)

private theorem integral_array {items : List Json} (inner : ∀ item ∈ items, Integral item) :
    Integral (.array items) :=
  Json.throughout_array.mpr ⟨fun _ same => Json.noConfusion same, inner⟩

private theorem integral_object {members : List (String × Json)}
    (inner : members.Forall fun member => Integral member.2) : Integral (.object members) :=
  Json.throughout_object.mpr
    ⟨fun _ same => Json.noConfusion same, List.forall_iff_forall_mem.mp inner⟩

private theorem string : Restores Json.string string? := fun _ =>
  ⟨integral_atom (by simp) (by simp) (by simp), rfl⟩

private theorem boolean : Restores Json.boolean boolean? := fun _ =>
  ⟨integral_atom (by simp) (by simp) (by simp), rfl⟩

/-- Nothing is null, and whatever is there is not. -/
theorem option (restores : Restores write read) (notNull : read .null = none) :
    Restores (ofOption write) (nullable? read)
  | none => ⟨integral_atom (by simp [ofOption]) (by simp [ofOption]) (by simp [ofOption]), rfl⟩
  | some value => by
    obtain ⟨integral, restored⟩ := restores value
    refine ⟨integral, ?_⟩
    change nullable? read (write value).asWritten = _
    unfold nullable?
    split
    · next null =>
      rw [null, notNull] at restored
      cases restored
    · rw [restored]
      rfl

private theorem mapM_itemsAsWritten (restores : Restores write read) (values : List α) :
    (itemsAsWritten (values.map write)).mapM read = some values := by
  induction values with
  | nil => rfl
  | cons value values ih =>
    rw [List.map_cons, itemsAsWritten, List.mapM_cons, (restores value).2, ih]
    rfl

private theorem array (restores : Restores write read) :
    Restores (fun values => Json.array (values.map write))
      (fun written => do (← array? written).mapM read) := by
  intro values
  refine ⟨integral_array fun item member => ?_, mapM_itemsAsWritten restores values⟩
  obtain ⟨value, -, rfl⟩ := List.mem_map.mp member
  exact (restores value).1

/-! ## Stored texts -/

private theorem read_layout (restores : Restores write read) {value : α} {text : List Char}
    (layout : Json.Layout (write value) text) :
    (Json.Written.read? (String.ofList text)).bind read = some value := by
  rw [Json.written_of_layout layout, Option.bind_some]
  exact (restores value).2

private theorem read_texts (restores : Restores write read) (value : α) :
    (Json.Written.read? (write value).toCompactText).bind read = some value ∧
      (Json.Written.read? (write value).toPrettyText).bind read = some value :=
  ⟨restores.read_layout (Json.layout_compact _ (restores value).1),
    restores.read_layout (Json.layout_pretty 0 _ (restores value).1)⟩

end Restores

/-! ## Pipelines -/

open Restores

private theorem Instruction.restores : Restores toJson ofWritten? := by
  intro instruction
  exact ⟨integral_object ⟨(string _).1, (string _).1⟩, rfl⟩

private theorem PipelineNode.restores : Restores toJson ofWritten? := by
  rintro ⟨name, instructions⟩
  have list : Restores (fun instructions => Json.array (instructions.map Instruction.toJson))
    instructions? := Instruction.restores.array
  obtain ⟨integral, restored⟩ := list instructions
  cases name with
  | none =>
    refine ⟨integral_object integral, ?_⟩
    change (do some ⟨none, ← instructions? (asWritten _)⟩) = some (PipelineNode.mk _ _)
    rw [restored]
    rfl
  | some name =>
    refine ⟨integral_object ⟨(string _).1, integral⟩, ?_⟩
    change (do some ⟨some name, ← instructions? (asWritten _)⟩) = some (PipelineNode.mk _ _)
    rw [restored]
    rfl

private theorem Pipeline.restores : Restores toJson ofWritten? := by
  rintro ⟨nodes⟩
  have list : Restores (fun nodes => Json.array (nodes.map PipelineNode.toJson)) nodes? :=
    PipelineNode.restores.array
  obtain ⟨integral, restored⟩ := list nodes
  refine ⟨integral_object integral, ?_⟩
  change (do some ⟨← nodes? (asWritten _)⟩) = some (Pipeline.mk _)
  rw [restored]
  rfl

/-! ## Configurations -/

private theorem Discipline.restores :
    Restores (fun discipline => .string (name discipline)) ofWritten? := by
  intro discipline
  refine ⟨(string _).1, ?_⟩
  cases discipline <;> rfl

private theorem DateTime.restores : Restores (fun value => .string (toIso value)) ofWritten? := by
  intro value
  refine ⟨(string _).1, ?_⟩
  rw [asWritten, ofWritten?, string?, Option.bind_some, ofIso?_toIso]

private theorem Settings.restores : Restores toJson ofWritten? := by
  rintro ⟨discipline, lenient, recover, now⟩
  obtain ⟨integral, restored⟩ := Discipline.restores discipline
  obtain ⟨integralNow, restoredNow⟩ := DateTime.restores.option rfl now
  refine ⟨integral_object ⟨integral, (boolean _).1, (boolean _).1, integralNow⟩, ?_⟩
  change (do
    some ⟨← Discipline.ofWritten? (asWritten (.string discipline.name)), lenient, recover,
      ← nullable? DateTime.ofWritten? (asWritten (ofOption (fun now => .string now.toIso) now))⟩) =
    some (Settings.mk _ _ _ _)
  rw [restored, restoredNow]
  rfl

private theorem RunConfig.restores : Restores toJson ofWritten? := by
  rintro ⟨settings, tables, intermediate⟩
  have path := string.option rfl
  obtain ⟨integral, restored⟩ := Settings.restores settings
  refine ⟨integral_object ⟨integral, (path tables).1, (path intermediate).1⟩, ?_⟩
  change (do
    some ⟨← Settings.ofWritten? settings.toJson.asWritten,
      ← nullable? string? (asWritten (ofOption .string tables)),
      ← nullable? string? (asWritten (ofOption .string intermediate))⟩) = some (RunConfig.mk _ _ _)
  rw [restored, (path tables).2, (path intermediate).2]
  rfl

/-- A pipeline and a configuration are read from their texts, compact or pretty, as they were
written. -/
theorem read_definitions :
    (∀ pipeline : Pipeline, Pipeline.read? pipeline.toJson.toCompactText = some pipeline ∧
      Pipeline.read? pipeline.toJson.toPrettyText = some pipeline) ∧
    ∀ config : RunConfig, RunConfig.read? config.toJson.toCompactText = some config ∧
      RunConfig.read? config.toJson.toPrettyText = some config :=
  ⟨Pipeline.restores.read_texts, RunConfig.restores.read_texts⟩

end DerivedFields

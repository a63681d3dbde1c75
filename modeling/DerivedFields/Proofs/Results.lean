import Mathlib.Data.Option.Basic

/-!
# Results and lists of them

A result may be missing, or it may be a failure. Facts about such results and about the lists that they
are looked for in or made from belong to no one part of the program.
-/

namespace DerivedFields

/-! ## Results that failed -/

theorem toOption_eq_some_iff {ε α : Type} {result : Except ε α} {value : α} :
    result.toOption = some value ↔ result = .ok value := by
  cases result with
  | error fault => exact ⟨nofun, nofun⟩
  | ok other =>
    exact ⟨fun same => congrArg Except.ok (Option.some.inj same),
      fun same => congrArg some (Except.ok.inj same)⟩

theorem isOk_iff {ε α : Type} {result : Except ε α} :
    result.isOk = true ↔ ∃ value, result = .ok value := by
  cases result with
  | error fault => exact ⟨nofun, nofun⟩
  | ok value => exact ⟨fun _ => ⟨value, rfl⟩, fun _ => rfl⟩

theorem isSome_toOption {ε α : Type} (result : Except ε α) :
    result.toOption.isSome = result.isOk := by
  cases result <;> rfl

/-! ## Results that are missing -/

section

variable {α β γ δ : Type} {r : α → β → Prop} {s : γ → δ → Prop} {left : Option α}
  {right : Option β}

/-- Two results that are related, or both missing, stay so under steps that relate theirs. -/
theorem rel_bind (related : Option.Rel r left right) {onLeft : α → Option γ}
    {onRight : β → Option δ}
    (onward : ∀ a b, r a b → Option.Rel s (onLeft a) (onRight b)) :
    Option.Rel s (left.bind onLeft) (right.bind onRight) := by
  cases related with
  | none => exact .none
  | some related => exact onward _ _ related

theorem rel_map (related : Option.Rel r left right) {onLeft : α → γ} {onRight : β → δ}
    (onward : ∀ a b, r a b → s (onLeft a) (onRight b)) :
    Option.Rel s (left.map onLeft) (right.map onRight) := by
  cases related with
  | none => exact .none
  | some related => exact .some (onward _ _ related)

theorem isSome_eq_of_rel (related : Option.Rel r left right) : left.isSome = right.isSome := by
  cases related <;> rfl

theorem rel_getD {r : α → α → Prop} {left right : Option α} (related : Option.Rel r left right)
    {missing : α} (refl : r missing missing) : r (left.getD missing) (right.getD missing) := by
  cases related with
  | none => exact refl
  | some related => exact related

theorem rel_of_eq {r : α → α → Prop} (refl : ∀ a, r a a) (result : Option α) :
    Option.Rel r result result := by
  cases result with
  | none => exact .none
  | some a => exact .some (refl a)

end

/-! ## Lists -/

/-- If at most one element of a list has a result, the first result is any one. -/
theorem findSome?_eq_some_iff_of_unique {α β : Type} {f : α → Option β} {list : List α} {value : β}
    (unique : ∀ first ∈ list, ∀ second ∈ list, (f first).isSome = true →
      (f second).isSome = true → first = second) :
    list.findSome? f = some value ↔ ∃ element ∈ list, f element = some value := by
  refine ⟨List.exists_of_findSome?_eq_some, fun ⟨element, member, result⟩ => ?_⟩
  have found : (list.findSome? f).isSome = true :=
    List.findSome?_isSome_iff.mpr ⟨element, member, by rw [result]; rfl⟩
  obtain ⟨other, first⟩ := Option.isSome_iff_exists.mp found
  obtain ⟨source, present, same⟩ := List.exists_of_findSome?_eq_some first
  obtain rfl := unique element member source present (by rw [result]; rfl) (by rw [same]; rfl)
  rw [first, ← same, result]

/-- The first of the items that are left at a place is the one of that place. -/
theorem getElem?_and_drop_of_drop_eq_cons {α : Type} {items rest : List α} {first : α}
    {index : Nat} (left : items.drop index = first :: rest) :
    items[index]? = some first ∧ items.drop (index + 1) = rest := by
  constructor
  · rw [← List.head?_drop, left, List.head?_cons]
  · rw [← List.tail_drop, left, List.tail_cons]

/-- One more numbered step behind those that went well. -/
theorem foldlM_zipIdx_concat {α β ε : Type} {step : β → α × Nat → Except ε β} {items : List α}
    {start reached : β} (before : (items.zipIdx 1).foldlM step start = .ok reached) (last : α) :
    ((items ++ [last]).zipIdx 1).foldlM step start = step reached (last, items.length + 1) := by
  rw [List.zipIdx_append, List.foldlM_append, before, Nat.add_comm]
  simp only [List.zipIdx_singleton, List.foldlM_cons, List.foldlM_nil, bind_pure]
  rfl

end DerivedFields

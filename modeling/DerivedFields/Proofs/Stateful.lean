import DerivedFields.Evaluation

/-!
# Computations that may fail and keep their state

Evaluations and runs are computations of one form: they go on changing a state, may fail, and a
failure keeps the state that was reached. Each way to build such a computation has one equation for
what it does from a given state.
-/

namespace DerivedFields.Stateful

variable {ε σ α β : Type} (state : σ)

/-- A sequence fails with its first part, or goes on from the state that it left. -/
theorem run_bind (computation : ExceptT ε (StateM σ) α) (next : α → ExceptT ε (StateM σ) β) :
    (computation >>= next).run state =
      match computation.run state with
      | (.ok value, after) => (next value).run after
      | (.error error, after) => (.error error, after) := by
  simp only [bind, ExceptT.bind, ExceptT.run, ExceptT.mk, StateT.bind]
  rcases computation state with ⟨_ | _, _⟩ <;> rfl

theorem run_pure (value : α) :
    (pure value : ExceptT ε (StateM σ) α).run state = (.ok value, state) := rfl

theorem run_throw (error : ε) :
    (throw error : ExceptT ε (StateM σ) α).run state = (.error error, state) := rfl

theorem run_get : (get : ExceptT ε (StateM σ) σ).run state = (.ok state, state) := rfl

theorem run_set (next : σ) :
    (set next : ExceptT ε (StateM σ) PUnit).run state = (.ok ⟨⟩, next) := rfl

theorem run_modify (change : σ → σ) :
    (modify change : ExceptT ε (StateM σ) PUnit).run state = (.ok ⟨⟩, change state) := rfl

theorem run_ite (condition : Prop) [Decidable condition]
    (computation other : ExceptT ε (StateM σ) α) :
    (if condition then computation else other).run state =
      if condition then computation.run state else other.run state := by
  split <;> rfl

theorem run_liftExcept (result : Except ε α) :
    (liftExcept result : ExceptT ε (StateM σ) α).run state = (result, state) := by
  cases result <;> rfl

/-- A handler takes over in the state that the failure left. -/
theorem run_tryCatch (computation : ExceptT ε (StateM σ) α) (handle : ε → ExceptT ε (StateM σ) α) :
    (tryCatch computation handle).run state =
      match computation.run state with
      | (.ok value, after) => (.ok value, after)
      | (.error error, after) => (handle error).run after := by
  simp only [tryCatch, tryCatchThe, MonadExceptOf.tryCatch, ExceptT.tryCatch, ExceptT.run,
    ExceptT.mk, bind, StateT.bind]
  rcases computation state with ⟨_ | _, _⟩ <;> rfl

/-- A sequence of results succeeds with both of its parts. -/
theorem bind_eq_ok {result : Except ε α} {next : α → Except ε β} {value : β}
    (success : result >>= next = .ok value) :
    ∃ first, result = .ok first ∧ next first = .ok value := by
  cases result with
  | error error => cases success
  | ok first => exact ⟨first, rfl, success⟩

theorem map_eq_ok {result : Except ε α} {change : α → β} {value : β}
    (success : result.map change = .ok value) :
    ∃ first, result = .ok first ∧ change first = value := by
  cases result with
  | error error => cases success
  | ok first => exact ⟨first, rfl, Except.ok.inj success⟩

end DerivedFields.Stateful

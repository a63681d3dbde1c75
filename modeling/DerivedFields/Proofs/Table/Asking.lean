import DerivedFields.Proofs.Table.Agreement

/-!
# Tables that were asked for

A cache changes only by being asked for tables. From a cache that serves its source, the tables that
are loaded afterwards are those that were loaded before and those that were asked for and could be
given.
-/

namespace DerivedFields.TableCache

variable {source : TableSource} {cache : TableCache}

/-- The cache after it was asked for tables, one after the other. -/
def getAll (cache : TableCache) (names : List String) : TableCache :=
  names.foldl (fun cache name => (cache.get name).2) cache

@[simp] theorem getAll_nil : cache.getAll [] = cache := rfl

@[simp] theorem getAll_append (first second : List String) :
    cache.getAll (first ++ second) = (cache.getAll first).getAll second := List.foldl_append

/-- Asking for a table that cannot be given changes nothing. -/
theorem get_snd_of_error {name : String} {error : EvalError}
    (failed : (cache.get name).1 = .error error) : (cache.get name).2 = cache := by
  unfold get at failed ⊢
  cases kept : cache.loaded.lookup name with
  | some table => rfl
  | none =>
    rw [kept] at failed
    cases loaded : cache.source.load name with
    | error _ => rfl
    | ok table =>
      rw [loaded] at failed
      cases failed

theorem Serves.getAll (serves : Serves source cache) (names : List String) :
    Serves source (cache.getAll names) := by
  induction names generalizing cache with
  | nil => exact serves
  | cons name names ih => exact ih (serves.get_snd name)

/-- A table is loaded by asking for it, if it can be given. -/
theorem Serves.isLoaded_get (serves : Serves source cache) (name other : String) :
    (cache.get name).2.isLoaded other = true ↔
      cache.isLoaded other = true ∨ other = name ∧ ∃ table, source.load name = .ok table := by
  unfold get
  rw [serves.origin]
  cases kept : cache.loaded.lookup name with
  | some table =>
    have present : cache.isLoaded name = true := by
      rw [isLoaded, kept]
      rfl
    constructor
    · exact .inl
    · rintro (loaded | ⟨rfl, -⟩)
      · exact loaded
      · exact present
  | none =>
    cases found : source.load name with
    | error error => simp
    | ok table =>
      simp only [isLoaded, List.lookup_cons]
      by_cases same : other = name
      · simp [same]
      · simp [beq_eq_false_iff_ne.mpr same, same]

private theorem Serves.isLoaded_getAll (serves : Serves source cache) (names : List String)
    (name : String) :
    (cache.getAll names).isLoaded name = true ↔
      cache.isLoaded name = true ∨ name ∈ names ∧ ∃ table, source.load name = .ok table := by
  induction names generalizing cache with
  | nil => simp
  | cons first names ih =>
    have onward := ih (serves.get_snd first)
    rw [serves.isLoaded_get] at onward
    change ((cache.get first).2.getAll names).isLoaded name = true ↔ _
    rw [onward, List.mem_cons]
    constructor
    · rintro ((kept | ⟨rfl, given⟩) | ⟨later, given⟩)
      · exact .inl kept
      · exact .inr ⟨.inl rfl, given⟩
      · exact .inr ⟨.inr later, given⟩
    · rintro (kept | ⟨rfl | later, given⟩)
      · exact .inl (.inl kept)
      · exact .inl (.inr ⟨rfl, given⟩)
      · exact .inr ⟨later, given⟩

/-- From an empty cache, the tables that are loaded are those that were asked for and given at some
point. -/
theorem isLoaded_getAll_ofSource (source : TableSource) (names : List String) (name : String) :
    ((ofSource source).getAll names).isLoaded name = true ↔
      ∃ before after table, names = before ++ name :: after ∧
        (((ofSource source).getAll before).get name).1 = .ok table := by
  have serves := serves_ofSource source
  have none : (ofSource source).isLoaded name = false := rfl
  rw [serves.isLoaded_getAll, none]
  constructor
  · rintro (loaded | ⟨asked, table, given⟩)
    · cases loaded
    · obtain ⟨before, after, rfl⟩ := List.append_of_mem asked
      exact ⟨before, after, table, rfl, by rwa [(serves.getAll before).get_fst]⟩
  · rintro ⟨before, after, table, rfl, given⟩
    rw [(serves.getAll before).get_fst] at given
    exact .inr ⟨by simp, table, given⟩

end DerivedFields.TableCache

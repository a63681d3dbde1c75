import DerivedFields.Table.Cache

/-!
# Caches that serve a source

A cache answers from the tables that it keeps. As long as each of them is the one that the source
would give now, asking the cache and loading the table anew come to the same, and asking keeps the
cache in that state.
-/

namespace DerivedFields.TableCache

variable {source : TableSource} {cache : TableCache}

/-- The cache loads from the source, and every table that it keeps is the one that the source
gives. -/
structure Serves (source : TableSource) (cache : TableCache) : Prop where
  origin : cache.source = source
  loaded : ∀ name table, cache.loaded.lookup name = some table → source.load name = .ok table

theorem serves_ofSource (source : TableSource) : Serves source (ofSource source) where
  origin := rfl
  loaded name table kept := by simp [ofSource] at kept

/-- Asking a cache is loading the table. -/
theorem Serves.get_fst (serves : Serves source cache) (name : String) :
    (cache.get name).1 = source.load name := by
  unfold get
  rw [serves.origin]
  cases kept : cache.loaded.lookup name with
  | some table => exact (serves.loaded name table kept).symm
  | none => cases found : source.load name <;> rfl

theorem Serves.get_snd (serves : Serves source cache) (name : String) :
    Serves source (cache.get name).2 := by
  unfold get
  rw [serves.origin]
  cases kept : cache.loaded.lookup name with
  | some table => exact serves
  | none =>
    cases found : source.load name with
    | error error => exact serves
    | ok table =>
      refine ⟨rfl, ?_⟩
      intro other entry
      rw [List.lookup_cons]
      cases same : other == name with
      | true =>
        rintro ⟨⟩
        rw [beq_iff_eq.mp same]
        exact found
      | false => exact serves.loaded other entry

/-- Two caches that serve one source. -/
structure Alike (source : TableSource) (first second : TableCache) : Prop where
  first : Serves source first
  second : Serves source second

theorem Alike.get_fst {first second : TableCache} (alike : Alike source first second)
    (name : String) : (first.get name).1 = (second.get name).1 := by
  rw [alike.first.get_fst, alike.second.get_fst]

theorem Alike.get_snd {first second : TableCache} (alike : Alike source first second)
    (name : String) : Alike source (first.get name).2 (second.get name).2 :=
  ⟨alike.first.get_snd name, alike.second.get_snd name⟩

end DerivedFields.TableCache

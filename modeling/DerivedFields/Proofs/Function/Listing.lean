import Mathlib.Data.Finset.Card
import DerivedFields.Function.Builtin
import DerivedFields.Proofs.Entries

/-!
# What a registry lists

A registry holds one function for each key, the last that was registered under it. So what it finds
depends on the last registration of each key alone, and the order of listings, by category and name,
never has to decide between two functions of one key. Whatever order the functions are kept in, and
whatever functions they replaced, the listing is the same.
-/

namespace DerivedFields.Registry

variable {function other : Function} {functions : List Function} {registry first second : Registry}
  {key name : String}

/-- The key of a function. -/
def keyOf (function : Function) : String := functionKey function.name

/-- The last function that is registered under a key. -/
def lastUnder? (functions : List Function) (key : String) : Option Function :=
  functions.reverse.find? fun function => keyOf function = key

private theorem lastUnder?_append (functions others : List Function) (key : String) :
    lastUnder? (functions ++ others) key = (lastUnder? others key).or (lastUnder? functions key) := by
  rw [lastUnder?, List.reverse_append, List.find?_append]
  rfl

private theorem isSome_lastUnder? (functions : List Function) (key : String) :
    (lastUnder? functions key).isSome ↔ key ∈ functions.map keyOf := by
  simp [lastUnder?]

private theorem keyOf_of_lastUnder? (found : lastUnder? functions key = some function) :
    keyOf function = key := by
  simpa using List.find?_some found

/-! ## What is registered -/

/-- The functions of a list, each under its key. -/
def entries (functions : List Function) : List (String × Function) :=
  functions.map fun function => (keyOf function, function)

private theorem keys_entries (functions : List Function) :
    (entries functions).map Prod.fst = functions.map keyOf := by
  rw [entries, List.map_map]
  rfl

/-- A function takes the place of the one under its key. -/
theorem entries_place (function : Function) (functions : List Function) :
    entries (place function functions) = writeEntry (keyOf function) function (entries functions) := by
  induction functions with
  | nil => rfl
  | cons other rest ih =>
    have placed : place function (other :: rest) = if keyOf other = keyOf function
      then function :: rest else other :: place function rest := rfl
    have written : entries (other :: rest) = (keyOf other, other) :: entries rest := rfl
    rw [placed, written, writeEntry]
    split
    · next same => rw [same, entries, List.map_cons, entries]
    · rw [← ih, entries, List.map_cons, entries]

private theorem get?_eq_lookup (registry : Registry) (name : String) :
    registry.get? name = (entries registry.functions).lookup (functionKey name) := by
  rw [get?, entries]
  induction registry.functions with
  | nil => rfl
  | cons function rest ih =>
    rw [List.map_cons, List.lookup_cons, List.find?_cons, ih]
    by_cases same : functionKey function.name = functionKey name
    · simp [keyOf, same]
    · simp [keyOf, same, beq_false_of_ne (Ne.symm same)]

/-- A function is found under its key from then on, and all others as before. -/
theorem get?_register (registry : Registry) (function : Function) (name : String) :
    (registry.register function).get? name =
      if keyOf function = functionKey name then some function else registry.get? name := by
  rw [get?_eq_lookup, get?_eq_lookup, register, entries_place]
  split
  · next same => rw [← same, lookup_writeEntry_self]
  · next other => exact lookup_writeEntry_ne (Ne.symm other) _ _

/-- The last registration under the key of a name is found. -/
theorem get?_foldl_register (functions : List Function) (registry : Registry) (name : String) :
    (functions.foldl register registry).get? name =
      (lastUnder? functions (functionKey name)).or (registry.get? name) := by
  induction functions generalizing registry with
  | nil => rfl
  | cons function rest ih =>
    have split : function :: rest = [function] ++ rest := rfl
    rw [List.foldl_cons, ih, get?_register, split, lastUnder?_append, Option.or_assoc]
    congr 1
    by_cases same : keyOf function = functionKey name <;> simp [lastUnder?, same]

private theorem get?_ofList (functions : List Function) (name : String) :
    (ofList functions).get? name = lastUnder? functions (functionKey name) := by
  rw [ofList, get?_foldl_register]
  exact Option.or_none

/-- No two functions have the same key. -/
def Distinct (registry : Registry) : Prop := (registry.functions.map keyOf).Nodup

private theorem Distinct.register (distinct : registry.Distinct) (function : Function) :
    (registry.register function).Distinct := by
  rw [Distinct, Registry.register, ← keys_entries, entries_place, keys_writeEntry, keys_entries]
  split
  · exact distinct
  · next absent =>
    rw [List.nodup_append]
    refine ⟨distinct, List.nodup_singleton _, ?_⟩
    rintro key member _ last rfl
    obtain rfl := List.mem_singleton.mp last
    exact absent member

private theorem Distinct.foldl_register (distinct : registry.Distinct) (functions : List Function) :
    (functions.foldl Registry.register registry).Distinct := by
  induction functions generalizing registry with
  | nil => exact distinct
  | cons function rest ih => exact ih (distinct.register function)

private theorem distinct_ofList (functions : List Function) : (ofList functions).Distinct :=
  Distinct.foldl_register (show empty.Distinct from List.nodup_nil) functions

/-- A name finds the function under its key. -/
theorem Distinct.get?_eq_some_iff (distinct : registry.Distinct) :
    registry.get? name = some function ↔
      function ∈ registry.functions ∧ keyOf function = functionKey name := by
  constructor
  · intro found
    exact ⟨List.mem_of_find?_eq_some found, by simpa [keyOf] using List.find?_some found⟩
  · rintro ⟨member, same⟩
    cases found : registry.get? name with
    | none => exact absurd (decide_eq_true same) (List.find?_eq_none.mp found function member)
    | some other =>
      have key : keyOf other = functionKey name := by simpa [keyOf] using List.find?_some found
      have inside := List.mem_of_find?_eq_some found
      rw [List.inj_on_of_nodup_map distinct inside member (key.trans same.symm)]

private theorem Distinct.mem_iff (distinct : registry.Distinct) :
    function ∈ registry.functions ↔ registry.get? function.name = some function :=
  ⟨fun member => distinct.get?_eq_some_iff.mpr ⟨member, rfl⟩,
    fun found => (distinct.get?_eq_some_iff.mp found).1⟩

/-- Two registries that find the same functions hold the same functions. -/
theorem Distinct.perm (distinct : first.Distinct) (other : second.Distinct)
    (same : ∀ name, first.get? name = second.get? name) : first.functions.Perm second.functions := by
  rw [List.perm_ext_iff_of_nodup distinct.of_map other.of_map]
  intro function
  rw [distinct.mem_iff, other.mem_iff, same]

/-! ## What is listed -/

/-- The order of listings, between functions that it can tell apart. -/
def ListedStrictly (first second : Function) : Prop :=
  first.category.rank < second.category.rank ∨
    first.category.rank = second.category.rank ∧ first.name < second.name

private theorem listedBefore_iff {first second : Function} : listedBefore first second = true ↔
    first.category.rank < second.category.rank ∨
      first.category.rank = second.category.rank ∧ first.name ≤ second.name := by
  rw [listedBefore, Bool.or_eq_true, Bool.and_eq_true, decide_eq_true_iff, beq_iff_eq, Bool.not_eq_true',
    decide_eq_false_iff_not, String.not_lt]

private theorem listedBefore_trans (first second third : Function)
    (before : listedBefore first second = true)
    (after : listedBefore second third = true) : listedBefore first third = true := by
  rw [listedBefore_iff] at before after ⊢
  rcases before with lower | ⟨same, before⟩
  · left
    omega
  · rcases after with higher | ⟨alike, after⟩
    · left
      omega
    · exact .inr ⟨same.trans alike, String.le_trans before after⟩

private theorem listedBefore_total (first second : Function) :
    (listedBefore first second || listedBefore second first) = true := by
  rw [Bool.or_eq_true, listedBefore_iff, listedBefore_iff]
  rcases Nat.lt_trichotomy first.category.rank second.category.rank with lower | same | higher
  · exact .inl (.inl lower)
  · exact (String.le_total first.name second.name).imp (fun names => .inr ⟨same, names⟩)
      fun names => .inr ⟨same.symm, names⟩
  · exact .inr (.inl higher)

private theorem ListedStrictly.asymm {first second : Function} (before : ListedStrictly first second)
    (after : ListedStrictly second first) : False := by
  rcases before with lower | ⟨same, before⟩
  · rcases after with higher | ⟨alike, -⟩ <;> omega
  · rcases after with higher | ⟨-, after⟩
    · omega
    · exact String.lt_asymm before after

private theorem perm_listing (registry : Registry) : registry.listing.Perm registry.functions :=
  List.mergeSort_perm _ _

/-- No two functions of a registry are alike in listings. -/
theorem Distinct.pairwise_listing (distinct : registry.Distinct) :
    registry.listing.Pairwise ListedStrictly := by
  have sorted : registry.listing.Pairwise fun first second => listedBefore first second = true :=
    List.pairwise_mergeSort listedBefore_trans listedBefore_total _
  have apart : registry.listing.Pairwise fun first second => keyOf first ≠ keyOf second :=
    List.pairwise_map.mp ((registry.perm_listing.map keyOf).nodup_iff.mpr distinct)
  refine sorted.imp₂ (fun first second before other => ?_) apart
  rcases listedBefore_iff.mp before with lower | ⟨same, before⟩
  · exact .inl lower
  · refine .inr ⟨same, String.not_le.mp fun above => other ?_⟩
    rw [keyOf, keyOf, String.le_antisymm before above]

/-- The order in which functions are kept does not matter for their listing. -/
theorem Distinct.listing_eq (distinct : first.Distinct) (other : second.Distinct)
    (perm : first.functions.Perm second.functions) : first.listing = second.listing := by
  refine List.Perm.eq_of_pairwise (fun function other _ _ before after => (before.asymm after).elim)
    distinct.pairwise_listing other.pairwise_listing ?_
  exact (first.perm_listing.trans perm).trans second.perm_listing.symm

/-! ## After any registrations -/

private theorem ofList_append (functions others : List Function) :
    ofList (functions ++ others) = others.foldl register (ofList functions) := List.foldl_append

/-- Of the functions under one key only the last stays. -/
theorem mem_ofList : function ∈ (ofList functions).functions ↔
    lastUnder? functions (keyOf function) = some function := by
  rw [(distinct_ofList functions).mem_iff, get?_ofList, keyOf]

private theorem mem_keys_ofList :
    key ∈ (ofList functions).functions.map keyOf ↔ key ∈ functions.map keyOf := by
  rw [← isSome_lastUnder? functions key]
  constructor
  · intro member
    obtain ⟨function, inside, rfl⟩ := List.mem_map.mp member
    rw [mem_ofList.mp inside]
    rfl
  · intro found
    obtain ⟨function, last⟩ := Option.isSome_iff_exists.mp found
    obtain rfl := keyOf_of_lastUnder? last
    exact List.mem_map_of_mem (mem_ofList.mpr last)

/-- There are as many functions as keys were registered. -/
theorem size_ofList (functions : List Function) :
    (ofList functions).size = (functions.map keyOf).toFinset.card := by
  have keys : (functions.map keyOf).toFinset = ((ofList functions).functions.map keyOf).toFinset := by
    ext key
    rw [List.mem_toFinset, List.mem_toFinset, mem_keys_ofList]
  rw [keys, List.toFinset_card_of_nodup (distinct_ofList functions), List.length_map, size]

/-- The listing has one function under each key, the last that was registered there. -/
theorem listing_filter (found : lastUnder? functions key = some function) :
    (ofList functions).listing.filter (fun other => keyOf other = key) = [function] := by
  have listing := (ofList functions).perm_listing
  have distinct : (ofList functions).listing.Nodup :=
    (listing.map keyOf).nodup_iff.mpr (distinct_ofList functions) |>.of_map
  rw [← List.perm_singleton, List.perm_ext_iff_of_nodup (distinct.filter _) (List.nodup_singleton _)]
  intro other
  rw [List.mem_filter, listing.mem_iff, mem_ofList, decide_eq_true_iff, List.mem_singleton]
  constructor
  · rintro ⟨last, rfl⟩
    exact Option.some.inj (last.symm.trans found)
  · rintro rfl
    obtain rfl := keyOf_of_lastUnder? found
    exact ⟨found, rfl⟩

/-- After any registrations on top of the built-in functions, the listing is strictly increasing by
category and name and has one entry for each key, the function that was registered last under it and
that every spelling of its name finds. It is the same whatever else was registered before and in
whatever order the functions are kept. -/
theorem listing_registered (before after : List Function)
    (same : ∀ key, lastUnder? before key = lastUnder? after key) :
    let registered (functions : List Function) : Registry := functions.foldl register builtin
    let keys := (builtinFunctions ++ before).map keyOf
    (registered before).listing = (registered after).listing ∧
      (∀ order, order.Perm (registered before).functions →
        (Registry.mk order).listing = (registered before).listing) ∧
      (registered before).listing.Pairwise ListedStrictly ∧
      (∀ key ∈ keys, ∃ function,
        (registered before).listing.filter (fun other => keyOf other = key) = [function] ∧
          lastUnder? (builtinFunctions ++ before) key = some function ∧
          ∀ name, functionKey name = key → (registered before).get? name = some function) ∧
      (∀ function ∈ (registered before).listing, keyOf function ∈ keys) ∧
      (registered before).size = keys.toFinset.card := by
  intro registered keys
  have whole (functions : List Function) :
      registered functions = ofList (builtinFunctions ++ functions) := (ofList_append _ _).symm
  have distinct (functions : List Function) : (registered functions).Distinct :=
    whole functions ▸ distinct_ofList _
  have found (name : String) : (registered before).get? name = (registered after).get? name := by
    rw [whole, whole, get?_ofList, get?_ofList, lastUnder?_append, lastUnder?_append, same]
  refine ⟨(distinct before).listing_eq (distinct after) ((distinct before).perm (distinct after) found),
    fun order perm => ?_, (distinct before).pairwise_listing, fun key member => ?_,
    fun function member => ?_, ?_⟩
  · have others : Distinct ⟨order⟩ := (perm.map keyOf).nodup_iff.mpr (distinct before)
    exact others.listing_eq (distinct before) perm
  · obtain ⟨function, last⟩ := Option.isSome_iff_exists.mp ((isSome_lastUnder? _ key).mpr member)
    refine ⟨function, by rw [whole, listing_filter last], last, ?_⟩
    rintro name rfl
    rw [whole, get?_ofList, last]
  · rw [(registered before).perm_listing.mem_iff, whole] at member
    exact mem_keys_ofList.mp (List.mem_map_of_mem member)
  · rw [whole, size_ofList]

/-- A built-in function replaced twice under two spellings, and a new one. -/
theorem listing_registered_replaced :
    let body : FunctionBody := .ofArguments fun arguments => arguments.value 0
    let upper : Function := ⟨"TRIM", .exact 1, .custom, body⟩
    let lower : Function := ⟨"trim", .exact 1, .custom, body⟩
    let fresh : Function := ⟨"Ä", .exact 1, .custom, body⟩
    (∀ key, lastUnder? [upper, fresh, lower] key = lastUnder? [lower, fresh] key) ∧
      ([upper, fresh, lower].foldl register builtin).listing =
        ([lower, fresh].foldl register builtin).listing ∧
      ([upper, fresh, lower].foldl register builtin).listing.filter
        (fun other => keyOf other = "ä") = [fresh] := by
  intro body upper lower fresh
  have keys : keyOf upper = "trim" ∧ keyOf lower = "trim" ∧ keyOf fresh = "ä" := by decide
  have same (key : String) :
      lastUnder? [upper, fresh, lower] key = lastUnder? [lower, fresh] key := by
    by_cases trim : "trim" = key
    · subst trim
      simp [lastUnder?, keys]
    · by_cases new : "ä" = key <;> simp [lastUnder?, keys, trim, new]
  obtain ⟨listing, -, -, entry, -⟩ := listing_registered _ _ same
  obtain ⟨function, alone, last, -⟩ := entry "ä" (by simp [keys])
  have newest : lastUnder? [upper, fresh, lower] "ä" = some fresh := by simp [lastUnder?, keys]
  rw [lastUnder?_append, newest, Option.some_or] at last
  obtain rfl := Option.some.inj last
  exact ⟨same, listing, alone⟩

end DerivedFields.Registry

import DerivedFields.Proofs.Json.Lexemes

/-!
# Parts of a value

A value has itself, its items and members, and their parts. What holds throughout a value is known
of each item and member, so proofs by recursion on a value can go on with it.
-/

namespace DerivedFields.Json

/-- A value is part of another one, which is the value itself or has it in an item or member. -/
inductive Within (part : Json) : Json → Prop
  | self : Within part part
  | item {item : Json} {items : List Json} (member : item ∈ items) (inner : Within part item) :
    Within part (.array items)
  | member {key : String} {value : Json} {members : List (String × Json)}
    (present : (key, value) ∈ members) (inner : Within part value) : Within part (.object members)

variable {json part inner : Json} {property : Json → Prop} {items : List Json}
  {members : List (String × Json)}

/-- Parts of a part are parts of the whole. -/
theorem Within.trans (first : Within inner part) (second : Within part json) :
    Within inner json := by
  induction second with
  | self => exact first
  | item member _ ih => exact .item member ih
  | member present _ ih => exact .member present ih

/-- A property holds of every part of a value. -/
def Throughout (property : Json → Prop) (json : Json) : Prop :=
  ∀ part, Within part json → property part

namespace Throughout

theorem within (throughout : Throughout property json) (within : Within part json) :
    Throughout property part := fun deeper inner => throughout deeper (inner.trans within)

theorem item (throughout : Throughout property (.array items)) :
    ∀ item ∈ items, Throughout property item :=
  fun _ member => throughout.within (.item member .self)

theorem member (throughout : Throughout property (.object members)) :
    ∀ member ∈ members, Throughout property member.2 :=
  fun _ present => throughout.within (.member present .self)

end Throughout

/-- Atoms have no parts but themselves. -/
theorem throughout_atom (noItems : ∀ items, json ≠ .array items)
    (noMembers : ∀ members, json ≠ .object members) :
    Throughout property json ↔ property json := by
  constructor
  · intro throughout
    exact throughout json .self
  · intro here part within
    cases within with
    | self => exact here
    | item => exact absurd rfl (noItems _)
    | member => exact absurd rfl (noMembers _)

theorem throughout_array : Throughout property (.array items) ↔
    property (.array items) ∧ ∀ item ∈ items, Throughout property item := by
  constructor
  · intro throughout
    exact ⟨throughout _ .self, throughout.item⟩
  · rintro ⟨here, inner⟩ part within
    cases within with
    | self => exact here
    | item member deeper => exact inner _ member part deeper

theorem throughout_object : Throughout property (.object members) ↔
    property (.object members) ∧ ∀ member ∈ members, Throughout property member.2 := by
  constructor
  · intro throughout
    exact ⟨throughout _ .self, throughout.member⟩
  · rintro ⟨here, inner⟩ part within
    cases within with
    | self => exact here
    | member present deeper => exact inner _ present part deeper

/-- All numbers in a value are integers of 64 bits. -/
def Integral : Json → Prop :=
  Throughout fun part => ∀ value, part = .number value → ∃ n, value = .integer n ∧ Fits n

/-- No object in a value has two members of one key. -/
def DistinctKeys : Json → Prop :=
  Throughout fun part => ∀ members, part = .object members → (members.map Prod.fst).Nodup

/-! ## Nesting -/

mutual

/-- How many containers stand around one another in a value, at most. -/
def nesting : Json → Nat
  | .array items => nestingOfItems items + 1
  | .object members => nestingOfMembers members + 1
  | _ => 0

def nestingOfItems : List Json → Nat
  | [] => 0
  | item :: items => max (nesting item) (nestingOfItems items)

def nestingOfMembers : List (String × Json) → Nat
  | [] => 0
  | (_, value) :: members => max (nesting value) (nestingOfMembers members)

end

private theorem nesting_le_nestingOfItems {item : Json} (member : item ∈ items) :
    nesting item ≤ nestingOfItems items := by
  induction items with
  | nil => exact absurd member List.not_mem_nil
  | cons first items ih =>
    rw [nestingOfItems]
    rcases List.mem_cons.mp member with rfl | member
    · exact Nat.le_max_left ..
    · exact Nat.le_trans (ih member) (Nat.le_max_right ..)

private theorem nesting_le_nestingOfMembers {key : String} {value : Json}
    (present : (key, value) ∈ members) : nesting value ≤ nestingOfMembers members := by
  induction members with
  | nil => exact absurd present List.not_mem_nil
  | cons first members ih =>
    rw [nestingOfMembers]
    rcases List.mem_cons.mp present with rfl | present
    · exact Nat.le_max_left ..
    · exact Nat.le_trans (ih present) (Nat.le_max_right ..)

/-- A part is nested no deeper than the whole. -/
theorem Within.nesting_le (within : Within part json) : nesting part ≤ nesting json := by
  induction within with
  | self => exact Nat.le_refl _
  | item member _ ih =>
    have deepest := nesting_le_nestingOfItems member
    rw [nesting]
    omega
  | member present _ ih =>
    have deepest := nesting_le_nestingOfMembers present
    rw [nesting]
    omega

end DerivedFields.Json

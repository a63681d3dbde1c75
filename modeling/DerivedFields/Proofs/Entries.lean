import DerivedFields.Json.Basic
import DerivedFields.Xml.Basic

/-!
# Writing under a key

The members of an object and the attributes of an element are written the same way: in place of the
first entry of a key, or behind all others. What is found under a key afterwards and where each
entry stands is the same for both, whatever the entries hold.
-/

namespace DerivedFields

section

variable {κ ν : Type} [DecidableEq κ]

/-- Entries with one written under a key: in its place if the key is there, else at the end. -/
def writeEntry (key : κ) (value : ν) : List (κ × ν) → List (κ × ν)
  | [] => [(key, value)]
  | (other, old) :: rest =>
    if other = key then (other, value) :: rest else (other, old) :: writeEntry key value rest

variable {key other : κ} {value old : ν} {entries : List (κ × ν)}

/-- Of two values written under a key the second stays. -/
theorem writeEntry_writeEntry (key : κ) (value old : ν) (entries : List (κ × ν)) :
    writeEntry key value (writeEntry key old entries) = writeEntry key value entries := by
  induction entries with
  | nil => simp only [writeEntry, if_true]
  | cons entry rest ih =>
    by_cases same : entry.1 = key
    · simp only [writeEntry, if_pos same]
    · simp only [writeEntry, if_neg same, ih]

/-- The keys stay where they are, and a new one comes last. -/
theorem keys_writeEntry (key : κ) (value : ν) (entries : List (κ × ν)) :
    (writeEntry key value entries).map Prod.fst =
      if key ∈ entries.map Prod.fst then entries.map Prod.fst
      else entries.map Prod.fst ++ [key] := by
  induction entries with
  | nil => rfl
  | cons entry rest ih =>
    by_cases same : entry.1 = key
    · rw [writeEntry, if_pos same, if_pos (List.mem_map.mpr ⟨entry, List.mem_cons_self, same⟩)]
      rfl
    · have elsewhere : key ∈ (entry :: rest).map Prod.fst ↔ key ∈ rest.map Prod.fst := by
        rw [List.map_cons, List.mem_cons]
        exact or_iff_right (Ne.symm same)
      rw [writeEntry, if_neg same, List.map_cons, ih]
      simp only [elsewhere]
      split <;> rfl

/-- A key that is not there yet comes last. -/
theorem writeEntry_of_notMem (absent : key ∉ entries.map Prod.fst) (value : ν) :
    writeEntry key value entries = entries ++ [(key, value)] := by
  induction entries with
  | nil => rfl
  | cons entry rest ih =>
    rw [List.map_cons, List.mem_cons, not_or] at absent
    rw [writeEntry, if_neg (Ne.symm absent.1), ih absent.2]
    rfl

variable [BEq κ] [LawfulBEq κ]

theorem lookup_writeEntry_self (key : κ) (value : ν) (entries : List (κ × ν)) :
    (writeEntry key value entries).lookup key = some value := by
  induction entries with
  | nil => exact List.lookup_cons_self
  | cons entry rest ih =>
    obtain ⟨other, old⟩ := entry
    by_cases same : other = key
    · subst same
      simp only [writeEntry, if_true, List.lookup_cons_self]
    · simp only [writeEntry, if_neg same, List.lookup_cons, beq_false_of_ne (Ne.symm same)]
      exact ih

theorem lookup_writeEntry_ne (different : other ≠ key) (value : ν) (entries : List (κ × ν)) :
    (writeEntry key value entries).lookup other = entries.lookup other := by
  induction entries with
  | nil => simp only [writeEntry, List.lookup_cons, beq_false_of_ne different, List.lookup_nil]
  | cons entry rest ih =>
    obtain ⟨name, old⟩ := entry
    by_cases same : name = key
    · subst same
      simp only [writeEntry, if_true, List.lookup_cons, beq_false_of_ne different]
    · simp only [writeEntry, if_neg same, List.lookup_cons, ih]

/-- What stands under a key can be written there without a change. -/
theorem writeEntry_eq_self (found : entries.lookup key = some value) :
    writeEntry key value entries = entries := by
  induction entries with
  | nil => cases found
  | cons entry rest ih =>
    obtain ⟨name, old⟩ := entry
    by_cases same : name = key
    · subst same
      rw [List.lookup_cons_self] at found
      cases found
      rw [writeEntry, if_pos rfl]
    · rw [List.lookup_cons, beq_false_of_ne (Ne.symm same)] at found
      rw [writeEntry, if_neg same, ih found]

/-- A key is found as before if all its entries are kept. -/
theorem lookup_filter {keep : κ × ν → Bool}
    (kept : ∀ value, (key, value) ∈ entries → keep (key, value) = true) :
    (entries.filter keep).lookup key = entries.lookup key := by
  induction entries with
  | nil => rfl
  | cons entry rest ih =>
    obtain ⟨other, value⟩ := entry
    have onward := ih fun value member => kept value (List.mem_cons_of_mem _ member)
    by_cases same : key = other
    · subst same
      rw [List.filter_cons_of_pos (kept value List.mem_cons_self), List.lookup_cons_self,
        List.lookup_cons_self]
    · rw [List.filter_cons]
      split
      · rw [List.lookup_cons, List.lookup_cons, beq_false_of_ne same, onward]
      · rw [List.lookup_cons, beq_false_of_ne same, onward]

end

theorem Json.setMember_eq_writeEntry (key : String) (value : Json) (members : List (String × Json)) :
    setMember key value members = writeEntry key value members := by
  induction members with
  | nil => rfl
  | cons member rest ih => rw [setMember, writeEntry, ih]

theorem XmlElement.setAttribute_eq_writeEntry (name value : String)
    (attributes : List (String × String)) :
    setAttribute name value attributes = writeEntry name value attributes := by
  induction attributes with
  | nil => rfl
  | cons entry rest ih => rw [setAttribute, writeEntry, ih]

/-! ## Places in a list -/

/-- The first of the entries that are meant is replaced by a new one, which is added behind all
entries if none of them is meant. Every other entry stays where it is. -/
inductive Placed {α : Type} (meant : α → Prop) (new : α) : Option α → List α → List α → Prop
  | replaced {before after : List α} {old : α} (first : ∀ entry ∈ before, ¬meant entry)
    (here : meant old) :
    Placed meant new (some old) (before ++ old :: after) (before ++ new :: after)
  | added {entries : List α} (absent : ∀ entry ∈ entries, ¬meant entry) :
    Placed meant new none entries (entries ++ [new])

namespace Placed

variable {α : Type} {meant : α → Prop} {new : α} {old : Option α} {entries written : List α}

/-- An entry in front that is not meant is passed over. -/
theorem cons {entry : α} (other : ¬meant entry) (placed : Placed meant new old entries written) :
    Placed meant new old (entry :: entries) (entry :: written) := by
  cases placed with
  | replaced first here =>
    rw [← List.cons_append, ← List.cons_append]
    exact replaced (List.forall_mem_cons.mpr ⟨other, first⟩) here
  | added absent =>
    rw [← List.cons_append]
    exact added (List.forall_mem_cons.mpr ⟨other, absent⟩)

theorem here {entry : α} (found : meant entry) (rest : List α) :
    Placed meant new (some entry) (entry :: rest) (new :: rest) := by
  rw [← List.nil_append (entry :: rest), ← List.nil_append (new :: rest)]
  exact replaced (fun _ member => absurd member List.not_mem_nil) found

theorem nil : Placed meant new none [] [new] := by
  rw [← List.nil_append [new]]
  exact added fun _ member => absurd member List.not_mem_nil

end Placed

theorem placed_writeEntry {κ ν : Type} [DecidableEq κ] [BEq κ] [LawfulBEq κ] (key : κ) (value : ν)
    (entries : List (κ × ν)) :
    Placed (fun entry => entry.1 = key) (key, value)
      ((entries.lookup key).map fun old => (key, old)) entries (writeEntry key value entries) := by
  induction entries with
  | nil => exact .nil
  | cons entry rest ih =>
    obtain ⟨name, old⟩ := entry
    by_cases same : name = key
    · subst same
      simp only [List.lookup_cons_self, Option.map_some, writeEntry, if_true]
      refine .here ?_ rest
      rfl
    · simp only [List.lookup_cons, beq_false_of_ne (Ne.symm same), writeEntry, if_neg same]
      exact ih.cons same

end DerivedFields

import DerivedFields.Json.Written

/-!
# Records in JSON

A record is an object whose keys name its fields. Fields may be left out and the values of unknown
keys do not count, but every key is a text and a field is given once at most. An array is a record
as well: it holds the fields in order, the last ones possibly left out.
-/

namespace DerivedFields.Json

namespace Written

/-- The value of a field among members, and nothing if it is left out. -/
def field? (name : String) (members : List (Option String × Written)) : Option (Option Written) :=
  match members.filter fun member => member.1 == some name with
  | [] => some none
  | [(_, value)] => some (some value)
  | _ => none

/-- The fields of a record in the given order. -/
def fields? (names : List String) : Written → Option (List (Option Written))
  | .object members =>
    if members.all fun member => member.1.isSome then names.mapM fun name => field? name members
    else none
  | .array items =>
    if items.length ≤ names.length then
      some (items.map some ++ List.replicate (names.length - items.length) none)
    else none
  | _ => none

/-- A field with a default. -/
def defaulted? {α : Type} (default : α) (read : Written → Option α) : Option Written → Option α
  | none => some default
  | some value => read value

/-- A value that may be null. -/
def nullable? {α : Type} (read : Written → Option α) : Written → Option (Option α)
  | .null => some none
  | value => (read value).map some

def string? : Written → Option String
  | .string text => text
  | _ => none

def boolean? : Written → Option Bool
  | .boolean value => some value
  | _ => none

def array? : Written → Option (List Written)
  | .array items => some items
  | _ => none

/-- A choice without contents: its name, alone or as the only key of an object with null. -/
def choice? : Written → Option String
  | .string name => name
  | .object [(name, .null)] => name
  | _ => none

end Written

/-- Null for nothing. -/
def ofOption {α : Type} (write : α → Json) : Option α → Json
  | none => .null
  | some value => write value

end DerivedFields.Json

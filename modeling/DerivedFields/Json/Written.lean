import DerivedFields.Json.Basic

/-!
# JSON as written

What a JSON text spells before its value is taken. A number may be too large and a string may hold
half a surrogate pair: such a part is well formed and yet has no value, which `none` stands for. A
key may be repeated, and containers may be nested to any depth.

Whoever takes the value of the whole text needs every part of it. A record takes its own fields
only, so that parts without a value do no harm in a field that it does not know.
-/

namespace DerivedFields.Json

inductive Written
  | null
  | boolean (value : Bool)
  | number (value : Option JsonNumber)
  | string (text : Option String)
  | array (items : List Written)
  | object (members : List (Option String × Written))

/-- The depth at which the value of a container is refused. -/
def depthLimit : Nat := 128

namespace Written

mutual

/-- The value of a text whose parts all have one. Repeated keys are merged, and a container at
depth one or below is refused. -/
def toJson? (depth : Nat) : Written → Option Json
  | .null => some .null
  | .boolean value => some (.boolean value)
  | .number value => value.map .number
  | .string text => text.map .string
  | .array items => if depth ≤ 1 then none else (itemsToJson? (depth - 1) items).map .array
  | .object members =>
    if depth ≤ 1 then none
    else (membersToJson? (depth - 1) members).map fun members => .object (mergeMembers members)

def itemsToJson? (depth : Nat) : List Written → Option (List Json)
  | [] => some []
  | item :: items => do some ((← toJson? depth item) :: (← itemsToJson? depth items))

def membersToJson? (depth : Nat) : List (Option String × Written) → Option (List (String × Json))
  | [] => some []
  | (key, value) :: members => do
    some ((← key, ← toJson? depth value) :: (← membersToJson? depth members))

end

end Written

mutual

/-- A value as the text that spells it. -/
def asWritten : Json → Written
  | .null => .null
  | .boolean value => .boolean value
  | .number value => .number (some value)
  | .string text => .string (some text)
  | .array items => .array (itemsAsWritten items)
  | .object members => .object (membersAsWritten members)

def itemsAsWritten : List Json → List Written
  | [] => []
  | item :: items => asWritten item :: itemsAsWritten items

def membersAsWritten : List (String × Json) → List (Option String × Written)
  | [] => []
  | (key, value) :: members => (some key, asWritten value) :: membersAsWritten members

end

end DerivedFields.Json

import DerivedFields.Binary64.Basic

/-!
# JSON values

The members of an object keep the order in which their keys were first written. A number is an
integer of 64 bits, signed or unsigned, or else a binary floating point number.
-/

namespace DerivedFields

inductive JsonNumber
  | integer (value : Int)
  | real (value : Binary64)
  deriving DecidableEq

inductive Json
  | null
  | boolean (value : Bool)
  | number (value : JsonNumber)
  | string (text : String)
  | array (items : List Json)
  | object (members : List (String × Json))

namespace Json

/-- The value under a key. -/
def member? (key : String) (members : List (String × Json)) : Option Json := members.lookup key

/-- Writes the value under a key: in its place if the key is there, else at the end. -/
def setMember (key : String) (value : Json) : List (String × Json) → List (String × Json)
  | [] => [(key, value)]
  | (k, v) :: rest => if k = key then (k, value) :: rest else (k, v) :: setMember key value rest

/-- Members in order, a repeated key keeping its first place and its last value. -/
def mergeMembers (members : List (String × Json)) : List (String × Json) :=
  members.foldl (fun merged (key, value) => setMember key value merged) []

mutual

/-- Equality of trees, the order of members included. -/
def same : Json → Json → Bool
  | .null, .null => true
  | .boolean a, .boolean b => a == b
  | .number a, .number b => a == b
  | .string a, .string b => a == b
  | .array a, .array b => sameItems a b
  | .object a, .object b => sameMembers a b
  | _, _ => false

def sameItems : List Json → List Json → Bool
  | [], [] => true
  | a :: as, b :: bs => same a b && sameItems as bs
  | _, _ => false

def sameMembers : List (String × Json) → List (String × Json) → Bool
  | [], [] => true
  | (k, a) :: as, (l, b) :: bs => k == l && same a b && sameMembers as bs
  | _, _ => false

end

end Json

end DerivedFields

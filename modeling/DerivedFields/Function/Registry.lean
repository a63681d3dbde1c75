import DerivedFields.Function.Basic

/-!
# Registered functions

Functions by name, in any case of letters. Registering a name again replaces the function.
-/

namespace DerivedFields

/-- The form of a name that decides which function it is. -/
def functionKey (name : String) : String := String.ofList (Text.lower name.toList)

/-- Functions, at most one for each key. -/
structure Registry where
  functions : List Function

namespace Registry

def empty : Registry := ⟨[]⟩

/-- The functions with one added, in the place of any other with its key. -/
def place (function : Function) : List Function → List Function
  | [] => [function]
  | other :: rest =>
    if functionKey other.name = functionKey function.name then function :: rest
    else other :: place function rest

def register (registry : Registry) (function : Function) : Registry :=
  ⟨place function registry.functions⟩

def ofList (functions : List Function) : Registry := functions.foldl register empty

/-- The function with a name, in any case of letters. -/
def get? (registry : Registry) (name : String) : Option Function :=
  registry.functions.find? fun function => functionKey function.name = functionKey name

def size (registry : Registry) : Nat := registry.functions.length

/-- Order of listings: by category, then by name. -/
def listedBefore (first second : Function) : Bool :=
  first.category.rank < second.category.rank ||
    (first.category.rank == second.category.rank && !(second.name < first.name))

/-- All functions in the order of listings. -/
def listing (registry : Registry) : List Function := registry.functions.mergeSort listedBefore

end Registry

end DerivedFields

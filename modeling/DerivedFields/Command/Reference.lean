import DerivedFields.Command.Error
import DerivedFields.Command.Pages
import DerivedFields.Function.Registry

/-!
# Documentation

Pages by category. The categories of functions have a page that is made from the registry.
-/

namespace DerivedFields.Documentation

/-- Lines as one text. -/
def text (lines : List String) : String := String.join (lines.map (· ++ "\n"))

def overview : String := text overviewPage

/-- Text filled with blanks on the right up to a width. -/
def padRight (width : Nat) (text : String) : String :=
  text ++ String.ofList (List.replicate (width - text.length) ' ')

/-- The line of a function. -/
def functionLine (function : Function) : String :=
  "  " ++ padRight 18 function.name ++ " " ++ function.arity.toText ++ " argument(s)" ++
    match usages.lookup function.name with
    | some usage => "    " ++ usage
    | none => ""

/-- The lines of functions in the order of listings, with a heading where a category begins. -/
def referenceLines (previous : Option Category) : List Function → List String
  | [] => []
  | function :: rest =>
    let heading :=
      if previous = some function.category then []
      else
        (if previous.isSome then [""] else []) ++
          [String.ofList (Text.upper function.category.label.toList)]
    heading ++ functionLine function :: referenceLines (some function.category) rest

/-- The reference of all functions, or of those in one category. -/
def functionReference (registry : Registry) (only : Option Category) : String :=
  text <| referenceLines none <| registry.listing.filter fun function =>
    match only with
    | some category => function.category = category
    | none => true

/-- The page with a name; underscores count as hyphens, and case does not count. -/
def page? (registry : Registry) (name : String) : Option String :=
  let reference (category : Category) := some (functionReference registry (some category))
  let lowered := Text.lower name.toList
  match String.ofList (lowered.map fun c => if c = '_' then '-' else c) with
  | "syntax" => some (text syntaxPage)
  | "operators" | "ops" => some (text operatorsPage)
  | "types" | "type" | "coercion" => some (text typesPage)
  | "paths" | "path" => some (text pathsPage)
  | "pipeline" | "nodes" => some (text pipelinePage)
  | "conditional" | "if" => reference .conditional
  | "string" | "strings" => reference .string
  | "numeric" | "math" => reference .numeric
  | "formatting" | "format" | "masks" => reference .formatting
  | "datetime" | "date-time" | "dates" => reference .dateTime
  | "lookup" | "tables" => reference .lookup
  | _ => none

def page (registry : Registry) (name : String) : Except CommandError String :=
  match page? registry name with
  | some content => .ok content
  | none => .error (.unknownCategory name)

end DerivedFields.Documentation

import DerivedFields.Files.Fault
import DerivedFields.Table.Basic

/-!
# Tables by name

Tables come from a source that gives the two texts of a table by its name. A table is read when it
is first asked for and kept from then on; a failure keeps nothing.
-/

namespace DerivedFields

/-- Where tables come from: for each name the text of its configuration and of its rows. -/
structure TableSource where
  config : String → Resource
  rows : String → Resource

/-- The source without tables. -/
def TableSource.empty : TableSource := ⟨fun _ => .missing, fun _ => .missing⟩

/-- A source with the given tables, each a name, its configuration and its rows. -/
def TableSource.ofList (tables : List (String × String × String)) : TableSource where
  config name := match tables.lookup name with
    | some (config, _) => .text config
    | none => .missing
  rows name := match tables.lookup name with
    | some (_, rows) => .text rows
    | none => .missing

/-- The text of a resource of a table. -/
def Resource.read (table : String) (kind : TableResource) (absent : TableFault) :
    Resource → Except EvalError String
  | .missing => .error (.domain (.table table absent))
  | .unreadable fault => .error (.unreadableTable kind table fault)
  | .text content => .ok content

/-- Reads a table: its configuration first, and its rows if that is right. -/
def TableSource.load (source : TableSource) (name : String) : Except EvalError LookupTable := do
  let lift {α : Type} (result : Except TableFault α) : Except EvalError α :=
    result.mapError fun fault => .domain (.table name fault)
  let config ← lift (TableConfig.parse (← (source.config name).read name .config .missingConfig))
  lift (LookupTable.parse config (← (source.rows name).read name .rows .missingTable))

/-- A source and the tables read from it so far. -/
structure TableCache where
  source : TableSource
  loaded : List (String × LookupTable)

namespace TableCache

def ofSource (source : TableSource) : TableCache := ⟨source, []⟩

def isLoaded (cache : TableCache) (name : String) : Bool := (cache.loaded.lookup name).isSome

/-- The table with a name, and the cache that holds it from now on. -/
def get (cache : TableCache) (name : String) : Except EvalError LookupTable × TableCache :=
  match cache.loaded.lookup name with
  | some table => (.ok table, cache)
  | none =>
    match cache.source.load name with
    | .ok table => (.ok table, { cache with loaded := (name, table) :: cache.loaded })
    | .error error => (.error error, cache)

end TableCache

end DerivedFields

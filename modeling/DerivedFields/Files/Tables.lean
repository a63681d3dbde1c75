import DerivedFields.Files.Tree
import DerivedFields.Table.Cache

/-!
# Tables in a directory

The configuration of a table is in `LookupConfigs`, its rows are in `Lookups`.
-/

namespace DerivedFields

/-- The tables in a directory of a file tree. -/
def FileTree.tables (tree : FileTree) (directory : String) : TableSource where
  config name :=
    tree.read (FilePath.join (FilePath.join directory "LookupConfigs") (name ++ ".properties"))
  rows name := tree.read (FilePath.join (FilePath.join directory "Lookups") (name ++ ".csv"))

/-- The tables in a directory, if one is given. -/
def FileTree.tablesIn (tree : FileTree) : Option String → TableSource
  | some directory => tree.tables directory
  | none => .empty

end DerivedFields

import DerivedFields.Document.Basic
import DerivedFields.Settings

/-!
# What a script sees

A script reads two documents. The path that its result is written to is read from the document
being written, every other path from the output of the previous node. So a script sees its own
earlier result, but not those of its neighbours.
-/

namespace DerivedFields

structure Scope where
  settings : Settings
  output : Document
  intermediate : Document
  target : Option Path

namespace Scope

/-- A single document without a target path. -/
def ofDocument (settings : Settings) (document : Document) : Scope :=
  ⟨settings, document, document, none⟩

/-- The document that a path is read from. -/
def source (scope : Scope) (path : Path) : Document :=
  if scope.target = some path then scope.intermediate else scope.output

/-- The text at a path. -/
def resolve (scope : Scope) (path : String) : String :=
  (scope.source (Path.parse path)).resolve (Path.parse path) scope.settings.lenientAttributes

end Scope

end DerivedFields

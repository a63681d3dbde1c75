import DerivedFields.Text.Case
import DerivedFields.Text.Search

/-!
# Document formats

A format is given by name or taken from the extension of a file name. Files without a known
extension hold JSON.
-/

namespace DerivedFields

inductive Format
  | json
  | xml
  deriving DecidableEq

namespace Format

/-- The name of a format, which is also its file extension. -/
def extension : Format → String
  | .json => "json"
  | .xml => "xml"

/-- The format with a name, in any case of ASCII letters. -/
def ofName? (name : String) : Option Format :=
  if Text.equalsIgnoringCase name "json" then some .json
  else if Text.equalsIgnoringCase name "xml" then some .xml
  else none

/-- What stands behind the last point of a file name, if something stands before it. -/
def extension? (fileName : List Char) : Option (List Char) :=
  match Text.cutAtChar? (· == '.') fileName.reverse with
  | some (reversed, _ :: _) => some reversed.reverse
  | _ => none

/-- The last name in a file path. Empty names and the current directory do not count. -/
def fileName (path : String) : List Char :=
  (((Text.splitAtChar '/' path.toList).filter fun name => !name.isEmpty && name != ['.']).getLast?
    ).getD []

/-- The format of a file: XML if its extension says so, else JSON. -/
def ofPath (path : String) : Format :=
  match extension? (fileName path) with
  | some extension =>
    if Text.equalsIgnoringCase (String.ofList extension) "xml" then .xml else .json
  | none => .json

end Format

end DerivedFields

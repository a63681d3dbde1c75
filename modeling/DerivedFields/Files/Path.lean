import DerivedFields.Document.Format
import DerivedFields.Files.Fault

/-!
# File paths

File paths as text: joining a name to a directory, the directory that a path is in, and the paths
that no file can have.
-/

namespace DerivedFields.FilePath

/-- A path that starts at the root of the file system. -/
def isAbsolute (path : String) : Bool := path.toList.head? == some '/'

/-- The names that a path is made of. Empty ones and the current directory do not count. -/
def names (path : String) : List String :=
  ((Text.splitAtChar '/' path.toList).map String.ofList).filter fun name => name != "" && name != "."

/-- A path that ends in the name of the current directory, with slashes behind it or not. -/
def endsInCurrent (path : String) : Bool :=
  match path.toList.reverse.dropWhile (· == '/') with
  | '.' :: '/' :: _ | ['.'] => true
  | _ => false

/-- A path written in such a way that it can only be a directory. -/
def namesDirectory (path : String) : Bool :=
  path.toList.getLast? == some '/' || endsInCurrent path

/-- The greatest number of bytes in a name. -/
def nameLimit : Nat := 255

/-- The greatest number of bytes in a path. -/
def pathLimit : Nat := 4095

/-- Why a path leads nowhere, whatever files there are. -/
def fault? (path : String) : Option FileFault :=
  if path.toList.contains '\x00' then some .nulByte
  else if path = "" then some .missing
  else if pathLimit < path.utf8ByteSize then some .nameTooLong
  else none

/-- The path of a name in a directory. -/
def join (directory name : String) : String :=
  if isAbsolute name || directory = "" then name
  else if directory.toList.getLast? = some '/' then directory ++ name
  else directory ++ "/" ++ name

/-- Text without the slashes, and the names of the current directory, at its end. -/
def dropTrailing : List Char → List Char
  | '/' :: reversed => dropTrailing reversed
  | '.' :: '/' :: reversed => dropTrailing reversed
  | reversed => reversed

/-- The path of the directory that a path is in; nothing if the path is a single name. -/
def parent (path : String) : String :=
  let reversed := dropTrailing path.toList.reverse
  let rest := reversed.dropWhile (· != '/')
  if rest.isEmpty then ""
  else
    let trimmed := dropTrailing rest
    if trimmed.isEmpty then "/" else String.ofList trimmed.reverse

end DerivedFields.FilePath

/-!
# File faults

Why a path cannot be read or written. Each fault has one wording, that of the file system. A text that
is asked for may be missing, or be there but not readable.
-/

namespace DerivedFields

inductive FileFault
  /-- Nothing is there, or no directory leads there. -/
  | missing
  /-- A directory is to be created where something else is. -/
  | taken
  | notDirectory
  | isDirectory
  | nameTooLong
  | nulByte
  deriving DecidableEq

/-- A message of the file system with its number. -/
def FileFault.numbered (text : String) (number : Nat) : String :=
  text ++ " (os error " ++ toString number ++ ")"

def FileFault.message : FileFault → String
  | .missing => numbered "No such file or directory" 2
  | .taken => numbered "File exists" 17
  | .notDirectory => numbered "Not a directory" 20
  | .isDirectory => numbered "Is a directory" 21
  | .nameTooLong => numbered "File name too long" 36
  | .nulByte => "file name contained an unexpected NUL byte"

/-- What is answered when a text is asked for. -/
inductive Resource
  | missing
  | unreadable (fault : FileFault)
  | text (content : String)
  deriving DecidableEq

end DerivedFields

import DerivedFields.Fault

/-!
# Command errors

What stops a command: a failure of the library, a missing input document, or a category that the
documentation does not have.
-/

namespace DerivedFields

inductive CommandError
  | failure (failure : Failure)
  | noInput
  | unknownCategory (name : String)
  deriving DecidableEq

namespace CommandError

def message : CommandError → String
  | .failure cause => cause.message
  | .noInput => "No input document. Use --input or pipe a JSON or XML document to stdin."
  | .unknownCategory name =>
    "Unknown category: '" ++ name ++ "'\nRun 'quill docs' to see available categories."

/-- The exit status of the program: every error that it knows has the same. -/
def exitCode (_ : CommandError) : Nat := 2

end CommandError

end DerivedFields

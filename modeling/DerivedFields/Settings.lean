import DerivedFields.Calendar.DateTime

/-!
# Settings of an evaluation

How operators treat operands of different kinds, how attributes are read, and what happens to calls
that fail on a blank argument.
-/

namespace DerivedFields

/-- Whether text counts as the number or truth value that it spells. -/
inductive Discipline
  | coercive
  | strict
  deriving DecidableEq

/-- The settings under which scripts are evaluated; `now` is the time that they are told. -/
structure Settings where
  discipline : Discipline
  lenientAttributes : Bool
  recoverBlankArguments : Bool
  now : Option DateTime
  deriving DecidableEq

/-- The settings that hold unless others are given. -/
def Settings.standard : Settings := ⟨.coercive, true, true, none⟩

end DerivedFields

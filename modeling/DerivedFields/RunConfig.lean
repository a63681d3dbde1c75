import DerivedFields.Calendar.Iso
import DerivedFields.Json.Reader
import DerivedFields.Json.Record
import DerivedFields.Settings

/-!
# Run configurations

The settings of a run and the directories that it uses, as a JSON record in which everything may be
left out.
-/

namespace DerivedFields

open Json.Written (defaulted? nullable? string? boolean?)

def Discipline.name : Discipline → String
  | .coercive => "coercive"
  | .strict => "strict"

def Discipline.ofWritten? (written : Json.Written) : Option Discipline := do
  match ← written.choice? with
  | "coercive" => some .coercive
  | "strict" => some .strict
  | _ => none

/-- The text of a date-time. -/
def DateTime.ofWritten? (written : Json.Written) : Option DateTime :=
  written.string?.bind DateTime.ofIso?

namespace Settings

def ofWritten? (written : Json.Written) : Option Settings := do
  match ← written.fields? ["discipline", "lenient_attributes", "recover_blank_arguments", "now"] with
  | [discipline, lenient, recover, now] =>
    some {
      discipline := ← defaulted? standard.discipline Discipline.ofWritten? discipline
      lenientAttributes := ← defaulted? standard.lenientAttributes boolean? lenient
      recoverBlankArguments := ← defaulted? standard.recoverBlankArguments boolean? recover
      now := ← defaulted? standard.now (nullable? DateTime.ofWritten?) now }
  | _ => none

def ofJson? (json : Json) : Option Settings := ofWritten? json.asWritten

def toJson (settings : Settings) : Json :=
  .object [
    ("discipline", .string settings.discipline.name),
    ("lenient_attributes", .boolean settings.lenientAttributes),
    ("recover_blank_arguments", .boolean settings.recoverBlankArguments),
    ("now", Json.ofOption (fun now => .string now.toIso) settings.now)]

end Settings

/-- The settings of a run, the directory that holds the lookup tables, and the directory that
receives snapshots. -/
structure RunConfig where
  settings : Settings
  tablesDirectory : Option String
  intermediateDirectory : Option String
  deriving DecidableEq

namespace RunConfig

def standard : RunConfig := ⟨.standard, none, none⟩

def ofWritten? (written : Json.Written) : Option RunConfig := do
  match ← written.fields? ["options", "tables_dir", "intermediate_dir"] with
  | [settings, tables, intermediate] =>
    some {
      settings := ← defaulted? Settings.standard Settings.ofWritten? settings
      tablesDirectory := ← defaulted? none (nullable? string?) tables
      intermediateDirectory := ← defaulted? none (nullable? string?) intermediate }
  | _ => none

def ofJson? (json : Json) : Option RunConfig := ofWritten? json.asWritten

/-- Reads the text of a configuration. -/
def read? (text : String) : Option RunConfig := (Json.Written.read? text).bind ofWritten?

def toJson (config : RunConfig) : Json :=
  .object [
    ("options", config.settings.toJson),
    ("tables_dir", Json.ofOption .string config.tablesDirectory),
    ("intermediate_dir", Json.ofOption .string config.intermediateDirectory)]

end RunConfig

end DerivedFields

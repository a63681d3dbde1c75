import DerivedFields.Document.Format

/-!
# Command lines

A command line names a command and gives its options, each by a long or a short name. The value of
an option stands in the next argument or behind an equals sign, and behind a short name also
directly. Two hyphens end the options.
-/

namespace DerivedFields

/-- The options of a command: those with a value, with their short names, and those without. -/
structure OptionNames where
  valued : List (String × Option Char)
  flags : List String

/-- Arguments sorted into options and others, in the order given. -/
structure SortedArguments where
  values : List (String × String)
  flags : List String
  others : List String

namespace SortedArguments

def none : SortedArguments := ⟨[], [], []⟩

def addValue (name value : String) (sorted : SortedArguments) : SortedArguments :=
  { sorted with values := (name, value) :: sorted.values }

def addFlag (name : String) (sorted : SortedArguments) : SortedArguments :=
  { sorted with flags := name :: sorted.flags }

def addOther (argument : String) (sorted : SortedArguments) : SortedArguments :=
  { sorted with others := argument :: sorted.others }

/-- No option with a value, and no flag, is given twice. -/
def isConsistent (sorted : SortedArguments) : Bool :=
  let names := sorted.values.map (·.1) ++ sorted.flags
  names.eraseDups.length == names.length

end SortedArguments

/-- The argument looks like an option. -/
def isOption (argument : String) : Bool :=
  match argument.toList with
  | '-' :: _ :: _ => true
  | _ => false

/-- Short options in one argument: how often more detail is asked for, and an option with the value
that follows directly. -/
def shortOption? (names : OptionNames) : List Char → Option (Option (String × List Char))
  | [] => some none
  | 'v' :: rest => shortOption? names rest
  | c :: rest =>
    (names.valued.find? fun option => option.2 == some c).map fun option => some (option.1, rest)

/-- The value behind a short name in the same argument. -/
def directValue : List Char → String
  | '=' :: value => String.ofList value
  | value => String.ofList value

/-- Sorts the arguments of a command; nothing if one of them is no option of it. -/
def sortArguments? (names : OptionNames) : List String → Option SortedArguments
  | [] => some .none
  | argument :: rest =>
    if !isOption argument then (sortArguments? names rest).map (·.addOther argument)
    else match argument.toList with
      | ['-', '-'] => some { SortedArguments.none with others := rest }
      | '-' :: '-' :: text =>
        let name := String.ofList (text.takeWhile (· != '='))
        let isValued := names.valued.any fun option => option.1 == name
        match text.dropWhile (· != '='), rest with
        | _ :: value, rest =>
          if isValued then (sortArguments? names rest).map (·.addValue name (String.ofList value))
          else Option.none
        | [], rest =>
          if name = "verbose" then sortArguments? names rest
          else if names.flags.contains name then (sortArguments? names rest).map (·.addFlag name)
          else match rest with
            | value :: rest =>
              if isValued && !isOption value then
                (sortArguments? names rest).map (·.addValue name value)
              else Option.none
            | [] => Option.none
      | _ :: letters =>
        match shortOption? names letters, rest with
        | some Option.none, rest => sortArguments? names rest
        | some (some (name, [])), value :: rest =>
          if isOption value then Option.none
          else (sortArguments? names rest).map (·.addValue name value)
        | some (some (name, value)), rest =>
          if value.isEmpty then Option.none
          else (sortArguments? names rest).map (·.addValue name (directValue value))
        | Option.none, _ => Option.none
      | [] => Option.none

/-- The options of an evaluation. -/
structure EvalOptions where
  script : String
  input : Option String
  format : Option Format
  strict : Bool
  tables : Option String
  deriving DecidableEq

/-- The options of a run. -/
structure RunOptions where
  pipeline : String
  input : String
  output : Option String
  format : Option Format
  intermediate : Option String
  tables : Option String
  config : Option String
  strict : Bool
  deriving DecidableEq

inductive Command
  | check (script : String)
  | eval (options : EvalOptions)
  | run (options : RunOptions)
  | functions
  | docs
  | doc (category : String)
  | version
  deriving DecidableEq

namespace Command

/-- A format given by name. -/
def format? (value : Option String) : Option (Option Format) :=
  match value with
  | some name => (Format.ofName? name).map some
  | none => some none

def evalNames : OptionNames :=
  ⟨[("input", some 'i'), ("format", some 'f'), ("tables", none)], ["strict"]⟩

def runNames : OptionNames :=
  ⟨[("pipeline", some 'p'), ("input", some 'i'), ("output", some 'o'), ("format", some 'f'),
    ("intermediate", none), ("tables", none), ("config", some 'c')], ["strict"]⟩

/-- A command with its sorted arguments. -/
def ofSorted? (name : String) (sorted : SortedArguments) : Option Command :=
  let value (option : String) := sorted.values.lookup option
  let strict := sorted.flags.contains "strict"
  match name, sorted.others with
  | "check", [script] => some (.check script)
  | "eval", [script] => do
    some (.eval ⟨script, value "input", ← format? (value "format"), strict, value "tables"⟩)
  | "run", [] => do
    some (.run ⟨← value "pipeline", ← value "input", value "output", ← format? (value "format"),
      value "intermediate", value "tables", value "config", strict⟩)
  | "functions", [] => some .functions
  | "docs", [] => some .docs
  | "doc", [category] => some (.doc category)
  | _, _ => none

/-- The options of the command with a name. -/
def optionNames : String → OptionNames
  | "eval" => evalNames
  | "run" => runNames
  | _ => ⟨[], []⟩

/-- The command of a command line; nothing if it is wrong. -/
def parse? : List String → Option Command
  | [] => none
  | argument :: rest =>
    if argument = "--version" || argument = "-V" then some .version
    else if isOption argument then
      if argument = "--verbose" || (argument.toList.drop 1).all (· == 'v') then parse? rest
      else none
    else do
      let sorted ← sortArguments? (optionNames argument) rest
      if sorted.isConsistent then ofSorted? argument sorted else none

end Command

end DerivedFields

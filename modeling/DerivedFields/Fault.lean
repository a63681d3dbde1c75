import DerivedFields.Calendar.DateTime
import DerivedFields.Document.Basic
import DerivedFields.Files.Fault
import DerivedFields.Function.Arity
import DerivedFields.Script.Parser

/-!
# Faults

Why an evaluation fails, grouped by the kind of error that a user is told. Each cause has one
wording, in `message`, which begins with the label of its kind.
-/

namespace DerivedFields

/-- The kind of an error, whatever caused it. -/
inductive ErrorKind
  | parse
  | type
  | arity
  | divideByZero
  | range
  | domain
  | unknownFunction
  | path
  | invalidPath
  | file
  | configuration
  deriving DecidableEq

def ErrorKind.label : ErrorKind → String
  | .parse => "PARSE_ERROR"
  | .type => "TYPE_ERROR"
  | .arity => "ARITY_MISMATCH"
  | .divideByZero => "DIVIDE_BY_ZERO"
  | .range => "RANGE_ERROR"
  | .domain => "DOMAIN_ERROR"
  | .unknownFunction => "UNKNOWN_FUNCTION"
  | .path => "PATH_ERROR"
  | .invalidPath => "INVALID_PATH"
  | .file => "IO_ERROR"
  | .configuration => "CONFIG_ERROR"

/-- An operand or argument is of the wrong kind. Kinds of values are given by name. -/
inductive TypeFault
  | argument (function : String) (position : Nat) (expected found : String)
  | operands (op : Script.BinaryOp) (left right : String)
  | negation (operand : String)
  | remainderOperands (left right : Decimal)
  | integerOperand (function : String) (position : Nat) (found : Decimal)
  | wordsOperand (found : Decimal)
  deriving DecidableEq

def TypeFault.message : TypeFault → String
  | .argument function position expected found =>
    "'" ++ function ++ "' argument " ++ toString position ++ " must be " ++ expected ++
      ", got " ++ found
  | .operands op left right =>
    "cannot apply '" ++ op.spelling ++ "' to " ++ left ++ " and " ++ right
  | .negation operand => "cannot negate " ++ operand
  | .remainderOperands left right =>
    "'%' requires integer operands, got " ++ left.canonicalText ++ " and " ++
      right.canonicalText
  | .integerOperand function position found =>
    "'" ++ function ++ "' expects integer operands, argument " ++ toString position ++ " is " ++
      found.canonicalText
  | .wordsOperand found =>
    "'NumberToWords' expects an integer, got " ++ found.canonicalText

/-- An arithmetic operation whose result may be too large. -/
inductive Operation
  | addition
  | subtraction
  | multiplication
  | division
  | modulus
  deriving DecidableEq

def Operation.label : Operation → String
  | .addition => "addition"
  | .subtraction => "subtraction"
  | .multiplication => "multiplication"
  | .division => "division"
  | .modulus => "modulus"

/-- A number is out of bounds. -/
inductive RangeFault
  | overflow (operation : Operation)
  | argumentTooLarge (function : String) (position : Nat)
  | negativeScale (scale : Int)
  | maskTooWide
  | percentageOverflow
  | unnamedNumber (n : Int)
  | interval (amount : Int) (unit : CalendarUnit)
  | subtractedInterval
  deriving DecidableEq

/-- One more than the greatest magnitude that number words can name. -/
def wordsLimit : Nat := 1000000000000000

def RangeFault.message : RangeFault → String
  | .overflow operation => operation.label ++ " overflows the decimal range"
  | .argumentTooLarge function position =>
    "'" ++ function ++ "' argument " ++ toString position ++ " is too large"
  | .negativeScale scale => "'Round' scale must not be negative, got " ++ toString scale
  | .maskTooWide => "number mask is too wide"
  | .percentageOverflow => "percentage overflows"
  | .unnamedNumber n =>
    "NumberToWords supports magnitudes below " ++ toString wordsLimit ++ ", got " ++ toString n
  | .interval amount unit =>
    "interval " ++ toString amount ++ " " ++ unit.label ++ " is out of range"
  | .subtractedInterval => "'SubtractInterval' amount is out of range"

/-- A lookup table or its configuration is unusable. -/
inductive TableFault
  | missingKey
  | badColumn
  | columnTooSmall
  | noRows
  | missingConfig
  | missingTable
  deriving DecidableEq

def TableFault.message (table : String) : TableFault → String
  | .missingKey => "lookup '" ++ table ++ "': missing config key 'primaryKeyColumnIndex'"
  | .badColumn => "lookup '" ++ table ++ "': bad integer for 'primaryKeyColumnIndex'"
  | .columnTooSmall => "lookup '" ++ table ++ "': primaryKeyColumnIndex must be >= 1"
  | .noRows => "lookup '" ++ table ++ "' is empty"
  | .missingConfig => "missing lookup config for '" ++ table ++ "'"
  | .missingTable => "missing lookup table '" ++ table ++ "'"

/-- A date mask cannot be used, or a text is no date. -/
inductive DateFault
  | unsupportedField (mask field : String)
  | unterminatedQuote (mask : String)
  | outputOnly (mask : String)
  | invalid (input mask : String)
  | undetected (input : String)
  | unknownUnit (unit : String)
  | differentMasks
  | timeOnly (unit : CalendarUnit) (mask : String)
  | emptyOutputMask
  | noClock
  deriving DecidableEq

def DateFault.message : DateFault → String
  | .unsupportedField mask field =>
    "invalid date/time mask '" ++ mask ++ "': unsupported field '" ++ field ++ "'"
  | .unterminatedQuote mask => "invalid date/time mask '" ++ mask ++ "': unterminated quote"
  | .outputOnly mask => "'" ++ mask ++ "' cannot be used as an input mask"
  | .invalid input mask => "invalid date/time '" ++ input ++ "' for mask '" ++ mask ++ "'"
  | .undetected input => "cannot detect input date/time mask for '" ++ input ++ "'"
  | .unknownUnit unit => "DateField must be year|month|day, got '" ++ unit ++ "'"
  | .differentMasks => "Duration requires both inputs in the same supported mask"
  | .timeOnly unit mask =>
    "Duration in " ++ unit.label ++ "s requires a date mask, not '" ++ mask ++ "'"
  | .emptyOutputMask => "empty date/time output mask"
  | .noClock => "the current date/time is not known"

/-- A value of the right kind that means nothing to the function. -/
inductive DomainFault
  | emptyNumberMask
  | noPlaceholders (mask : String)
  | malformedNumberMask (mask : String)
  | phoneDigits (found needed : Nat)
  | date (fault : DateFault)
  | table (name : String) (fault : TableFault)
  | custom (text : String)
  deriving DecidableEq

def DomainFault.message : DomainFault → String
  | .emptyNumberMask => "empty number mask"
  | .noPlaceholders mask => "number mask '" ++ mask ++ "' has no digit placeholders"
  | .malformedNumberMask mask => "malformed number mask '" ++ mask ++ "'"
  | .phoneDigits found needed =>
    "phone digits (" ++ toString found ++ ") != placeholders (" ++ toString needed ++ ")"
  | .date fault => fault.message
  | .table name fault => fault.message name
  | .custom text => text

/-- The two texts that a lookup table is made of. -/
inductive TableResource
  | config
  | rows
  deriving DecidableEq

def TableResource.label : TableResource → String
  | .config => "config"
  | .rows => "table"

/-- Why an expression has no value, or its value cannot be written. -/
inductive EvalError
  | type (fault : TypeFault)
  | arity (function : String) (expected : Arity) (found : Nat)
  | divideByZero
  | range (fault : RangeFault)
  | domain (fault : DomainFault)
  | unknownFunction (name : String)
  | field (error : FieldError)
  | unreadableTable (resource : TableResource) (table : String) (fault : FileFault)
  deriving DecidableEq

namespace EvalError

def kind : EvalError → ErrorKind
  | .type _ => .type
  | .arity .. => .arity
  | .divideByZero => .divideByZero
  | .range _ => .range
  | .domain _ => .domain
  | .unknownFunction _ => .unknownFunction
  | .field (.target _) => .invalidPath
  | .field (.write _) => .path
  | .unreadableTable .. => .file

/-- What is said behind the label of the kind. -/
def detail : EvalError → String
  | .type fault => ": " ++ fault.message
  | .arity function expected found =>
    ": '" ++ function ++ "' expects " ++ expected.toText ++ " argument(s), got " ++ toString found
  | .divideByZero => ": division by zero"
  | .range fault => ": " ++ fault.message
  | .domain fault => ": " ++ fault.message
  | .unknownFunction name => ": '" ++ name ++ "'"
  | .field (.target fault) => ": " ++ fault.message
  | .field (.write fault) => ": " ++ fault.message
  | .unreadableTable resource table fault =>
    ": cannot read lookup " ++ resource.label ++ " for '" ++ table ++ "': " ++ fault.message

def message (error : EvalError) : String := error.kind.label ++ error.detail

end EvalError

/-- Any failure of the program. An instruction is given by its position, counted from one, and the
path that it writes. -/
inductive Failure
  | parse (error : Script.ParseError)
  | eval (error : EvalError)
  | document (error : DocumentError)
  | configuration
  | file (path : String) (fault : FileFault)
  | instruction (node position : Nat) (path : String) (source : Failure)
  deriving DecidableEq

namespace Failure

def kind : Failure → ErrorKind
  | .parse _ | .document _ => .parse
  | .eval error => error.kind
  | .configuration => .configuration
  | .file .. => .file
  | .instruction _ _ _ source => kind source

def message : Failure → String
  | .parse error => error.message
  | .eval error => error.message
  | .document error => error.message
  | .configuration => ErrorKind.configuration.label
  | .file path fault => ErrorKind.file.label ++ ": " ++ path ++ ": " ++ fault.message
  | .instruction node position path source =>
    "node " ++ toString node ++ ", instruction " ++ toString position ++ " (path '" ++ path ++
      "'): " ++ message source

end Failure

end DerivedFields

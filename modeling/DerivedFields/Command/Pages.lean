/-!
# Pages of the documentation

The texts that explain the language and the program, line by line.
-/

namespace DerivedFields.Documentation

/-- What there is to read. -/
def overviewPage : List String := [
  "QUILL DOCUMENTATION",
  "",
  "Quill computes derived fields of a JSON or XML document. Each script is a",
  "single expression; a pipeline runs many scripts in ordered nodes and writes",
  "every result back into the document.",
  "",
  "DOCUMENTATION CATEGORIES",
  "",
  "  syntax            Literals, paths, calls and precedence",
  "  operators         Arithmetic, comparison and logical operators",
  "  types             Values, coercive and strict disciplines",
  "  paths             How paths read from and write to documents",
  "  pipeline          Nodes, snapshots, self- and cross-references",
  "",
  "FUNCTION CATEGORIES",
  "",
  "  conditional       If",
  "  string            Concat, UpperCase, SubString, Replace, ...",
  "  numeric           Add, Divide, Mod, Round, ...",
  "  formatting        MaskNumber, MaskPhoneNumber, NumberToWords",
  "  datetime          MaskDateTime, Now, AddInterval, Duration, ...",
  "  lookup            Lookup tables",
  "",
  "Run 'quill doc <category>' for detailed documentation.",
  "Run 'quill functions' for every function with its argument count."]

/-- How scripts are written. -/
def syntaxPage : List String := [
  "SYNTAX - Scripts, Literals and Calls",
  "",
  "LITERALS",
  "  42  0.125              Numbers (no exponent, no leading '.')",
  "  'text'  \"text\"         Strings; escapes \\\\ \\' \\\" \\n \\r \\t \\uXXXX",
  "  true  false            Booleans",
  "",
  "PATHS",
  "  LetterData/Owner_FirstName",
  "    A bare identifier, optionally followed by /segments, reads a field of",
  "    the document. Missing fields read as ''.",
  "",
  "  Policy/@number",
  "    A final @segment reads an attribute (XML).",
  "",
  "CALLS",
  "  Concat(First, ' ', Last)",
  "    An identifier directly followed by '(' is a function call. Names are",
  "    case-insensitive: if, If and IF are the same function.",
  "",
  "PRECEDENCE (lowest to highest)",
  "  ||",
  "  &&",
  "  == != < <= > >=",
  "  + -",
  "  * / %",
  "  unary -",
  "  literals, paths, calls, ( ... )",
  "",
  "ENTITIES",
  "  &lt; &gt; &amp; &quot; &apos; in script text are decoded before parsing,",
  "  so scripts stored in XML can write  A &lt; B."]

/-- What the operators do. -/
def operatorsPage : List String := [
  "OPERATORS - Arithmetic, Comparison and Logical",
  "",
  "ARITHMETIC",
  "  +     Addition; string concatenation when either side is not numeric",
  "  -     Subtraction",
  "  *     Multiplication",
  "  /     Division, rounded half-up to 10 fractional digits",
  "  %     Floored modulus; both operands must be integers",
  "",
  "  Examples:",
  "    Amount * 2",
  "    Add(2, 3) * 4            20",
  "    -7 % 3                   2",
  "",
  "  Constraints:",
  "    - x / 0 and x % 0 fail with DIVIDE_BY_ZERO",
  "    - Results outside the decimal range fail with RANGE_ERROR",
  "",
  "COMPARISON",
  "  == != < <= > >=",
  "    Numeric when both sides are numbers, otherwise by text.",
  "    Comparisons do not chain: a < b < c compares (a < b) with c.",
  "",
  "LOGICAL",
  "  &&  ||",
  "    Both sides are always evaluated. Use If to skip a branch."]

/-- The kinds of values and the two disciplines. -/
def typesPage : List String := [
  "TYPES - Values and Disciplines",
  "",
  "VALUES",
  "  Boolean    true / false",
  "  Numeric    exact decimal; integers are numbers with no fraction",
  "  String     text; every path reads as a string",
  "",
  "COERCIVE DISCIPLINE (default)",
  "  - A string whose text is a number acts as that number; '' acts as 0",
  "  - Truthiness: 'true'/'false' (any case), non-zero numbers, non-empty text",
  "  - Booleans never become numbers",
  "  - == compares numbers numerically, booleans by truthiness, else text",
  "",
  "STRICT DISCIPLINE (--strict)",
  "  - Arithmetic and ordering need two numbers; + also joins two strings",
  "  - && || and the If condition need booleans",
  "  - == needs both sides of the same type",
  "  - Any mismatch fails with TYPE_ERROR",
  "",
  "Functions convert their own arguments the same way in both disciplines."]

/-- How paths read and write documents. -/
def pathsPage : List String := [
  "PATHS - Reading and Writing Documents",
  "",
  "READING",
  "  Segments are matched case-sensitively, first match wins.",
  "  A first segment equal to the XML root name is skipped.",
  "  Element text is the concatenation of its text and CDATA children.",
  "  A numeric segment indexes a JSON array.",
  "  An absent @attribute falls back to a same-named child element",
  "  (lenient_attributes, on by default).",
  "",
  "WRITING",
  "  Missing containers are created on the way down.",
  "  Values are always written as strings.",
  "  Writing into a JSON scalar or a JSON attribute fails with PATH_ERROR.",
  "  An empty target path fails with INVALID_PATH."]

/-- How pipelines run. -/
def pipelinePage : List String := [
  "PIPELINE - Nodes and Snapshots",
  "",
  "DEFINITION",
  "  \x7b\"nodes\": [",
  "    \x7b\"name\": \"names\", \"instructions\": [",
  "      \x7b\"path\": \"Letter/FullName\", \"script\": \"Concat(First, ' ', Last)\"\x7d",
  "    ]\x7d",
  "  ]\x7d",
  "",
  "EXECUTION",
  "  Nodes run in order. Each node starts from a copy of the output snapshot",
  "  and writes every result into that copy. When the node ends, the copy",
  "  becomes the new output snapshot.",
  "",
  "SELF- AND CROSS-REFERENCES",
  "  A path equal to the instruction's own target reads the node's copy, so",
  "  it sees earlier writes to that path in the same node.",
  "  Any other path reads the output snapshot of the previous node.",
  "",
  "RECOVERY",
  "  A function that fails while one of its arguments is blank returns ''",
  "  and the run records a warning. Unknown functions and parse errors are",
  "  always fatal.",
  "",
  "SNAPSHOTS",
  "  --intermediate DIR writes node_<n>.json (or .xml) after every",
  "  instruction; the directory's old snapshots are removed first."]

/-- How the functions with more than the plainest arguments are called. -/
def usages : List (String × String) := [
  ("If", "If(cond, then, else), only the chosen branch runs"),
  ("Concat", "Concat(a, b, ...)"),
  ("Replace", "Replace(s, find, with) | Replace(s, start, length, with)"),
  ("Trim", "Trim(s[, chars])"),
  ("Insert", "Insert(s, position, text)"),
  ("IndexOf", "IndexOf(s, find[, start]), -1 when absent"),
  ("LastIndexOf", "LastIndexOf(s, find[, start]), -1 when absent"),
  ("SubString", "SubString(s, start[, length])"),
  ("SubStringBefore", "SubStringBefore(s, separator)"),
  ("SubStringAfter", "SubStringAfter(s, separator)"),
  ("Round", "Round(x[, scale])"),
  ("MaskNumber", "MaskNumber(x, inputMask, outputMask[, language, country])"),
  ("MaskPhoneNumber", "MaskPhoneNumber(digits, '(###) ###-####')"),
  ("NumberToWords", "NumberToWords(n[, language, country])"),
  ("MaskDateTime", "MaskDateTime(s, inputMask, outputMask[, language, country])"),
  ("Now", "Now(outputMask)"),
  ("ToDateTime", "ToDateTime(s, outputMask)"),
  ("AddInterval", "AddInterval(s, amount, 'days'|'months'|'years')"),
  ("SubtractInterval", "SubtractInterval(s, amount, 'days'|'months'|'years')"),
  ("Duration", "Duration(from, to, 'days'|'months'|'years')"),
  ("Lookup", "Lookup(key, table, column[, default])")]

end DerivedFields.Documentation

import DerivedFields.Document.Format
import DerivedFields.Document.JsonFields
import DerivedFields.Document.XmlFields
import DerivedFields.Json.Reader
import DerivedFields.Xml.Reader
import DerivedFields.Xml.Writer

/-!
# Documents

A document is a JSON object or an XML document element. Scripts read the text at a path and results
are written as text at a path; the two formats differ only in how a path is followed.
-/

namespace DerivedFields

inductive Document
  | json (members : List (String × Json))
  | xml (root : XmlElement)

/-- Why a text is no document. -/
inductive DocumentError
  | invalidJson
  | rootNotObject
  | xml (fault : Xml.Fault)
  | unknownFormat (name : String)
  deriving DecidableEq

/-- What is said of an XML fault, if anything beyond the fact that there is one. -/
def Xml.Fault.detail : Xml.Fault → String
  | .malformed => ""
  | .multipleRoots => ": multiple root elements"
  | .textOutside => ": text outside the document element"
  | .cdataOutside => ": CDATA outside the document element"
  | .unclosed => ": unclosed element at end of input"
  | .noElement => ": no document element"

def DocumentError.message : DocumentError → String
  | .invalidJson => "DOCUMENT_ERROR: invalid JSON"
  | .rootNotObject => "DOCUMENT_ERROR: JSON document root must be an object"
  | .xml fault => "DOCUMENT_ERROR: invalid XML" ++ fault.detail
  | .unknownFormat name =>
    "DOCUMENT_ERROR: unknown document format '" ++ Text.foldAscii name ++
      "' (expected json or xml)"

/-- The format with a name. -/
def Format.ofName (name : String) : Except DocumentError Format :=
  match ofName? name with
  | some format => .ok format
  | none => .error (.unknownFormat name)

/-- Why a document was not written to. -/
inductive FieldError
  | target (fault : TargetFault)
  | write (fault : WriteFault)
  deriving DecidableEq

namespace Document

/-- The empty JSON object. -/
def empty : Document := .json []

def format : Document → Format
  | .json _ => .json
  | .xml _ => .xml

/-- Reads a JSON document; its root is an object. -/
def parseJson (text : String) : Except DocumentError Document :=
  match Json.read? text with
  | none => .error .invalidJson
  | some (.object members) => .ok (.json members)
  | some _ => .error .rootNotObject

def parseXml (text : String) : Except DocumentError Document :=
  match Xml.read text with
  | .ok root => .ok (.xml root)
  | .error fault => .error (.xml fault)

def parse (text : String) : Format → Except DocumentError Document
  | .json => parseJson text
  | .xml => parseXml text

/-- Indented JSON, or indented XML with its declaration. -/
def render : Document → String
  | .json members => (Json.object members).toPrettyText
  | .xml root => Xml.render root

/-- The text at a path; nothing if there is none. A lenient reader takes a member or child element
for an attribute that is missing. -/
def resolve (document : Document) (path : Path) (lenient : Bool) : String :=
  match document with
  | .json members => (Json.object members).textAt lenient path.segments
  | .xml root => root.textAt lenient path.segments

/-- Writes text at a parsed path. -/
def write (document : Document) (path : Path) (text : String) : Document × Option WriteFault :=
  match document with
  | .json members =>
    let (written, fault) := Json.writeAt text path.segments members
    (.json written, fault)
  | .xml root => (.xml (root.writeAt text path.segments), none)

/-- Writes text at a path, and tells whether that failed. -/
def set (document : Document) (path text : String) : Document × Except FieldError Unit :=
  match Path.parseTarget path with
  | .error fault => (document, .error (.target fault))
  | .ok target =>
    match document.write target text with
    | (written, none) => (written, .ok ())
    | (written, some fault) => (written, .error (.write fault))

/-- Equality of documents, the order of members and children included. -/
def same : Document → Document → Bool
  | .json left, .json right => Json.sameMembers left right
  | .xml left, .xml right => left.same right
  | _, _ => false

end Document

end DerivedFields

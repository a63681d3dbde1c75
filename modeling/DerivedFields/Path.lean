import DerivedFields.Text.Search

/-!
# Paths

A path names a place in a document: the names of the elements on the way, and possibly an
attribute. Empty segments do not count, so a path has one printed form.
-/

namespace DerivedFields

inductive PathSegment
  | element (name : String)
  | attribute (name : String)
  deriving DecidableEq

namespace PathSegment

def name : PathSegment → String
  | .element name | .attribute name => name

def toText : PathSegment → String
  | .element name => name
  | .attribute name => "@" ++ name

def isAttribute : PathSegment → Bool
  | .element _ => false
  | .attribute _ => true

/-- A segment that begins with the attribute marker is an attribute. -/
def ofText (part : List Char) : PathSegment :=
  match part with
  | '@' :: name => .attribute (String.ofList name)
  | _ => .element (String.ofList part)

end PathSegment

structure Path where
  segments : List PathSegment
  deriving DecidableEq

/-- Why a path cannot be written to. -/
inductive TargetFault
  | noSegments (text : String)
  | emptyAttribute (text : String)
  | attributeNotLast (segment : PathSegment) (text : String)
  deriving DecidableEq

def TargetFault.message : TargetFault → String
  | .noSegments text => "target path '" ++ text ++ "' has no segments"
  | .emptyAttribute text => "empty attribute name in '" ++ text ++ "'"
  | .attributeNotLast segment text =>
    "attribute segment '" ++ segment.toText ++ "' must be last in '" ++ text ++ "'"

namespace Path

/-- Every text is a path. -/
def parse (text : String) : Path :=
  ⟨((Text.splitAtChar '/' text.toList).filter (!·.isEmpty)).map PathSegment.ofText⟩

def toText (path : Path) : String :=
  String.ofList (Text.joinWith ['/'] (path.segments.map (·.toText.toList)))

/-- A path that can be written to: it has a segment, and an attribute with a name is only its
last. -/
def parseTarget (text : String) : Except TargetFault Path :=
  let path := parse text
  match path.segments.getLast? with
  | none => .error (.noSegments text)
  | some last =>
    if last = .attribute "" then .error (.emptyAttribute text)
    else match path.segments.dropLast.find? PathSegment.isAttribute with
      | some segment => .error (.attributeNotLast segment text)
      | none => .ok path

end Path

end DerivedFields

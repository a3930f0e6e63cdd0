import ServiceAtlas.Record.Schema
import ServiceAtlas.Text.Quoted
import ServiceAtlas.Yaml.Error

/-!
# Extraction errors

Errors of a template are found while it is compiled, the others while one document is walked.
-/
namespace ServiceAtlas

/-- The shape of a document value. -/
inductive DocumentKind where
  | map
  | array
  | scalar
  | null
deriving DecidableEq, Repr

def DocumentKind.name : DocumentKind → String
  | map => "map"
  | array => "array"
  | scalar => "scalar"
  | null => "null"

/-- The shape of a template node. -/
inductive NodeKind where
  | map
  | array
  | setter
deriving DecidableEq, Repr

def NodeKind.name : NodeKind → String
  | map => "map"
  | array => "array"
  | setter => "setter"

/-- What is wrong with one segment of a leaf. -/
inductive SegmentFault where
  | weight (fault : Text.IntegerFault)
  | shape
  | condition (text : String)
  | noPath
deriving DecidableEq, Repr

def SegmentFault.message : SegmentFault → String
  | weight fault => "could not parse weight: " ++ fault.message
  | shape => "should be 'if <true|false> <path> = <value>'"
  | condition text => "condition '" ++ text ++ "' is not a boolean"
  | noPath => "parse pattern names no object path"

/-- What is wrong with the text or the shape of a document. -/
inductive DocumentFault where
  | malformed (error : Yaml.Error)
  | keyNotScalar
  | rootKind (kind : DocumentKind)
deriving DecidableEq, Repr

def DocumentFault.message : DocumentFault → String
  | malformed error => error.message
  | keyNotScalar => "mapping keys must be scalars"
  | rootKind kind => "root is " ++ kind.name

def DocumentFault.fullMessage (fault : DocumentFault) : String :=
  "document is not a mapping: " ++ fault.message

/-- What is wrong with the text or the shape of a template. -/
inductive TemplateFault where
  | notUtf8 (fault : Text.Utf8Fault)
  | malformed (error : Yaml.Error)
  | empty
  | emptyLeaf
  | keyNotScalar
  | rootKind (kind : NodeKind)
deriving DecidableEq, Repr

def TemplateFault.message : TemplateFault → String
  | notUtf8 fault => "template is not UTF-8: " ++ fault.message
  | malformed error => error.message
  | empty => "template is empty"
  | emptyLeaf => "template leaf is empty"
  | keyNotScalar => DocumentFault.keyNotScalar.fullMessage
  | rootKind kind => "template root must be a map, found " ++ kind.name

inductive ExtractError where
  | invalidPath (path : String)
  | invalidSegment (segment : String) (fault : SegmentFault)
  | leaf (text : String) (cause : ExtractError)
  | template (fault : TemplateFault)
  | conversion (path value : String) (expected : FieldType)
  | condition (value : String)
  | tooManyValues (values : List String)
  | unsupportedShape (key : String) (found : DocumentKind) (expected : NodeKind)
  | document (fault : DocumentFault)
deriving DecidableEq, Repr

namespace ExtractError

def message : ExtractError → String
  | invalidPath path => "invalid object path '" ++ path ++ "'"
  | invalidSegment segment fault => "invalid segment '" ++ segment ++ "': " ++ fault.message
  | leaf text cause => "template leaf '" ++ text ++ "' failed to compile: " ++ cause.message
  | template fault => "template is not valid YAML: " ++ fault.message
  | conversion path value expected =>
    "cannot convert '" ++ value ++ "' to " ++ expected.name ++ " for '" ++ path ++ "'"
  | condition value => "condition value '" ++ value ++ "' is not a boolean"
  | tooManyValues values => "too many values parsed " ++ Text.quotedList values
  | unsupportedShape key found expected =>
    "unsupported shape at '" ++ key ++ "': " ++ found.name ++ " value against "
      ++ expected.name ++ " template node"
  | document fault => fault.fullMessage

/-- The message followed by that of each cause in turn. -/
def fullMessage : ExtractError → String
  | leaf text cause => (leaf text cause).message ++ ": " ++ cause.fullMessage
  | error => error.message

/-- Whether the error lies in the template rather than in a document. -/
def isCompileTime : ExtractError → Bool
  | invalidPath _ | invalidSegment .. | leaf .. | template _ => true
  | _ => false

end ExtractError
end ServiceAtlas

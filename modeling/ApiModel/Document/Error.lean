import ApiModel.Document.Display
import ApiModel.Validation.Fault
import ApiModel.Yaml.Fault

/-! Why a document cannot be read. -/
namespace ApiModel

inductive DocumentError where
  | noInput
  | httpStatus (code : Int) (url : Text)
  | fetchFailed (url detail : Text)
  | notFound (path : Text)
  | unreadable (path detail : Text)
  | emptyFile (path : Text)
  | invalidJson (detail : Text)
  | unparsable
  | notObject (found : Text)
  | unsupportedSwagger (version : Text)
  | missingVersion
  | unsupportedVersion (version : Text)
  | externalPointer (pointer : Text)
  | missingSegment (pointer segment : Text)
  | badIndex (pointer segment : Text)
  | notContainer (pointer kind : Text)
  | schemaNotObject (location kind : Text)
  | notSchemaName (pointer location : Text)
  | unknownType (type : Text)
  | unknownPlace (place parameter location : Text)
  | formParameter (parameter location : Text)
  deriving DecidableEq, Repr

def DocumentError.message : DocumentError → Text
  | noInput => "No input received from stdin"
  | httpStatus code url => "HTTP " ++ .ofInt code ++ " fetching document from " ++ url
  | fetchFailed url detail => "Failed to fetch document from " ++ url ++ ": " ++ detail
  | notFound path => "Document not found: " ++ path
  | unreadable path detail => "Failed to read " ++ path ++ ": " ++ detail
  | emptyFile path => "Document is empty: " ++ path
  | invalidJson detail => "Invalid JSON: " ++ detail
  | unparsable => "Failed to parse document as JSON or YAML: <yaml>"
  | notObject found => "Document must be a JSON/YAML object (got " ++ found ++ ")"
  | unsupportedSwagger version =>
    "Unsupported Swagger version: " ++ version ++ ". Only Swagger 2.0 is supported."
  | missingVersion =>
    "Missing 'openapi' or 'swagger' field. Is this an API description document?"
  | unsupportedVersion version => "Unsupported OpenAPI version: " ++ version ++ ". "
    ++ "Only OpenAPI 3.0.x/3.1.x and Swagger 2.0 are supported."
  | externalPointer pointer => "External $ref not supported: " ++ pointer ++ ". "
    ++ "Only internal references (#/...) are handled."
  | missingSegment pointer segment =>
    "Cannot resolve $ref '" ++ pointer ++ "': '" ++ segment ++ "' not found"
  | badIndex pointer segment =>
    "Cannot resolve $ref '" ++ pointer ++ "': invalid array index '" ++ segment ++ "'"
  | notContainer pointer kind =>
    "Cannot resolve $ref '" ++ pointer ++ "': cannot navigate into " ++ kind
  | schemaNotObject location kind =>
    "Schema at '" ++ location ++ "' must be an object, got " ++ kind
  | notSchemaName pointer location =>
    "Reference '" ++ pointer ++ "' at '" ++ location ++ "' does not name a schema"
  | unknownType type => "Unknown schema type '" ++ type ++ "'"
  | unknownPlace place parameter location =>
    "Unsupported parameter location '" ++ place ++ "' for '" ++ parameter ++ "' at " ++ location
  | formParameter parameter location =>
    "formData parameter '" ++ parameter ++ "' at " ++ location ++ " is not supported"

inductive ShapeError where
  /-- Fields were asked of something that is no mapping. -/
  | notMapping
  /-- Items were asked of something that has none. -/
  | notIterable
  /-- A list or mapping stands where only a key can. -/
  | notKey
  /-- A part was asked by name of something whose parts have no names. -/
  | notNamed
  deriving DecidableEq, Repr

inductive ReadError where
  | document (e : DocumentError)
  | rejected (r : Validation.Rejection)
  | shape (e : ShapeError)
  /-- A scalar of YAML text that has no value. -/
  | scalar (fault : Yaml.Fault)
  /-- An integer with too many digits to be read or written. -/
  | longInteger
  /-- A collection that contains itself. -/
  | endless
  deriving DecidableEq, Repr

end ApiModel

import ApiModel.Model.Override
import ApiModel.Model.Service
import ApiModel.Validation.Bound
import ApiModel.Validation.Record

/-! Models and overrides from data. -/
namespace ApiModel

open Validation

def LengthRange.read : Value → Checked LengthRange :=
  record fun es => LengthRange.mk <$> fieldOr "minimum" none (nullable integer) es
    <*> fieldOr "maximum" none (nullable integer) es

def NumericRange.read : Value → Checked NumericRange :=
  record fun es => NumericRange.mk <$> fieldOr "minimum" none (nullable (bound .data)) es
    <*> fieldOr "maximum" none (nullable (bound .data)) es
    <*> fieldOr "exclusiveMinimum" false truth es
    <*> fieldOr "exclusiveMaximum" false truth es

def EnumerationValue.read : Value → Checked EnumerationValue :=
  record fun es => EnumerationValue.mk <$> field "name" text es <*> field "value" text es

namespace Field

/-- A tag has to be the one of the kind; it may be left out. -/
def readTag (kind : Kind) : Entries → Checked Unit :=
  fieldOr "kind" () fun v => if v.isText kind.tag then .accepted () else .flawed .otherLiteral

def readLength : Entries → Checked LengthRange :=
  fieldOr "lengthConstraint" .unbounded LengthRange.read

def readNumericRange : Entries → Checked NumericRange :=
  fieldOr "rangeConstraint" .unbounded NumericRange.read

def readParts (kind : Kind) (es : Entries) : Checked Field :=
  match kind with
  | .string => Field.string <$> fieldOr "regexConstraint" none (nullable text) es
      <*> readLength es
      <*> fieldOr "valueConstraints" [] (Validation.list EnumerationValue.read) es
  | .integer => Field.integer <$> readNumericRange es
  | .long => Field.long <$> readNumericRange es
  | .double => Field.double <$> readNumericRange es
  | .boolean => .accepted .boolean
  | .timestamp => .accepted .timestamp
  | .binary => .accepted .binary
  | .list => Field.list <$> Validation.field "elementType" text es <*> readLength es
  | .map => Field.map <$> Validation.field "keyType" text es
      <*> Validation.field "valueType" text es <*> readLength es

def readAs (kind : Kind) : Value → Checked Field :=
  record fun es => (fun _ f => f) <$> readTag kind es <*> readParts kind es

def read : Value → Checked Field
  | .map es =>
    match Value.lookupText "kind" es with
    | none => .flawed .noTag
    | some tag =>
      match Kind.all.find? fun kind => tag.isText kind.tag with
      | some kind => (readParts kind es).under (.name kind.tag)
      | none => .flawed .unknownTag
  | _ => .flawed .notTagged

end Field

def Member.read : Value → Checked Member :=
  record fun es => Member.mk <$> field "valueType" text es <*> field "position" integer es
    <*> fieldOr "required" false truth es
    <*> fieldOr "locationName" none (nullable text) es
    <*> fieldOr "documentation" none (nullable text) es

def Structure.read : Value → Checked Structure :=
  record fun es => Structure.mk <$> fieldOr "members" .empty (textMap Member.read) es
    <*> fieldOr "documentation" none (nullable text) es

def InputLocation.read (v : Value) : Checked InputLocation :=
  if v.isText "Query" then .accepted .query
  else if v.isText "Body" then .accepted .body
  else .flawed .otherChoice

def InputDescription.read : Value → Checked InputDescription :=
  record fun es => InputDescription.mk <$> fieldOr "pathFields" [] (list text) es
    <*> fieldOr "queryFields" [] (list text) es
    <*> fieldOr "bodyFields" [] (list text) es
    <*> fieldOr "pathTemplateField" none (nullable text) es
    <*> fieldOr "additionalHeaderFields" [] (list text) es
    <*> fieldOr "defaultInputLocation" .body InputLocation.read es
    <*> fieldOr "bodyStructureName" none (nullable text) es
    <*> fieldOr "payloadAsMember" none (nullable text) es

def OutputDescription.read : Value → Checked OutputDescription :=
  record fun es => OutputDescription.mk <$> fieldOr "bodyFields" [] (list text) es
    <*> fieldOr "headerFields" [] (list text) es
    <*> fieldOr "bodyStructureName" none (nullable text) es
    <*> fieldOr "payloadAsMember" none (nullable text) es

def OperationError.read : Value → Checked OperationError :=
  record fun es => OperationError.mk <$> field "typeName" text es <*> field "code" integer es

def OperationDescription.read : Value → Checked OperationDescription :=
  record fun es => OperationDescription.mk <$> fieldOr "input" none (nullable text) es
    <*> fieldOr "output" none (nullable text) es
    <*> fieldOr "httpVerb" none (nullable text) es
    <*> fieldOr "httpUrl" none (nullable text) es
    <*> fieldOr "errors" [] (list OperationError.read) es
    <*> fieldOr "documentation" none (nullable text) es
    <*> fieldOr "inputDescription" .plain InputDescription.read es
    <*> fieldOr "outputDescription" .plain OutputDescription.read es

def ServiceInformation.read : Value → Checked ServiceInformation :=
  record fun es => ServiceInformation.mk <$> field "title" text es <*> field "version" text es
    <*> fieldOr "description" none (nullable text) es

def ServiceModel.read : Value → Checked ServiceModel :=
  record fun es =>
    (fun information fields structures => ServiceModel.mk information ⟨fields, structures⟩)
    <$> fieldOr "serviceInformation" none (nullable ServiceInformation.read) es
    <*> fieldOr "fieldDescriptions" .empty (textMap Field.read) es
    <*> fieldOr "structureDescriptions" .empty (textMap Structure.read) es
    <*> fieldOr "operationDescriptions" .empty (textMap OperationDescription.read) es
    <*> fieldOr "errorTypes" .empty textSet es
    <*> fieldOr "typeMappings" .empty (textMap text) es

def EnumerationNaming.read : Value → Checked EnumerationNaming :=
  record fun es => EnumerationNaming.mk <$> fieldOr "usingUpperCamelCase" .empty textSet es

def RawTypeOverride.read : Value → Checked RawTypeOverride :=
  record fun es => RawTypeOverride.mk <$> field "typeName" text es
    <*> field "defaultValue" text es

def ModelOverride.read : Value → Checked ModelOverride :=
  record fun es => ModelOverride.mk <$> fieldOr "matchCase" .empty textSet es
    <*> fieldOr "enumerations" none (nullable EnumerationNaming.read) es
    <*> fieldOr "fieldRawTypeOverride" .empty (textMap RawTypeOverride.read) es
    <*> fieldOr "namedFieldValuesOverride" .empty (textMap text) es
    <*> fieldOr "operationInputOverrides" .empty (textMap InputDescription.read) es
    <*> fieldOr "operationOutputOverrides" .empty (textMap OutputDescription.read) es
    <*> fieldOr "modelStringPatternsAreAlternativeList" false truth es
    <*> fieldOr "codingKeyOverrides" .empty (textMap text) es
    <*> fieldOr "requiredOverrides" .empty (textMap truth) es
    <*> fieldOr "additionalErrors" .empty textSet es
    <*> fieldOr "ignoreOperations" .empty textSet es
    <*> fieldOr "ignoreResponseHeaders" .empty textSet es
    <*> fieldOr "ignoreRequestHeaders" .empty textSet es
    <*> fieldOr "defaultEnumerationValueOverride" .empty (textMap text) es

end ApiModel

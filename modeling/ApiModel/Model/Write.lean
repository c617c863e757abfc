import ApiModel.Document.Error
import ApiModel.Document.Value
import ApiModel.Json.Writer
import ApiModel.Model.Override
import ApiModel.Model.Service
import ApiModel.Text.Encoding

/-! The written form of a model: a document value with its fields in declared order. -/
namespace ApiModel

def Value.ofInt? : Option Int → Value
  | some n => .int n
  | none => .null

def Bound.toValue : Bound → Value
  | int n => .int n
  | float x => .float x

def Bound.toValue? : Option Bound → Value
  | some b => b.toValue
  | none => .null

/-- A map with every value in written form. Its names are written as far as they have characters; of
names that are written alike the first gives the place and the last the value. -/
def OrderedMap.toValue {α : Type} (write : α → Value) (m : OrderedMap α) : Value :=
  Value.ofEntries (OrderedMap.ofList (m.entries.map fun e => (Text.lossy e.1, write e.2))).entries

def LengthRange.toValue (r : LengthRange) : Value :=
  Value.ofEntries [("minimum", Value.ofInt? r.minimum), ("maximum", Value.ofInt? r.maximum)]

def NumericRange.toValue (r : NumericRange) : Value :=
  Value.ofEntries
    [("minimum", Bound.toValue? r.minimum), ("maximum", Bound.toValue? r.maximum),
      ("exclusiveMinimum", .bool r.exclusiveMinimum),
      ("exclusiveMaximum", .bool r.exclusiveMaximum)]

def EnumerationValue.toValue (v : EnumerationValue) : Value :=
  Value.ofEntries [("name", .str v.name), ("value", .str v.value)]

namespace Field

def parts : Field → List (Text × Value)
  | string pattern length values =>
    [("regexConstraint", Value.ofText? pattern), ("lengthConstraint", length.toValue),
      ("valueConstraints", .list (values.map EnumerationValue.toValue))]
  | integer range => [("rangeConstraint", range.toValue)]
  | long range => [("rangeConstraint", range.toValue)]
  | double range => [("rangeConstraint", range.toValue)]
  | boolean => []
  | timestamp => []
  | binary => []
  | list element length =>
    [("elementType", .str element), ("lengthConstraint", length.toValue)]
  | map key value length =>
    [("keyType", .str key), ("valueType", .str value), ("lengthConstraint", length.toValue)]

def toValue (f : Field) : Value :=
  Value.ofEntries (("kind", .str f.kind.tag) :: f.parts)

end Field

def Member.toValue (m : Member) : Value :=
  Value.ofEntries
    [("valueType", .str m.valueType), ("position", .int m.position),
      ("required", .bool m.required), ("locationName", Value.ofText? m.locationName),
      ("documentation", Value.ofText? m.documentation)]

def Structure.toValue (s : Structure) : Value :=
  Value.ofEntries
    [("members", s.members.toValue Member.toValue),
      ("documentation", Value.ofText? s.documentation)]

def InputDescription.toValue (d : InputDescription) : Value :=
  Value.ofEntries
    [("pathFields", Value.ofTexts d.pathFields), ("queryFields", Value.ofTexts d.queryFields),
      ("bodyFields", Value.ofTexts d.bodyFields),
      ("pathTemplateField", Value.ofText? d.pathTemplateField),
      ("additionalHeaderFields", Value.ofTexts d.additionalHeaderFields),
      ("defaultInputLocation", .str d.defaultInputLocation.word),
      ("bodyStructureName", Value.ofText? d.bodyStructureName),
      ("payloadAsMember", Value.ofText? d.payloadAsMember)]

def OutputDescription.toValue (d : OutputDescription) : Value :=
  Value.ofEntries
    [("bodyFields", Value.ofTexts d.bodyFields), ("headerFields", Value.ofTexts d.headerFields),
      ("bodyStructureName", Value.ofText? d.bodyStructureName),
      ("payloadAsMember", Value.ofText? d.payloadAsMember)]

def OperationError.toValue (e : OperationError) : Value :=
  Value.ofEntries [("typeName", .str e.typeName), ("code", .int e.code)]

def OperationDescription.toValue (d : OperationDescription) : Value :=
  Value.ofEntries
    [("input", Value.ofText? d.input), ("output", Value.ofText? d.output),
      ("httpVerb", Value.ofText? d.httpVerb), ("httpUrl", Value.ofText? d.httpUrl),
      ("errors", .list (d.errors.map OperationError.toValue)),
      ("documentation", Value.ofText? d.documentation),
      ("inputDescription", d.inputDescription.toValue),
      ("outputDescription", d.outputDescription.toValue)]

def ServiceInformation.toValue (i : ServiceInformation) : Value :=
  Value.ofEntries
    [("title", .str i.title), ("version", .str i.version),
      ("description", Value.ofText? i.description)]

def ServiceInformation.toValue? : Option ServiceInformation → Value
  | some i => i.toValue
  | none => .null

def RawTypeOverride.toValue (r : RawTypeOverride) : Value :=
  Value.ofEntries [("typeName", .str r.typeName), ("defaultValue", .str r.defaultValue)]

namespace ServiceModel

def toValue (m : ServiceModel) : Value :=
  Value.ofEntries
    [("serviceInformation", ServiceInformation.toValue? m.information),
      ("fieldDescriptions", m.registry.fields.toValue Field.toValue),
      ("structureDescriptions", m.registry.structures.toValue Structure.toValue),
      ("operationDescriptions", m.operations.toValue OperationDescription.toValue),
      ("errorTypes", Value.ofTexts m.errorTypes.members),
      ("typeMappings", m.typeMappings.toValue .str)]

/-- The model as JSON text; equal models give equal texts. -/
def toJson (m : ServiceModel) (layout : Json.Layout) : Text :=
  Json.write layout m.toValue

/-- The same text, unless an integer has more digits than are written. -/
def dump (m : ServiceModel) (layout : Json.Layout) : Except ReadError Text :=
  if m.toValue.hasLong then .error .longInteger else .ok (m.toJson layout)

end ServiceModel

end ApiModel

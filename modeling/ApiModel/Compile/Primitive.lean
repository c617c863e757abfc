import ApiModel.Compile.Error
import ApiModel.Model.Field
import ApiModel.Model.Override
import ApiModel.Schema.Basic
import ApiModel.Text.Segment

/-! Fields of schemas whose values have no parts. -/
namespace ApiModel.Compile

def enumerationValue (text : Text) : EnumerationValue := ⟨text, text⟩

def anchoredBody? : Text → Option Text
  | .char '^' :: rest =>
    match rest.reverse with
    | .char '$' :: body => some body.reverse
    | _ => none
  | _ => none

def dropParentheses (cs : Text) : Text :=
  match cs with
  | .char '(' :: rest =>
    match rest.reverse with
    | .char ')' :: body => body.reverse
    | _ => cs
  | _ => cs

/-- The alternatives of an anchored pattern; empty ones are left out. -/
def patternAlternatives (pattern : Text) : Option (List EnumerationValue) :=
  (anchoredBody? pattern).map fun body =>
    ((Text.split '|' (dropParentheses body)).filter (!·.isEmpty)).map enumerationValue

def enumerationValues (values : List Value) : List EnumerationValue :=
  values.filterMap fun
    | .str s => some (enumerationValue s)
    | _ => none

def readAlternatives (override : ModelOverride) (pattern : Option Text) :
    Option (List EnumerationValue) :=
  match pattern with
  | some p =>
    if override.modelStringPatternsAreAlternativeList && !p.isEmpty then patternAlternatives p
    else none
  | none => none

/-- A least length of zero asks for nothing. -/
def textLength (length : LengthRange) : LengthRange :=
  { length with minimum := length.minimum.filter (· ≠ 0) }

/-- The field of a string schema. Without given values the format may ask for a time or for
bytes. -/
def stringField (override : ModelOverride) (format : Option Text) (facets : TextFacets) :
    Field :=
  let (pattern, values) := match readAlternatives override facets.pattern with
    | some values => (none, values)
    | none => (facets.pattern, enumerationValues (facets.values.getD []))
  if values.isEmpty && format == some "date-time" then .timestamp
  else if values.isEmpty && (format == some "binary" || format == some "byte") then .binary
  else .string pattern (textLength facets.length) values

def primitiveField? (override : ModelOverride) : Schema → Option Field
  | .boolean _ => some .boolean
  | .integer notes range =>
    some (if notes.format == some "int64" then .long range else .integer range)
  | .number _ range => some (.double range)
  | .string notes facets => some (stringField override notes.format facets)
  | _ => none

def primitiveField (override : ModelOverride) (location : Text) (schema : Schema) :
    Except BuildError Field :=
  match primitiveField? override schema with
  | some field => .ok field
  | none => .error (.unsupported (.notPrimitive schema.kindWord) location)

end ApiModel.Compile

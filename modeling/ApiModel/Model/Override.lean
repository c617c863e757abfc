import ApiModel.Container.OrderedMap
import ApiModel.Container.TextSet
import ApiModel.Model.Operation

/-! What a user wants changed about a model. Some of it steers the compilation, the rest is passed
on to those who emit code. -/
namespace ApiModel

structure EnumerationNaming where
  usingUpperCamelCase : TextSet
  deriving DecidableEq

structure RawTypeOverride where
  typeName : Text
  defaultValue : Text
  deriving DecidableEq, Repr

structure ModelOverride where
  matchCase : TextSet
  enumerations : Option EnumerationNaming
  fieldRawTypeOverride : OrderedMap RawTypeOverride
  namedFieldValuesOverride : OrderedMap Text
  operationInputOverrides : OrderedMap InputDescription
  operationOutputOverrides : OrderedMap OutputDescription
  modelStringPatternsAreAlternativeList : Bool
  codingKeyOverrides : OrderedMap Text
  requiredOverrides : OrderedMap Bool
  additionalErrors : TextSet
  ignoreOperations : TextSet
  ignoreResponseHeaders : TextSet
  ignoreRequestHeaders : TextSet
  defaultEnumerationValueOverride : OrderedMap Text

namespace ModelOverride

def empty : ModelOverride :=
  ⟨.empty, none, .empty, .empty, .empty, .empty, false, .empty, .empty, .empty, .empty, .empty,
    .empty, .empty⟩

instance : Inhabited ModelOverride := ⟨empty⟩

/-- What is said about an attribute: for all types, else for the given one. -/
def aboutAttribute? {α : Type} (overrides : OrderedMap α) (name : Text)
    (inType : Option Text) : Option α :=
  (overrides.get? ("*." ++ name)).or
    (inType.bind fun type => overrides.get? (type ++ "." ++ name))

def codingKey? (o : ModelOverride) (name : Text) (inType : Option Text) :
    Option Text :=
  aboutAttribute? o.codingKeyOverrides name inType

def isRequired? (o : ModelOverride) (name : Text) (inType : Option Text) :
    Option Bool :=
  aboutAttribute? o.requiredOverrides name inType

end ModelOverride

end ApiModel

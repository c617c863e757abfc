import ApiModel.Container.TextSet
import ApiModel.Model.Operation
import ApiModel.Model.Registry

/-! The model of a service: its types, its operations, and the names under which types are
emitted. -/
namespace ApiModel

structure ServiceInformation where
  title : Text
  version : Text
  description : Option Text
  deriving DecidableEq, Repr

structure ServiceModel where
  information : Option ServiceInformation
  registry : Registry
  operations : OrderedMap OperationDescription
  errorTypes : TextSet
  typeMappings : OrderedMap Text
  deriving Inhabited

namespace ServiceModel

def empty : ServiceModel := ⟨none, .empty, .empty, .empty, .empty⟩

def emittedName (m : ServiceModel) (name : Text) : Text :=
  (m.typeMappings.get? name).getD (Text.upperFirst name)

end ServiceModel

end ApiModel

import ApiModel.Yaml.Object

/-! Reading YAML into values. -/
namespace ApiModel.Yaml

/-- The value of a YAML text; an empty text is null. -/
def parse (text : Text) : Except Fault Value := do
  match ← Graph.parse? text with
  | (none, _) => return .null
  | (some root, g) => do
    let (o, objects) ← objectsOf root g
    return unroll objects false [] (wayLimit objects) o

end ApiModel.Yaml

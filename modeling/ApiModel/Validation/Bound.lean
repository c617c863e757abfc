import ApiModel.Model.Constraint
import ApiModel.Validation.Scalar

/-! Bounds from data: an integer if the value reads as one, else a decimal. -/
namespace ApiModel.Validation

/-- Neither an integer nor a decimal: both readings are at fault. -/
def neither (asInteger asFloat : Flaw) : Checked Bound :=
  .refused [⟨[.name "int"], asInteger⟩, ⟨[.name "float"], asFloat⟩]

/-- The bound that a value gives; `origin` is where an undefined number comes from that is
spelled. -/
def bound (origin : Number.Origin) (v : Value) : Checked Bound :=
  match v with
  | .int n => .accepted (.int n)
  | .bool b => .accepted (.int (if b then 1 else 0))
  | .float x => .accepted (.float x)
  | _ =>
    match spelling v with
    | .nothing => neither .notInteger .notNumber
    | .noText => neither .integerForm .numberForm
    | .noCharacters => neither .notUnicode .notUnicode
    | .word cs =>
      match integerSpelled cs, floatSpelled cs with
      | .accepted n, _ => .accepted (.int n)
      | _, .accepted x => .accepted (.float (.of origin x))
      | .refused faults, _ => neither ((faults.head?.map Fault.flaw).getD .integerForm) .numberForm

end ApiModel.Validation

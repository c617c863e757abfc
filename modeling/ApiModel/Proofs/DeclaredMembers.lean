import ApiModel.Proofs.Components
import ApiModel.Proofs.SchemaReading

/-! From declared properties to members. A plain object keeps all of its properties. A union keeps
those of its branches, each as the last branch that declares it has it, mark and all. Properties
that stand beside a union or beside a schema for other properties are not looked at. -/
namespace ApiModel

open Compile

/-! Marks in unions. -/

section Marks

variable {context : Context} {components : OrderedMap Schema} {override : ModelOverride}
  {cross : Crossing} {name enclosing key type : Text} {branch : Schema}
  {branches rest : List Schema} {trace : List Effect} {members : List (Text × Member)}

end Marks

/-! Properties in documents. -/

namespace Schema

variable {location : Location} {entries : List (Value × Value)} {declared : List (Text × Value)}
  {schema : Schema}

end Schema

section Kept

open Schema (unionPart? additionalPart? readBranches)

variable {context : Context} {location : Location} {entries : List (Value × Value)}
  {declared : List (Text × Value)} {schema : Schema} {name type : Text}

end Kept

end ApiModel

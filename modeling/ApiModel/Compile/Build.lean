import ApiModel.Compile.Direct
import ApiModel.Compile.Operation

/-! The model of a described API: all named schemas, then all operations with a name that is not
ignored, then the emitted names. The first failure ends the build. -/
namespace ApiModel.Compile

def lowerComponents (context : Context) : List (Text × Schema) → Build Unit
  | [] => return ()
  | (name, schema) :: rest => do
    let _ ← Direct.lower context name schema
    lowerComponents context rest

def addOperation (context : Context) (name : Text) (operation : Api.Operation) : Build Unit := do
  if (← get).model.operations.contains name then
    report (.repeatedOperation name)
  let description ← decompose context name operation.method.word operation.path operation
  modify fun p =>
    { p with model := { p.model with operations := p.model.operations.insert name description } }

/-- The name of an operation, unless it has none. -/
def operationName? (operation : Api.Operation) : Option Text :=
  operation.id.filter fun name => !name.isEmpty

def addOperations (context : Context) : List Api.Operation → Build Unit
  | [] => return ()
  | operation :: rest => do
    match operationName? operation with
    | none =>
      report (.unnamedOperation (Text.upper operation.method.word) operation.path)
    | some name =>
      let method := operation.method.word
      if Filter.ignoresOperation context.override.ignoreOperations.members name method then
        report (.ignoredOperation name (Text.upper method))
      else
        addOperation context name operation
    addOperations context rest

def finish : Build Unit := do
  modify fun p =>
    { p with model := { p.model with typeMappings := p.model.registry.typeMappings } }
  let model := (← get).model
  report (.built model.registry.fields.size model.registry.structures.size model.operations.size)

def buildAll (context : Context) (description : Api.Description) : Build Unit := do
  lowerComponents context description.schemas.entries
  addOperations context description.operations
  finish

def start (info : Api.Info) : Progress :=
  ⟨{ ServiceModel.empty with
      information := some ⟨info.title, info.version, info.description⟩ }, []⟩

def build (description : Api.Description) (override : ModelOverride) :
    Traced Notice BuildError ServiceModel :=
  let (result, progress) :=
    (buildAll ⟨override, description.schemas⟩ description).run.run (start description.info)
  ⟨progress.notices, result.map fun _ => progress.model⟩

end ApiModel.Compile

import ApiModel.Text.Basic

/-! Operations: the types that go in and come out, and how their members map onto a request and a
response. -/
namespace ApiModel

inductive InputLocation where
  | query
  | body
  deriving DecidableEq, Repr, Inhabited

def InputLocation.word : InputLocation → Text
  | query => "Query"
  | body => "Body"

structure InputDescription where
  pathFields : List Text
  queryFields : List Text
  bodyFields : List Text
  pathTemplateField : Option Text
  additionalHeaderFields : List Text
  defaultInputLocation : InputLocation
  bodyStructureName : Option Text
  payloadAsMember : Option Text
  deriving DecidableEq, Repr

def InputDescription.plain : InputDescription :=
  ⟨[], [], [], none, [], .body, none, none⟩

instance : Inhabited InputDescription := ⟨.plain⟩

def InputDescription.onlyHasDefaultLocation (d : InputDescription) : Bool :=
  d.pathFields.isEmpty && d.queryFields.isEmpty && d.bodyFields.isEmpty
    && d.pathTemplateField.isNone && d.additionalHeaderFields.isEmpty

structure OutputDescription where
  bodyFields : List Text
  headerFields : List Text
  bodyStructureName : Option Text
  payloadAsMember : Option Text
  deriving DecidableEq, Repr

def OutputDescription.plain : OutputDescription := ⟨[], [], none, none⟩

instance : Inhabited OutputDescription := ⟨.plain⟩

structure OperationError where
  typeName : Text
  code : Int
  deriving DecidableEq, Repr

structure OperationDescription where
  input : Option Text
  output : Option Text
  httpVerb : Option Text
  httpUrl : Option Text
  errors : List OperationError
  documentation : Option Text
  inputDescription : InputDescription
  outputDescription : OutputDescription
  deriving DecidableEq, Repr

instance : Inhabited OperationDescription :=
  ⟨⟨none, none, none, none, [], none, .plain, .plain⟩⟩

end ApiModel

import ApiModel.Api.Basic
import ApiModel.Compile.Filter
import ApiModel.Compile.Progress
import ApiModel.Number.Reading

/-! Operations in terms of types: what goes in, what comes out, and what may go wrong. -/
namespace ApiModel.Compile

open Api (Parameter Response)

/-- An operation as it is compiled: the name it has, and the same with a capital first letter, which
stands in front of the names of its types. -/
structure Subject where
  context : Context
  name : Text

namespace Subject

def lead (s : Subject) : Text := Text.upperFirst s.name

def override (s : Subject) : ModelOverride := s.context.override

end Subject

/-- The type of a parameter or header, which has no parts: its own, or that of a named schema. -/
def lowerSimple (context : Context) (type : Text) (schema : Option Schema) (location : Text) :
    Lowering Text :=
  match schema with
  | none => refuse .parameterWithoutSchema location
  | some (.reference name _) =>
    match context.components.get? name with
    | none => .fail (.unknownType name (some location))
    | some target =>
      if target.isPrimitive then pure name
      else refuse (.parameterType target.kindWord) location
  | some schema =>
    if schema.isPrimitive then lower context type schema
    else refuse (.parameterType schema.kindWord) location

def bodyType (s : Subject) (body : Option Api.RequestBody) : Lowering (Option Text) :=
  match body.bind Api.RequestBody.schema with
  | none => pure none
  | some (.reference name _) => pure (some name)
  | some (.object notes required properties none) =>
    some <$> lower s.context (s.lead ++ "RequestBody") (.object notes required properties none)
  | some schema => refuse (.requestBody schema.kindWord) s.name

structure InputMembers where
  query : OrderedMap Member
  header : OrderedMap Member
  path : OrderedMap Member

namespace InputMembers

def empty : InputMembers := ⟨.empty, .empty, .empty⟩

def insert (m : InputMembers) (place : Api.Place) (name : Text) (member : Member) :
    InputMembers :=
  match place with
  | .query => { m with query := m.query.insert name member }
  | .header => { m with header := m.header.insert name member }
  | _ => { m with path := m.path.insert name member }

def isEmpty (m : InputMembers) : Bool :=
  m.query.isEmpty && m.header.isEmpty && m.path.isEmpty

end InputMembers

def parameterMember (s : Subject) (position : Nat) (p : Parameter) : Lowering Member := do
  let type := s.lead ++ "Request" ++ Text.upperFirst (Naming.safeName p.name)
  let valueType ← lowerSimple s.context type p.schema (s.name ++ "." ++ p.name)
  return ⟨valueType, position, p.required || p.place = .path, none, p.description⟩

/-- Lowers the parameters from the given position on. Ignored headers leave no trace but a
notice. -/
def parameterMembers (s : Subject) :
    Nat → List Parameter → InputMembers → Lowering InputMembers
  | _, [], members => pure members
  | n, p :: rest, members =>
    if p.place = .cookie then
      refuse .cookieParameter (s.name ++ "." ++ p.name)
    else if p.place = .header
        && Filter.ignoresRequestHeader s.override.ignoreRequestHeaders.members s.name p.name then do
      note (.ignoredRequestHeader s.name p.name)
      parameterMembers s (n + 1) rest members
    else do
      let member ← parameterMember s n p
      parameterMembers s (n + 1) rest (members.insert p.place p.name member)

def payloadMember : Text := "body"

/-- What a body adds to a merged structure: its own members, or itself as one member, whose name is
then returned too. -/
def bodyMembers (r : Registry) (body : Option Text) (required : Bool) :
    OrderedMap Member × Option Text :=
  match body with
  | none => (.empty, none)
  | some name =>
    match r.structures.get? name with
    | some s => (s.members, none)
    | none =>
      (.ofList [(payloadMember, newMember name required none)], some payloadMember)

structure Input where
  type : Text
  description : InputDescription

/-- A body without parameters is the input itself. -/
def plainInput (r : Registry) (body : Text) : Input where
  type := body
  description :=
    { InputDescription.plain with
      bodyFields := ((r.structures.get? body).map fun s => s.members.sortedKeys).getD []
      bodyStructureName := some body }

/-- The structure that merges a body with parameters; a body comes before query, header and path. -/
def mergedInput (s : Subject) (r : Registry) (body : Option Text) (required : Bool)
    (members : InputMembers) : Input × Structure :=
  let (ofBody, payload) := bodyMembers r body required
  let merged := Members.merge
    [("body", ofBody), ("query", members.query), ("header", members.header),
      ("path", members.path)]
  let namesOf := fun label => (merged.names.get? label).getD []
  let query := namesOf "query"
  (⟨s.lead ++ "Request",
    { InputDescription.plain with
      pathFields := namesOf "path"
      queryFields := query
      bodyFields := namesOf "body"
      additionalHeaderFields := namesOf "header"
      defaultInputLocation := if query.isEmpty then .body else .query
      bodyStructureName := body
      payloadAsMember := payload }⟩,
    ⟨merged.members, some ("Input model for the " ++ s.name ++ " operation.")⟩)

def assembleInput (s : Subject) (operation : Api.Operation) (body : Option Text)
    (members : InputMembers) : Build Input := do
  let registry ← currentRegistry
  match body, members.isEmpty with
  | some name, true => return plainInput registry name
  | _, _ =>
    let required := (operation.body.map Api.RequestBody.required).getD false
    let (input, structure') := mergedInput s registry body required members
    perform (writeStructure input.type structure')
    return input

structure Produced where
  code : Int
  type : Text
  description : OutputDescription

def isSuccess (code : Int) : Bool := 200 ≤ code && code < 300

def headerMembers (s : Subject) (code : Int) :
    Nat → List (Text × Api.Header) → OrderedMap Member → Lowering (OrderedMap Member)
  | _, [], members => pure members
  | n, (name, header) :: rest, members =>
    if Filter.ignoresResponseHeader s.override.ignoreResponseHeaders.members s.name code name
    then do
      note (.ignoredResponseHeader s.name code name)
      headerMembers s code (n + 1) rest members
    else do
      let type := s.lead ++ toString code ++ Text.upperFirst (Naming.safeName name) ++ "Header"
      let valueType ← lowerSimple s.context type header.schema
        (s.name ++ "." ++ toString code ++ "." ++ name)
      headerMembers s code (n + 1) rest
        (members.insert name ⟨valueType, n, header.required, none, header.description⟩)

/-- The suffix of a branch: the branches on the way to it, joined by underscores. -/
def branchSuffix (suffix : Text) (n : Nat) : Text :=
  if suffix.isEmpty then toString n else suffix ++ "_" ++ toString n

mutual
/-- The types of a response's body, one for each leaf of a union, with the suffix of the leaf. -/
def bodyTypes (s : Subject) (code : Int) (suffix : Text) :
    Schema → Build (List (Text × Text))
  | .reference name _ => return [(suffix, name)]
  | .union _ _ branches => bodyTypesFrom s code suffix 0 branches
  | .object notes required properties none => do
    let name := s.lead ++ toString code ++ "Response" ++ suffix ++ "Body"
    performChecked do
      let structure' ← lowerObject s.context name notes.description required properties
      writeStructure name structure'
    return [(suffix, name)]
  | schema =>
    throw (.unsupported (.responseBody schema.kindWord) (s.name ++ "." ++ toString code))

def bodyTypesFrom (s : Subject) (code : Int) (suffix : Text) (n : Nat) :
    List Schema → Build (List (Text × Text))
  | [] => return []
  | branch :: rest => do
    let first ← bodyTypes s code (branchSuffix suffix n) branch
    let more ← bodyTypesFrom s code suffix (n + 1) rest
    return first ++ more
end

def mergedOutput (s : Subject) (r : Registry) (code : Int) (suffix : Text)
    (body : Option Text) (headers : OrderedMap Member) : Produced × Structure :=
  let (ofBody, payload) := bodyMembers r body true
  let merged := Members.merge [("body", ofBody), ("header", headers)]
  let namesOf := fun label => (merged.names.get? label).getD []
  (⟨code, s.lead ++ toString code ++ "Response" ++ suffix,
      ⟨namesOf "body", namesOf "header", body, payload⟩⟩,
    ⟨merged.members, some ("Output model for the " ++ s.name ++ " operation.")⟩)

def mergeOutput (s : Subject) (code : Int) (suffix : Text) (body : Option Text)
    (headers : OrderedMap Member) : Build Produced := do
  let (produced, structure') := mergedOutput s (← currentRegistry) code suffix body headers
  performChecked (writeStructure produced.type structure')
  return produced

/-- Types outside of success are the model's error types. -/
def classify (p : Produced) : Build Unit := do
  unless isSuccess p.code do
    modify fun progress =>
      { progress with
        model := { progress.model with errorTypes := progress.model.errorTypes.insert p.type } }

/-- What the bodies of a response produce; headers are merged into each of them. -/
def produceBodies (s : Subject) (code : Int) (headers : OrderedMap Member) :
    List (Text × Text) → Build (List Produced)
  | [] => return []
  | (suffix, type) :: rest => do
    let produced ←
      if headers.isEmpty then pure ⟨code, type, .plain⟩
      else mergeOutput s code suffix (some type) headers
    classify produced
    return produced :: (← produceBodies s code headers rest)

def produceCoded (s : Subject) (code : Int) (response : Response) : Build (List Produced) := do
  let headers ← performChecked (headerMembers s code 0 response.headers.entries .empty)
  match response.schema with
  | none =>
    if headers.isEmpty then return []
    else
      let produced ← mergeOutput s code "" none headers
      classify produced
      return [produced]
  | some schema => produceBodies s code headers (← bodyTypes s code "" schema)

/-- What a response produces; the default response produces nothing. -/
def produce (s : Subject) (response : Response) : Build (List Produced) := do
  if response.status = "default" then
    report (.skippedDefault s.name)
    return []
  else
    match Number.integer? response.status with
    | none => throw (.unsupported (.responseCode response.status) s.name)
    | some code => produceCoded s code response

def produceAll (s : Subject) : List Response → Build (List Produced)
  | [] => return []
  | response :: rest => do
    let first ← produce s response
    let more ← produceAll s rest
    return first ++ more

/-- The description of a text that may be empty: then the other one. -/
def firstText (a b : Option Text) : Option Text :=
  match a with
  | some [] => b
  | some text => some text
  | none => b

/-- The description of an operation from its input and from what its responses produce: the last
success is the output, all else are errors. -/
def describe (s : Subject) (verb url : Text) (operation : Api.Operation) (input : Input)
    (produced : List Produced) : OperationDescription :=
  let output := (produced.filter fun p => isSuccess p.code).getLast?
  let failures := produced.filter fun p => !isSuccess p.code
  { input := some input.type
    output := output.map Produced.type
    httpVerb := some (Text.upper verb)
    httpUrl := some url
    errors := failures.map fun p => ⟨p.type, p.code⟩
    documentation := firstText operation.description operation.summary
    inputDescription :=
      (s.override.operationInputOverrides.get? s.name).getD input.description
    outputDescription :=
      (s.override.operationOutputOverrides.get? s.name).getD
        ((output.map Produced.description).getD .plain) }

/-- Compiles an operation. Its types are written to the model; the description is returned. -/
def decompose (context : Context) (name verb url : Text) (operation : Api.Operation) :
    Build OperationDescription := do
  let s : Subject := ⟨context, name⟩
  let body ← perform (bodyType s operation.body)
  let members ← perform (parameterMembers s 0 operation.parameters .empty)
  let input ← assembleInput s operation body members
  let produced ← produceAll s operation.responses
  let description := describe s verb url operation input produced
  report (.decomposed name description.input description.output description.errors.length)
  return description

end ApiModel.Compile

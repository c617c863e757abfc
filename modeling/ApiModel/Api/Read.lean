import ApiModel.Api.Basic
import ApiModel.Document.Parse
import ApiModel.Document.Resolution
import ApiModel.Schema.Read
import ApiModel.Text.Case

/-! The description of an API from its document, in either dialect. The older dialect writes the
body among the parameters and the keywords of a schema beside other keys; both are brought into the
shape of the newer one. -/
namespace ApiModel.Api

open Document (Entries)
open Validation (Checked)

inductive Dialect where
  | swagger
  | openApi
  deriving DecidableEq, Repr

def Dialect.ofVersion (version : Value) : Dialect :=
  if version.isText Document.swaggerVersion then swagger else openApi

def textField (name : Text) (v : Value) : Checked (Option Text) :=
  (Validation.nullable Validation.text v).under (.name name)

def textsField (name : Text) (items : List Value) : Checked (List Text) :=
  (Validation.itemsFrom Validation.text 0 items).under (.name name)

/-- The value under a key; a missing one is read as the given text. -/
def shownOr (key standIn : Text) (entries : Entries) : Except ReadError Text :=
  match Value.lookupText key entries with
  | some v => v.shown
  | none => .ok standIn

/-- The entries under a key; without any, none. -/
def entriesAt (key : Text) (entries : Entries) : Except ReadError Entries :=
  match Value.getPresent? key entries with
  | some v => v.mapping
  | none => .ok []

def readInfo (document : Entries) : Except ReadError Info := do
  let entries ← entriesAt "info" document
  let title ← shownOr "title" "Untitled API" entries
  let version ← shownOr "version" "0.0.0" entries
  let description ← (textField "description" (Value.get "description" entries)).orStop .info
  return ⟨title, version, description⟩

/-- A server of the newer dialect; what is no mapping is passed over. -/
def readServer : Value → Except ReadError (Option Server)
  | .map entries => do
    let url := (Value.lookupText "url" entries).getD (.str "/")
    let server : Checked Server := Server.mk <$> (Validation.text url).under (.name "url")
      <*> textField "description" (Value.get "description" entries)
    return some (← server.orStop .server)
  | _ => .ok none

def readServers (dialect : Dialect) (document : Entries) : Except ReadError (List Server) :=
  match dialect with
  | .swagger =>
    match Value.getPresent? "host" document with
    | none => .ok []
    | some host => do
      let schemes ← ((Value.getPresent? "schemes" document).getD (Value.ofTexts ["https"])).items
      schemes.mapM fun scheme => do
        let scheme ← scheme.shown
        let host ← host.shown
        let path ← shownOr "basePath" [] document
        return ⟨scheme ++ "://" ++ host ++ path, none⟩
  | .openApi =>
    match Value.getPresent? "servers" document with
    | none => .ok []
    | some v => do
      return (← (← v.items).mapM readServer).filterMap id

/-- Schemas with names; `round` tells apart the rounds of reading. -/
def readNamedSchemas (round : Nat) : Entries → Except ReadError (List (Text × Schema))
  | [] => .ok []
  | (k, v) :: rest => do
    let name ← k.shown
    let schema ← Schema.read ((Location.named name).mark round) v
    return (name, schema) :: (← readNamedSchemas round rest)

def readSchemas (dialect : Dialect) (round : Nat) (document : Entries) :
    Except ReadError (OrderedMap Schema) := do
  let raw ← match dialect with
    | .swagger => entriesAt "definitions" document
    | .openApi => do entriesAt "schemas" (← entriesAt "components" document)
  return OrderedMap.ofList (← readNamedSchemas round raw)

/-- Keys of a parameter or header that are not part of its schema in the older dialect. -/
def plainKeys : List Text := ["name", "in", "required", "description", "collectionFormat"]

def readInlineSchema (location : Location) (entries : Entries) : Except ReadError Schema :=
  Schema.read location (.map (entries.filter fun e => !plainKeys.any fun key => e.1.isText key))

def mediaSchema? : Entries → Option Value
  | [] => none
  | (_, .map media) :: rest =>
    match Value.lookupText "schema" media with
    | some v => if v matches .null then none else some v
    | none => mediaSchema? rest
  | _ :: rest => mediaSchema? rest

def readOptional (location : Location) : Option Value → Except ReadError (Option Schema)
  | some v => some <$> Schema.read location v
  | none => .ok none

def givenSchema? (entries : Entries) : Except ReadError (Option Value) :=
  match Value.getSome? "schema" entries with
  | some v => .ok (some v)
  | none => do return mediaSchema? (← entriesAt "content" entries)

def readPartSchema (dialect : Dialect) (location : Location) (entries : Entries) :
    Except ReadError (Option Schema) :=
  match dialect with
  | .swagger => some <$> readInlineSchema location entries
  | .openApi => do readOptional location (← givenSchema? entries)

def isRequired (entries : Entries) : Bool :=
  (Value.get "required" entries).isPresent

/-- A parameter in the path is always required. -/
def readParameter (dialect : Dialect) (location : Location) (entries : Entries) :
    Except ReadError Parameter := do
  let name ← shownOr "name" [] entries
  let written := (Value.lookupText "in" entries).getD (.str "query")
  match Place.of? written with
  | none => throw (.document (.unknownPlace (← written.shown) name location.name))
  | some place =>
    let schema ← readPartSchema dialect (location.below name) entries
    let description ←
      (textField "description" (Value.get "description" entries)).orStop .parameter
    return ⟨name, place, isRequired entries || place = .path, description, schema⟩

/-- A parameter with what tells it from others: its name and its place. -/
def parameterKey (v : Value) : Except ReadError (Entries × Value) := do
  let entries ← v.mapping
  let key := Value.pair (Value.get "name" entries) (Value.get "in" entries)
  if key.isKey then return (entries, key) else .error (.shape .notKey)

def parametersAt (entries : Entries) : Except ReadError (List Value) :=
  match Value.getPresent? "parameters" entries with
  | some v => v.items
  | none => .ok []

/-- Parameters of a path apply to its operations, unless an operation has the same one. -/
def mergedParameters (item operation : Entries) : Except ReadError (List Entries) := do
  let own ← (← parametersAt operation).mapM parameterKey
  let shared ← (← parametersAt item).mapM parameterKey
  let kept := shared.filter fun s => !own.any fun o => o.2.sameKey s.2
  return (kept ++ own).map Prod.fst

def makeBody (entries : Entries) (contentTypes : List Value) (schema : Option Schema) :
    Except ReadError RequestBody :=
  (((fun description types => ⟨isRequired entries, description, types, schema⟩)
    <$> textField "description" (Value.get "description" entries)
    <*> textsField "content_types" contentTypes : Checked RequestBody)).orStop .requestBody

/-- Parts the body from the parameters of the older dialect; of several bodies the last counts. -/
def splitBody (consumes : Value) (location : Location) :
    List Entries → Option RequestBody → Except ReadError (Option RequestBody × List Entries)
  | [], body => .ok (body, [])
  | entries :: rest, body =>
    let place := Value.get "in" entries
    if place.isText "formData" then do
      throw (.document (.formParameter (← (Value.get "name" entries).shown) location.name))
    else if place.isText "body" then do
      let contentTypes ← consumes.items
      let schema ← readOptional (location.below "body") (Value.getSome? "schema" entries)
      splitBody consumes location rest (some (← makeBody entries contentTypes schema))
    else do
      let (body, remaining) ← splitBody consumes location rest body
      return (body, entries :: remaining)

def readBody (location : Location) (operation : Entries) :
    Except ReadError (Option RequestBody) :=
  match Value.getSome? "requestBody" operation with
  | none => .ok none
  | some v => do
    let entries ← v.mapping
    let content ← entriesAt "content" entries
    let schema ← readOptional (location.below "requestBody") (mediaSchema? content)
    return some (← makeBody entries (content.map Prod.fst) schema)

def readHeader (dialect : Dialect) (location : Location) (entries : Entries) :
    Except ReadError Header := do
  let schema ← readPartSchema dialect location entries
  let description ← (textField "description" (Value.get "description" entries)).orStop .header
  return ⟨description, isRequired entries, schema⟩

def readHeaders (dialect : Dialect) (location : Location) :
    Entries → Except ReadError (List (Text × Header))
  | [] => .ok []
  | (k, .map entries) :: rest => do
    let name ← k.shown
    let header ← readHeader dialect (location.below name) entries
    return (name, header) :: (← readHeaders dialect location rest)
  | _ :: rest => readHeaders dialect location rest

def responseContent (dialect : Dialect) (produces : Value) (entries : Entries) :
    Except ReadError (Option Value × List Value) :=
  match dialect with
  | .swagger =>
    match Value.getSome? "schema" entries with
    | some v => do return (some v, ← produces.items)
    | none => .ok (none, [])
  | .openApi => do
    let content ← entriesAt "content" entries
    return (mediaSchema? content, content.map Prod.fst)

def readResponse (dialect : Dialect) (produces : Value) (location : Location) (status : Text)
    (entries : Entries) : Except ReadError Response := do
  let (raw, contentTypes) ← responseContent dialect produces entries
  let headers ← readHeaders dialect location (← entriesAt "headers" entries)
  let schema ← readOptional location raw
  let response : Checked Response :=
    (fun description types =>
        ⟨status, description, types, schema, OrderedMap.ofList headers⟩)
      <$> textField "description" (Value.get "description" entries)
      <*> textsField "content_types" contentTypes
  response.orStop .response

/-- Responses from the `n`-th on; two of them may have the same name. -/
def readResponses (dialect : Dialect) (produces : Value) (location : Location) (n : Nat) :
    Entries → Except ReadError (List Response)
  | [] => .ok []
  | (k, .map entries) :: rest => do
    let status ← k.shown
    let response ← readResponse dialect produces ((location.below status).mark n) status entries
    return response :: (← readResponses dialect produces location (n + 1) rest)
  | _ :: rest => readResponses dialect produces location (n + 1) rest

/-- The media types of an operation, or those of the document, or JSON alone. -/
def mediaTypes (key : Text) (document operation : Entries) : Value :=
  ((Value.getPresent? key operation).or (Value.getPresent? key document)).getD
    (Value.ofTexts ["application/json"])

def readBodyAndParameters (dialect : Dialect) (document operation : Entries) (location : Location)
    (parameters : List Entries) : Except ReadError (Option RequestBody × List Entries) :=
  match dialect with
  | .swagger => splitBody (mediaTypes "consumes" document operation) location parameters none
  | .openApi => do return (← readBody location operation, parameters)

/-- An operation; `marks` tell its path from others of the same name. -/
def readOperation (dialect : Dialect) (document item : Entries) (path : Value) (marks : List Nat)
    (method : Method) (operation : Entries) : Except ReadError Operation := do
  let path ← path.shown
  let location : Location := ⟨Text.upper method.word ++ " " ++ path, marks⟩
  let merged ← mergedParameters item operation
  let (body, remaining) ← readBodyAndParameters dialect document operation location merged
  let responses ← readResponses dialect (mediaTypes "produces" document operation) location 0
    (← entriesAt "responses" operation)
  let parameters ← remaining.mapM (readParameter dialect location)
  let operation : Checked Operation :=
    (fun id summary description =>
        ⟨path, method, id, summary, description, parameters, body, responses⟩)
      <$> textField "operation_id" (Value.get "operationId" operation)
      <*> textField "summary" (Value.get "summary" operation)
      <*> textField "description" (Value.get "description" operation)
  operation.orStop .operation

def readMethods (dialect : Dialect) (document item : Entries) (path : Value) (marks : List Nat) :
    List Method → Except ReadError (List Operation)
  | [] => .ok []
  | method :: rest =>
    match Value.get method.word item with
    | .map operation => do
      let first ← readOperation dialect document item path marks method operation
      return first :: (← readMethods dialect document item path marks rest)
    | _ => readMethods dialect document item path marks rest

def readPaths (dialect : Dialect) (round : Nat) (document : Entries) (n : Nat) :
    Entries → Except ReadError (List Operation)
  | [] => .ok []
  | (k, .map item) :: rest => do
    let first ← readMethods dialect document item k [n, round] Method.all
    return first ++ (← readPaths dialect round document (n + 1) rest)
  | _ :: rest => readPaths dialect round document (n + 1) rest

def checkKeys : Entries → Checked Unit
  | [] => .accepted ()
  | (k, _) :: rest => (fun _ _ => ()) <$> Validation.entryKey k <*> checkKeys rest

def readIn (round : Nat) (version : Value) (document : Entries) :
    Document.Reading Description := do
  let dialect := Dialect.ofVersion version
  let resolved ← .ofExcept (Pointer.resolve (.map document))
  let entries ← .ofExcept resolved.mapping
  let info ← .ofExcept (readInfo entries)
  let servers ← .ofExcept (readServers dialect entries)
  let schemas ← .ofExcept (readSchemas dialect round entries)
  let operations ← .ofExcept do
    readPaths dialect round entries 0 (← entriesAt "paths" entries)
  let described : Checked Description :=
    (fun version _ => ⟨info, servers, schemas, operations, version⟩)
      <$> (Validation.text version).under (.name "openapi_version")
      <*> (checkKeys document).under (.name "raw_spec")
  let description ← .ofExcept (described.orStop .document)
  .emit (.extracted description.schemas.size description.operations.length)
  return description

def read (version : Value) (document : Entries) : Document.Reading Description :=
  readIn 0 version document

end ApiModel.Api

import ApiModel.Container.Traced
import ApiModel.Document.Access
import ApiModel.Document.Loop
import ApiModel.Json.Reader
import ApiModel.Notice
import ApiModel.Text.Segment
import ApiModel.Yaml.Reader

/-! A document from its text, and the version that it declares. -/
namespace ApiModel.Document

/-- How the text of a document is to be read. Without a known format JSON is tried first. -/
inductive Format where
  | json
  | yaml
  | unknown
  deriving DecidableEq, Repr

abbrev Entries := List (Value × Value)

abbrev Reading := Traced Notice ReadError

def rootEntries : Value → Except ReadError Entries
  | .map entries => .ok entries
  | .null => .error (.document (.notObject "empty document"))
  | v => .error (.document (.notObject v.kindWord))

def parseYaml (text : Text) : Except ReadError Entries :=
  match Yaml.parse text with
  | .ok v => rootEntries v
  | .error .malformed => .error (.document .unparsable)
  | .error fault => .error (.scalar fault)

/-- Text that is no JSON may still be YAML, unless it is said to be JSON. -/
def parse (format : Format) (text : Text) : Reading Entries :=
  match format with
  | .yaml => .ofExcept (parseYaml text)
  | _ =>
    match Json.parse text with
    | .ok v => .ofExcept (rootEntries v)
    | .error e =>
      if e.reason = .longInteger then .fail .longInteger
      else if format = .json then .fail (.document (.invalidJson (e.message text)))
      else do
        .emit (.notJson (e.message text))
        .ofExcept (parseYaml text)

def swaggerVersion : Text := "2.0"

def declaredVersion (entries : Entries) : Reading Text :=
  match Value.lookupText "swagger" entries with
  | some v => do
    let declared ← .ofExcept (Value.within (.map entries) v).shown
    if declared = swaggerVersion then pure declared
    else .fail (.document (.unsupportedSwagger declared))
  | none =>
    match (Value.lookupText "openapi" entries).getD .null with
    | .null => .fail (.document .missingVersion)
    | v => do
      let declared ← .ofExcept (Value.within (.map entries) v).shown
      if Text.startsWith declared "3.0." || Text.startsWith declared "3.1." then pure declared
      else if Text.startsWith declared "3." then do
        .emit (.newerVersion declared)
        return declared
      else .fail (.document (.unsupportedVersion declared))

/-- The version that a document declares. Of a list or a text that mentions the older dialect, a
part is asked by that name. -/
def version : Value → Reading Text
  | .map entries => declaredVersion entries
  | .list items =>
    .fail (.shape (if items.any (·.isText "swagger") then .notNamed else .notMapping))
  | .str s => .fail (.shape (if Text.holds "swagger" s then .notNamed else .notMapping))
  | _ => .fail (.shape .notIterable)

end ApiModel.Document

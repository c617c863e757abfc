import ApiModel.Container.Traced
import ApiModel.Document.Loop
import ApiModel.Json.Reader
import ApiModel.Model.Read
import ApiModel.Notice
import ApiModel.Program.Directories
import ApiModel.Program.Source
import ApiModel.Yaml.Reader

/-! Settings from the command line, the environment and the project file, in that order, and the
override file. -/
namespace ApiModel

structure Settings where
  document : Option Text
  override : Option Text
  output : Option Text
  deriving DecidableEq, Repr

namespace Settings

variable {m : Type → Type} [Monad m] [Host m]

def projectName : Text := "specmodel.json"

def projectEntries (path text : Text) : Except Failure Validation.Entries :=
  match Json.parse text with
  | .ok (.map entries) => .ok entries
  | .ok _ => .error (.setting (.projectNotObject path))
  | .error e =>
    if e.reason = .longInteger then .error (.read .longInteger)
    else .error (.setting (.projectInvalid path (e.message text)))

def project : ExceptT Failure m (Option Validation.Entries) := do
  let path := (Path.ofText (← Host.workingDirectory)).child projectName
  if !(← Files.ask (Host.isFile path)) then return none
  match ← Host.readFile path with
  | .error e => throw (.setting (.projectInvalid path.text e.message))
  | .ok content =>
    let text ← ExceptT.mk (pure (Files.decode content))
    some <$> ExceptT.mk (pure (projectEntries path.text text))

/-- The value that counts: of the arguments, else of the environment unless empty, else of the
project file. -/
def choose (given : Value) (variable' : Option Text) (fromProject : Value) : Value :=
  match given, variable'.filter (· ≠ []) with
  | .null, some value => .str value
  | .null, none => fromProject
  | value, _ => value

def check (document override output : Value) : Except Failure Settings :=
  let checked : Validation.Checked Settings :=
    Settings.mk <$> (Validation.nullable Validation.text document).under (.name "spec")
      <*> (Validation.nullable Validation.text override).under (.name "override")
      <*> (Validation.nullable Validation.text output).under (.name "output")
  (checked.toExcept .settings).mapError .rejected

def settle (document override output : Value) : ExceptT Failure m Settings := do
  let entries := (← project).getD []
  let document := choose document (← Host.environment "SPECMODEL_SPEC") (Value.get "spec" entries)
  let override := choose override (← Host.environment "SPECMODEL_OVERRIDE")
    (Value.get "override" entries)
  let output := choose output (← Host.environment "SPECMODEL_OUTPUT") (Value.get "output" entries)
  ExceptT.mk (pure (check document override output))

def resolve (given : Settings) : ExceptT Failure m Settings :=
  settle (.ofText? given.document) (.ofText? given.override) (.ofText? given.output)

def orEmpty (v : Value) : Value := if v.isPresent then v else .map []

def overrideData (path : Path) (text : Text) : Except Failure Value :=
  if Source.isYamlSuffix path.suffix then
    match Yaml.parse text with
    | .ok v => .ok (orEmpty v)
    | .error .malformed => .error (.setting (.overrideInvalid path.text "<yaml>"))
    | .error fault => .error (.read (.scalar fault))
  else
    match Json.parse text with
    | .ok v => .ok v
    | .error e =>
      if e.reason = .longInteger then .error (.read .longInteger)
      else .error (.setting (.overrideInvalid path.text (e.message text)))

/-- The override in a text. Data that count lie at most four levels deep; loops are followed that
far. -/
def parseOverride (path : Path) (text : Text) : Except Failure ModelOverride := do
  match ModelOverride.read ((← overrideData path text).unfold 4) with
  | .accepted override => return override
  | .refused _ => throw (.setting (.overrideInvalid path.text "<validation>"))

def readOverride (path : Path) : ExceptT Failure m ModelOverride := do
  if !(← Files.ask (Host.isFile path)) then
    throw (.setting (.overrideMissing path.text))
  match ← Host.readFile path with
  | .error e => throw (.setting (.overrideInvalid path.text e.message))
  | .ok content =>
    let text ← ExceptT.mk (pure (Files.decode content))
    ExceptT.mk (pure (parseOverride path text))

/-- The override that a file holds. Without a file nothing is changed. -/
def loadOverride (source : Option Text) : m (Traced Notice Failure ModelOverride) := do
  match source with
  | none => return pure .empty
  | some source =>
    match ← (Directories.expandHome (Path.ofText source)).run with
    | .error e => return .fail e
    | .ok path =>
      match ← (readOverride path).run with
      | .error e => return .fail e
      | .ok override => return ⟨[.overrideLoaded path.text], .ok override⟩

end Settings

end ApiModel

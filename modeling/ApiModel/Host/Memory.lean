import ApiModel.Host.Basic
import ApiModel.Host.Disk
import ApiModel.Text.Markup

/-! A host that is a value: what it holds before a run decides all that the run does. -/
namespace ApiModel

/-- The steps of a safe write that a host may refuse for reasons of its own. -/
inductive WriteStep where
  | create
  | write
  | sync
  | replace
  deriving DecidableEq, Repr

structure Memory where
  disk : Disk
  here : Place
  bindings : List (Text × Text)
  system : Text
  terminal : Bool
  /-- Homes of accounts; the first account runs the program. -/
  homes : List (Text × Text)
  time : Text
  input : Text
  response : Fetched
  /-- The names that are tried for a temporary file. -/
  labels : List Text
  refuses : WriteStep → Option AccessError
  /-- What the console makes of a text with marks, if it can read them. -/
  console : Text → Option Text := Markup.shown?
  out : Text
  err : Text

namespace Memory

def temporaryName (name label : Text) : Text :=
  "." ++ name ++ "." ++ label ++ ".tmp"

def workingPath (m : Memory) : Path := ⟨.root, m.here⟩

def accountHome? (m : Memory) : Option Text → Option Text
  | none => m.homes.head?.map Prod.snd
  | some name => m.homes.lookup name

def freeLabel? (m : Memory) (directory : Path) (name : Text) : Option Text :=
  m.labels.find? fun label =>
    !m.disk.isPresent m.here (directory.child (temporaryName name label))

def settle (m : Memory) : Except AccessError Disk → Except AccessError Unit × Memory
  | .ok disk => (.ok (), { m with disk })
  | .error e => (.error e, m)

def unlessRefused {α : Type} (m : Memory) (step : WriteStep)
    (run : Except AccessError α × Memory) : Except AccessError α × Memory :=
  match m.refuses step with
  | some e => (.error e, m)
  | none => run

def createTemporary (m : Memory) (directory : Path) (name : Text) :
    Except AccessError Path × Memory :=
  m.unlessRefused .create <|
    match m.freeLabel? directory name with
    | none => (.error .alreadyExists, m)
    | some label =>
      let path := directory.child (temporaryName name label)
      match m.disk.write m.here path ByteArray.empty with
      | .ok disk => (.ok path, { m with disk })
      | .error e => (.error e, m)

def printMarked (m : Memory) (text : Text) : Bool × Memory :=
  match m.console text with
  | some shown => (true, { m with err := m.err ++ shown ++ "\n" })
  | none => (false, m)

instance : Host (StateM Memory) where
  environment name := fun m => (m.bindings.lookup name, m)
  workingDirectory := fun m => (m.workingPath.text, m)
  systemName := fun m => (m.system, m)
  isTerminal := fun m => (m.terminal, m)
  accountHome name := fun m => (m.accountHome? name, m)
  timestamp := fun m => (m.time, m)
  standardInput := fun m => (m.input, m)
  fetch _ := fun m => (m.response, m)
  isFile path := fun m => (m.disk.isFile m.here path, m)
  isDirectory path := fun m => (m.disk.isDirectory m.here path, m)
  isPresent path := fun m => (m.disk.isPresent m.here path, m)
  readFile path := fun m => (m.disk.read m.here path, m)
  makeDirectory path := fun m => m.settle (m.disk.makeDirectory m.here path)
  createTemporary directory name := fun m => m.createTemporary directory name
  writeFile path content := fun m =>
    m.unlessRefused .write (m.settle (m.disk.write m.here path content))
  syncFile _ := fun m => m.unlessRefused .sync (.ok (), m)
  replaceFile path target := fun m =>
    m.unlessRefused .replace (m.settle (m.disk.replace m.here path target))
  removeFile path := fun m => ((), { m with disk := m.disk.remove m.here path })
  printOut text := fun m => ((), { m with out := m.out ++ text })
  printError text := fun m => ((), { m with err := m.err ++ text })
  printMarked text := fun m => m.printMarked text

end Memory

end ApiModel

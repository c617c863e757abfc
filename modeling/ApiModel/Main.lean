import ApiModel.Document.Calendar
import ApiModel.Program.Commands
import ApiModel.Text.Markup

/-! The program on the machine that it runs on. Documents cannot be fetched over the network. -/
namespace ApiModel.Machine

def native (text : Text) : String := (Text.toString? (Text.lossy text)).getD ""

def accessError : IO.Error → AccessError
  | .noFileOrDirectory _ _ _ => .notFound
  | .alreadyExists _ _ _ => .alreadyExists
  | .inappropriateType _ code _ => if code = 21 then .isDirectory else .notDirectory
  | .resourceBusy _ _ => .busy
  | e => .other (toString e)

def attempt {α : Type} (action : IO α) : IO (Except AccessError α) := do
  match ← action.toBaseIO with
  | .ok a => return .ok a
  | .error e => return .error (accessError e)

def kindAt (path : Path) : IO (Except AccessError IO.FS.FileType) :=
  attempt do
    let place ← IO.FS.realPath (native path.text)
    return (← place.metadata).type

def isFile (path : Path) : IO (Except AccessError Bool) := do
  match ← kindAt path with
  | .ok .file => return .ok true
  | .ok _ => return .ok false
  | .error .notFound => return .ok false
  | .error .notDirectory => return .ok false
  | .error e => return .error e

def isDirectory (path : Path) : IO Bool := do
  match ← kindAt path with
  | .ok .dir => return true
  | _ => return false

def isPresent (path : Path) : IO Bool := do
  match ← kindAt path with
  | .ok _ => return true
  | .error _ => return false

def randomLabel : IO Text := do
  let letters : Text := "abcdefghijklmnopqrstuvwxyz0123456789_"
  let picks ← (List.range 8).mapM fun _ => IO.rand 0 (letters.length - 1)
  return picks.map fun n => letters.getD n 'a'

def createTemporary (directory : Path) (name : Text) : Nat → IO (Except AccessError Path)
  | 0 => return .error .alreadyExists
  | tries + 1 => do
    let path := directory.child ("." ++ name ++ "." ++ (← randomLabel) ++ ".tmp")
    match ← attempt (IO.FS.Handle.mk (native path.text) .writeNew) with
    | .ok _ => return .ok path
    | .error .alreadyExists => createTemporary directory name tries
    | .error e => return .error e

def timestamp : IO Text := do
  let (_, path) ← IO.FS.createTempFile
  let seconds := (← path.metadata).modified.sec.toNat
  IO.FS.removeFile path
  let pad := fun (n : Nat) => Text.padLeft 2 (.ofNat n)
  let date := Date.ofEpochDay (seconds / 86400)
  let day := Text.padLeft 4 (.ofInt date.year) ++ pad date.month ++ pad date.day
  return day ++ "-" ++ pad (seconds / 3600 % 24) ++ pad (seconds / 60 % 60) ++ pad (seconds % 60)

def accountHome (name : Option Text) : IO (Option Text) := do
  let self := (← IO.getEnv "USER").map Text.ofString
  match name.or self, ← attempt (IO.FS.readFile "/etc/passwd") with
  | some user, .ok accounts =>
    return (Text.split '\n' accounts).findSome? fun account =>
      match Text.split ':' account with
      | [owner, _, _, _, _, home, _] => if owner = user then some home else none
      | _ => none
  | _, _ => return none

instance : Host IO where
  environment name := do return (← IO.getEnv (native name)).map Text.ofString
  workingDirectory := do return (← IO.currentDir).toString
  systemName := return "Linux"
  isTerminal := do (← IO.getStdout).isTty
  accountHome := accountHome
  timestamp := timestamp
  standardInput := IO.FS.readFile "/dev/stdin"
  fetch _ := return .failed "no network"
  isFile := isFile
  isDirectory := isDirectory
  isPresent := isPresent
  readFile path := attempt (IO.FS.readBinFile (native path.text))
  makeDirectory path := attempt (IO.FS.createDir (native path.text))
  createTemporary directory name := createTemporary directory name 100
  writeFile path content := attempt (IO.FS.writeBinFile (native path.text) content)
  syncFile path := attempt do (← IO.FS.Handle.mk (native path.text) .append).flush
  replaceFile path target := attempt (IO.FS.rename (native path.text) (native target.text))
  removeFile path := IO.FS.removeFile (native path.text)
  printOut text := do (← IO.getStdout).putStr (native text)
  printError text := do (← IO.getStderr).putStr (native text)
  printMarked text := do
    match Markup.shown? text with
    | some shown =>
      (← IO.getStderr).putStr (native (shown ++ "\n"))
      return true
    | none => return false

end ApiModel.Machine

open ApiModel in
def main (words : List String) : IO UInt32 := do
  match ← (Program.run (m := IO) (words.map Text.ofString)).run with
  | .ok code => return code.toUInt32
  | .error failure =>
    (← IO.getStderr).putStrLn (Machine.native failure.cause)
    return 1

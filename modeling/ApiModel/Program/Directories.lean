import ApiModel.Program.Files
import ApiModel.Text.Segment

/-! Homes and the directories that the program keeps for itself. -/
namespace ApiModel.Directories

variable {m : Type → Type} [Monad m] [Host m]

/-- A home without slashes at its end; nothing is left of the root, which is meant then. -/
def trimHome (home : Text) : Text :=
  let kept : Text := (home.reverse.dropWhile (· = .char '/')).reverse
  if kept = [] then "/" else kept

def homeOf (word : Text) : m (Option Text) := do
  match word with
  | [.char '~'] =>
    match ← Host.environment "HOME" with
    | some home => return some home
    | none => Host.accountHome none
  | .char '~' :: name => Host.accountHome (some name)
  | _ => return none

def expandHome (path : Path) : ExceptT Failure m Path := do
  match path.start, path.parts with
  | .here, word :: rest =>
    if Text.startsWith word "~" then
      match (← homeOf (m := m) word).map trimHome with
      | none => throw .homeUnknown
      | some home =>
        if Text.startsWith home "~" then throw .homeUnknown
        let base := Path.ofText home
        return { base with parts := base.parts ++ rest }
    else return path
  | _, _ => return path

def home : ExceptT Failure m Path := expandHome (Path.ofText "~")

def followsDesktop (system : Text) : Bool :=
  system = "Linux" || Text.endsWith system "BSD"

def dataPath : ExceptT Failure m Path := do
  if followsDesktop (← Host.systemName) then
    match (← Host.environment "XDG_DATA_HOME").filter (· ≠ []) with
    | none => return ((← home).child ".local" |>.child "share" |>.child "specmodel")
    | some base => return (Path.ofText base).child "specmodel"
  else
    return (← home).child ".specmodel"

/-- The directory for data; it is there afterwards. -/
def dataDirectory : ExceptT Failure m Path := do
  let path ← dataPath
  Files.ask (Files.ensureDirectory path)
  return path

/-- The directory for logs; it is there afterwards. -/
def logsDirectory : ExceptT Failure m Path := do
  let path := (← dataDirectory).child "logs"
  Files.ask (Files.ensureDirectory path)
  return path

end ApiModel.Directories

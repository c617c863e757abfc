import ApiModel.Host.Access
import ApiModel.Host.Path
import ApiModel.Http.Answer

/-! What the program asks of the machine that it runs on. -/
namespace ApiModel

inductive Fetched where
  | answered (answer : Http.Answer)
  | failed (detail : Text)
  /-- The address cannot be asked at all. -/
  | badAddress
  deriving Repr

class Host (m : Type → Type) where
  environment : Text → m (Option Text)
  workingDirectory : m Text
  systemName : m Text
  /-- Whether a person reads the output. -/
  isTerminal : m Bool
  /-- Where an account has its home; without a name, the account that runs the program. -/
  accountHome : Option Text → m (Option Text)
  /-- A time for the name of a log. -/
  timestamp : m Text
  standardInput : m Text
  fetch : Text → m Fetched
  isFile : Path → m (Except AccessError Bool)
  isDirectory : Path → m Bool
  isPresent : Path → m Bool
  readFile : Path → m (Except AccessError ByteArray)
  makeDirectory : Path → m (Except AccessError Unit)
  /-- An empty file in a directory, whose hidden name is made from the given one and was free. -/
  createTemporary : Path → Text → m (Except AccessError Path)
  writeFile : Path → ByteArray → m (Except AccessError Unit)
  /-- Returns once the content is on the disk. -/
  syncFile : Path → m (Except AccessError Unit)
  /-- Renames a file in one step, in place of the one that had the name. -/
  replaceFile : Path → Path → m (Except AccessError Unit)
  removeFile : Path → m Unit
  printOut : Text → m Unit
  printError : Text → m Unit
  /-- Prints a line with marks on standard error, if the console can read its marks. -/
  printMarked : Text → m Bool

instance {ε : Type} {m : Type → Type} [Monad m] [Host m] : Host (ExceptT ε m) where
  environment name := ExceptT.lift (Host.environment name)
  workingDirectory := ExceptT.lift Host.workingDirectory
  systemName := ExceptT.lift Host.systemName
  isTerminal := ExceptT.lift Host.isTerminal
  accountHome name := ExceptT.lift (Host.accountHome name)
  timestamp := ExceptT.lift Host.timestamp
  standardInput := ExceptT.lift Host.standardInput
  fetch url := ExceptT.lift (Host.fetch url)
  isFile path := ExceptT.lift (Host.isFile path)
  isDirectory path := ExceptT.lift (Host.isDirectory path)
  isPresent path := ExceptT.lift (Host.isPresent path)
  readFile path := ExceptT.lift (Host.readFile path)
  makeDirectory path := ExceptT.lift (Host.makeDirectory path)
  createTemporary directory name := ExceptT.lift (Host.createTemporary directory name)
  writeFile path content := ExceptT.lift (Host.writeFile path content)
  syncFile path := ExceptT.lift (Host.syncFile path)
  replaceFile path target := ExceptT.lift (Host.replaceFile path target)
  removeFile path := ExceptT.lift (Host.removeFile path)
  printOut text := ExceptT.lift (Host.printOut text)
  printError text := ExceptT.lift (Host.printError text)
  printMarked text := ExceptT.lift (Host.printMarked text)

end ApiModel

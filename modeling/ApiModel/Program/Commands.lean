import ApiModel.Model.Write
import ApiModel.Program.Arguments
import ApiModel.Program.Tables

/-! The commands. A run ends with an exit code. What the user can mend is said in one line; any
other failure is kept in a log. -/
namespace ApiModel.Program

def versionLine : Text := "specmodel 0.1.0\n"

def usage : Text := Text.join "\n" [
  "Usage: specmodel [OPTIONS] COMMAND [ARGS]...",
  "",
  "Compile OpenAPI 3.x / Swagger 2.0 documents into a service model.",
  "",
  "Options:",
  "  --version       Show version and exit.",
  "  --json          JSON output format.",
  "  --plain         Plain text output.",
  "  --no-color      Disable color output.",
  "  -q, --quiet     Suppress non-essential output.",
  "  -v, --verbose   Enable debug output and compiler logging.",
  "  --help          Show this message and exit.",
  "",
  "Commands:",
  "  build [-m FILE] [-o FILE] [--check-references] [SPEC]",
  "  inspect operations [-m FILE] [SPEC]",
  "  inspect types [-m FILE] [SPEC]",
  ""]

variable {m : Type → Type} [Monad m] [Host m]

def say (remark : Option Screen.Remark) : ExceptT Failure m Unit := do
  match remark with
  | none => return ()
  | some (.plain text) => Host.printError (Screen.line text)
  | some (.marked text) =>
    if !(← Host.printMarked text) then throw .unreadableMarks

def replay {α : Type} (screen : Screen) (work : Traced Notice Failure α) :
    ExceptT Failure m α := do
  Host.printError (List.flatten (work.trace.map screen.notice))
  ExceptT.mk (pure work.result)

def compile (screen : Screen) (document override : Option Text) :
    ExceptT Failure m ServiceModel := do
  match document.filter (· ≠ []) with
  | none => throw .noDocument
  | some source =>
    let override ← replay screen (← Settings.loadOverride (m := m) override)
    say (screen.debug ("Loading " ++ source))
    let entries ← replay screen (← Source.load (m := m) source)
    replay screen (Source.compile override entries)

def written (model : ServiceModel) : Except Failure Text :=
  match model.dump (.blanks 2) with
  | .ok text => .ok (text ++ "\n")
  | .error e => .error (.read e)

def wroteLine (model : ServiceModel) (output : Text) : Text :=
  "Wrote " ++ .ofNat model.registry.structures.size ++ " structures, "
    ++ .ofNat model.registry.fields.size ++ " fields and " ++ .ofNat model.operations.size
    ++ " operations to " ++ output

def deliver (screen : Screen) (output : Option Text) (model : ServiceModel) :
    ExceptT Failure m Unit := do
  let text ← ExceptT.mk (pure (written model))
  match output.filter (· ≠ []) with
  | none => Host.printOut text
  | some path =>
    Files.writeOutput (Path.ofText path) text
    say (screen.success (wroteLine model path))

def build (screen : Screen) (given : Settings) (checkReferences : Bool) :
    ExceptT Failure m Unit := do
  let settings ← Settings.resolve given
  let model ← compile screen settings.document settings.override
  if checkReferences then
    ExceptT.mk (pure (model.registry.checkReferences.mapError .build))
  deliver screen settings.output model

def operations (screen : Screen) (given : Settings) : ExceptT Failure m Unit := do
  let settings ← Settings.resolve given
  let model ← compile screen settings.document settings.override
  if model.operations.isEmpty then
    say (screen.info "No operations in this document.")
  else
    Host.printOut (screen.table ServiceModel.operationHeaders model.operationRows)

def types (screen : Screen) (given : Settings) : ExceptT Failure m Unit := do
  let settings ← Settings.resolve given
  let model ← compile screen settings.document settings.override
  Host.printOut (screen.table ServiceModel.typeHeaders model.typeRows)

def perform (screen : Screen) : Arguments.Command → ExceptT Failure m Unit
  | .build settings checkReferences => build screen settings checkReferences
  | .operations settings => operations screen settings
  | .types settings => types screen settings

def terminal : m Screen.Terminal := do
  return ⟨← Host.isTerminal, ← Host.environment "NO_COLOR", ← Host.environment "TERM"⟩

def logName (time : Text) : Text := "crash-" ++ time ++ ".log"

def keepLog (screen : Screen) (failure : Failure) : ExceptT Failure m Nat := do
  let directory ← Directories.logsDirectory
  let path := directory.child (logName (← Host.timestamp))
  Files.ask (Host.writeFile path (Files.encodeLossy (failure.cause ++ "\n")))
  say (screen.error ("Unexpected error. Debug log: " ++ path.text))
  return 1

/-- Says why a run failed. A message that cannot be shown is a failure of its own. -/
def report (screen : Screen) (failure : Failure) : ExceptT Failure m Nat := do
  match failure.advice? with
  | some (message, code) =>
    tryCatch (do say (screen.error message); return code) (keepLog screen)
  | none => keepLog screen failure

/-- Answers a command line with an exit code. Fails only if the log cannot be kept or its place
cannot be shown. -/
def run (words : List Text) : ExceptT Failure m Nat := do
  match Arguments.parse words with
  | .help =>
    Host.printOut usage
    return 0
  | .version =>
    Host.printOut versionLine
    return 0
  | .nothing =>
    Host.printOut usage
    return 2
  | .misuse =>
    Host.printError usage
    return 2
  | .run wishes command =>
    let screen := Screen.settle wishes (← terminal (m := m))
    tryCatch (do perform screen command; return 0) (report screen)

end ApiModel.Program

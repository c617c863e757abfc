import ApiModel.Api.Read
import ApiModel.Compile.Build
import ApiModel.Document.Parse
import ApiModel.Http.Address
import ApiModel.Program.Files
import ApiModel.Text.Blank

/-! Documents from where they are kept: a file, an address, or standard input. -/
namespace ApiModel.Source

structure Content where
  text : Text
  format : Document.Format

def isAddress (source : Text) : Bool :=
  Text.startsWith source "http://" || Text.startsWith source "https://"

def formatOfMedia (media : Text) : Document.Format :=
  if Text.holds "json" media then .json
  else if Text.holds "yaml" media || Text.holds "yml" media then .yaml
  else .unknown

def isYamlSuffix (suffix : Text) : Bool :=
  let lowered := Text.lower suffix
  lowered = ".yaml" || lowered = ".yml"

def formatOfSuffix (suffix : Text) : Document.Format :=
  if Text.lower suffix = ".json" then .json
  else if isYamlSuffix suffix then .yaml
  else .unknown

/-- What an answer holds. Its header comes first, then its body, then its status. -/
def ofAnswer (url : Text) (answer : Http.Answer) : Except Failure Content :=
  if !answer.hasPlainHeaders then .error .unencodable
  else
    match answer.content with
    | .error e => .error (.read (.document (.fetchFailed url e.message)))
    | .ok data =>
      if answer.isSuccess then
        match answer.textOf data with
        | .ok text => .ok ⟨text, formatOfMedia answer.media⟩
        | .error e => .error (.charset e)
      else .error (.read (.document (.httpStatus answer.status url)))

def ofFetched (url : Text) : Fetched → Except Failure Content
  | .answered answer => ofAnswer url answer
  | .failed detail => .error (.read (.document (.fetchFailed url detail)))
  | .badAddress => .error .badAddress

def checkAddress (url : Text) : Except Failure Unit :=
  match Http.checkAddress url with
  | .ok () => .ok ()
  | .error .invalid => .error .badAddress
  | .error .unencodable => .error .unencodable

def ofInput (text : Text) : Except Failure Content :=
  if Text.isAllBlank text then .error (.read (.document .noInput)) else .ok ⟨text, .unknown⟩

variable {m : Type → Type} [Monad m] [Host m]

def readFile (source : Text) : ExceptT Failure m Content := do
  let path := Path.ofText source
  if !(← Files.ask (Host.isFile path)) then
    throw (.read (.document (.notFound source)))
  match ← Host.readFile path with
  | .error e => throw (.read (.document (.unreadable source e.message)))
  | .ok content =>
    let text ← ExceptT.mk (pure (Files.decode content))
    if Text.isAllBlank text then throw (.read (.document (.emptyFile source)))
    return ⟨text, formatOfSuffix path.suffix⟩

def content (source : Text) : ExceptT Failure m Content := do
  if source = "-" then ExceptT.mk (return ofInput (← Host.standardInput))
  else if isAddress source then
    ExceptT.mk (pure (checkAddress source))
    ExceptT.mk (return ofFetched source (← Host.fetch source))
  else readFile source

def parse (source : Text) (content : Content) : Traced Notice Failure Document.Entries := do
  .emit (.loaded content.text.length source)
  (Document.parse content.format content.text).mapError .read

def load (source : Text) : m (Traced Notice Failure Document.Entries) := do
  match ← (content source).run with
  | .ok c => return parse source c
  | .error e => return .fail e

def compile (override : ModelOverride) (entries : Document.Entries) :
    Traced Notice Failure ServiceModel := do
  let version ← (Document.version (.map entries)).mapError .read
  let description ← (Api.read (.str version) entries).mapError .read
  (Compile.build description override).mapError .build

end ApiModel.Source

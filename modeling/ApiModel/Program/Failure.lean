import ApiModel.Compile.Error
import ApiModel.Document.Error
import ApiModel.Host.Access
import ApiModel.Text.Charset

/-! Why a run ends without its result. Some causes are the user's to mend: they have a message and
an exit code of their own. All others are defects or refusals of the machine. -/
namespace ApiModel

inductive SettingError where
  | overrideMissing (path : Text)
  | overrideInvalid (path detail : Text)
  | projectInvalid (path detail : Text)
  | projectNotObject (path : Text)
  deriving DecidableEq, Repr

def SettingError.message : SettingError → Text
  | overrideMissing path => "Override file not found: " ++ path
  | overrideInvalid path detail => "Invalid override file " ++ path ++ ": " ++ detail
  | projectInvalid path detail => "Invalid project config at " ++ path ++ ": " ++ detail
  | projectNotObject path => "Project config at " ++ path ++ " must be a JSON object"

inductive Failure where
  | read (e : ReadError)
  | build (e : BuildError)
  | setting (e : SettingError)
  /-- No document is named anywhere. -/
  | noDocument
  /-- Settings of the wrong kind. -/
  | rejected (r : Validation.Rejection)
  | access (e : AccessError)
  /-- A file is not encoded as text. -/
  | undecodable
  /-- A text has no encoding. -/
  | unencodable
  | homeUnknown
  | badAddress
  /-- Bytes from the network are not read as text. -/
  | charset (e : CharsetError)
  /-- A text on its way to the console has marks that close nothing. -/
  | unreadableMarks
  deriving DecidableEq, Repr

namespace Failure

def advice? : Failure → Option (Text × Nat)
  | read (.document e) => some (e.message, 7)
  | read _ => none
  | build (.endlessUnion _) => none
  | build e => some (e.message, e.exitCode)
  | setting e => some (e.message, 1)
  | noDocument => some ("No API document given. Pass SPEC, set SPECMODEL_SPEC, "
      ++ "or add \"spec\" to ./specmodel.json", 2)
  | _ => none

def cause : Failure → Text
  | read (.document e) => e.message
  | read (.rejected r) => Text.ofNat r.faults.length ++ " faults in the data"
  | read (.shape .notMapping) => "a mapping is needed"
  | read (.shape .notIterable) => "a list is needed"
  | read (.shape .notKey) => "a plain key is needed"
  | read (.shape .notNamed) => "a name is needed"
  | read (.scalar _) => "a scalar has no value"
  | read .longInteger => "an integer has too many digits"
  | read .endless => "the data holds itself"
  | build e => e.message
  | setting e => e.message
  | noDocument => "no document is named"
  | rejected r => Text.ofNat r.faults.length ++ " faults in the settings"
  | access e => e.message
  | undecodable => "a file is not UTF-8"
  | unencodable => "a text cannot be written as UTF-8"
  | homeUnknown => "the home directory is unknown"
  | badAddress => "the address is invalid"
  | charset _ => "the character set cannot be read"
  | unreadableMarks => "a closing mark closes nothing"

end Failure

end ApiModel

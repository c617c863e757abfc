import ApiModel.Text.Basic

/-! Why a host refuses to touch a file. -/
namespace ApiModel

inductive AccessError where
  | notFound
  | notDirectory
  | alreadyExists
  | isDirectory
  | nameTooLong
  | busy
  /-- The name holds the character that ends names. -/
  | nullCharacter
  /-- The name has no bytes. -/
  | unencodable
  /-- Any other reason, in the words of the host. -/
  | other (detail : Text)
  deriving DecidableEq, Repr

def AccessError.message : AccessError → Text
  | notFound => "No such file or directory"
  | notDirectory => "Not a directory"
  | alreadyExists => "File exists"
  | isDirectory => "Is a directory"
  | nameTooLong => "File name too long"
  | busy => "Device or resource busy"
  | nullCharacter => "embedded null byte"
  | unencodable => "surrogates not allowed"
  | other detail => detail

end ApiModel

import ApiModel.Http.Header
import ApiModel.Http.Inflate
import ApiModel.Text.Charset

/-! Answers over the network: packed bodies are unpacked, and bytes become text by the character set
that the answer names. -/
namespace ApiModel.Http

structure Answer where
  status : Int
  headers : Headers
  body : List UInt8
  deriving Repr

namespace Answer

def hasPlainHeaders (a : Answer) : Bool :=
  a.headers.all fun field => isPlain field.1 && isPlain field.2

/-- How the body is packed, step by step; unknown ways are passed over. -/
inductive Packing where
  | gzip
  | deflate
  deriving DecidableEq

def packings (a : Answer) : List Packing :=
  ((values "content-encoding" a.headers).flatMap (Text.split ',')).filterMap fun word =>
    let word := (Text.strip word).map CodePoint.toLower
    if word = "gzip" then some .gzip
    else if word = "deflate" then some .deflate
    else none

/-- Undoes one step of packing. No text starts like a file of this kind, so a body of text is
refused unless it breaks off before that shows. -/
def unpackStep (data : List UInt8) : Packing → Except PackingError (List UInt8)
  | .gzip => if data.length < 2 then .ok [] else .error .header
  | .deflate => inflate data

/-- The body as it was before it was packed; the last step is undone first. -/
def content (a : Answer) : Except PackingError (List UInt8) :=
  a.packings.reverse.foldlM unpackStep a.body

def isSuccess (a : Answer) : Bool := 200 ≤ a.status && a.status < 300

def media (a : Answer) : Text := (value? "content-type" a.headers).getD []

def charset (a : Answer) : Charset :=
  ((charset? a.media).bind Charset.ofName?).getD .utf8

def textOf (a : Answer) (data : List UInt8) : Except CharsetError Text :=
  if data.isEmpty then .ok [] else a.charset.decode data

end Answer

end ApiModel.Http

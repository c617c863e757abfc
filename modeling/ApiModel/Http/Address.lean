import ApiModel.Http.HostName
import ApiModel.Http.Internet
import ApiModel.Number.Reading
import ApiModel.Text.Case

/-! Addresses in the network: a scheme, an authority, a path, and two optional parts behind it. -/
namespace ApiModel.Http

inductive AddressError where
  | invalid
  /-- A part has no bytes. -/
  | unencodable
  deriving DecidableEq, Repr

def addressLimit : Nat := 65536

def isControl (c : CodePoint) : Bool := c.toNat < 32 || c.toNat = 127

def isHalf (c : CodePoint) : Bool := c.toChar?.isNone

structure Authority where
  user : Text
  host : Text
  port : Text

namespace Authority

def cutLast? (c : CodePoint) (text : Text) : Option (Text × Text) :=
  let behind : Text := (text.reverse.takeWhile (· ≠ c)).reverse
  if behind.length = text.length then none
  else some (text.take (text.length - behind.length - 1), behind)

/-- The host ends at the first colon, unless it stands in brackets. -/
def cutHost (text : Text) : Text × Text :=
  match if text.head? = some '[' then cutLast? ']' text else none with
  | some (inner, behind) => (inner ++ "]", behind)
  | none =>
    let host : Text := text.takeWhile (· ≠ .char ':')
    (host, text.drop host.length)

/-- The port stands behind a colon, which may be missing behind brackets. -/
def ofText (text : Text) : Authority :=
  let (user, rest) := (cutLast? '@' text).getD ([], text)
  let (host, behind) := cutHost rest
  ⟨user, host, if behind.head? = some ':' then behind.drop 1 else behind⟩

/-- Whether a host has the look of four numbers: groups of digits with any three characters between
them. -/
def looksNumeric (separators : Nat) (digit : Bool) : Text → Bool
  | [] => digit && separators = 0
  | c :: rest =>
    (c.isDigit && looksNumeric separators true rest)
      || (digit && 0 < separators && looksNumeric (separators - 1) false rest)

/-- Names in ASCII are taken as they are. -/
def isGoodHost (host : Text) : Bool :=
  if looksNumeric 3 false host then isShortAddress host
  else if host.head? = some '[' ∧ host.getLast? = some ']' then
    isLongAddress ((host.drop 1).dropLast)
  else host.all (fun c => c.toNat < 128) || HostName.isGood (Text.lower host)

def isGoodPort (port : Text) : Bool := port.isEmpty || (Number.integer? port).isSome

end Authority

def behindScheme (address : Text) : Text :=
  (address.dropWhile (· ≠ .char '/')).drop 2

/-- Checks an address with its scheme. Of its parts, those that are written as bytes need to have
some. -/
def checkAddress (address : Text) : Except AddressError Unit :=
  if addressLimit < address.length ∨ address.any isControl then .error .invalid
  else
    let rest := behindScheme address
    let text : Text := rest.takeWhile fun c => !c.isIn "/?#"
    let authority := Authority.ofText text
    if authority.user.any isHalf then .error .unencodable
    else if !Authority.isGoodHost authority.host || !Authority.isGoodPort authority.port then
      .error .invalid
    else if (rest.drop text.length).any isHalf then .error .unencodable
    else .ok ()

end ApiModel.Http

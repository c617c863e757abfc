import ApiModel.Container.Sort
import ApiModel.Text.Blank
import ApiModel.Text.Segment

/-! Header fields of an answer over the network, and the parameters of a media type. -/
namespace ApiModel.Http

abbrev Headers := List (Text × Text)

def isPlain (text : Text) : Bool := text.all fun c => c.toNat < 128

def values (name : Text) (headers : Headers) : List Text :=
  (headers.filter fun field => field.1.map CodePoint.toLower = name).map Prod.snd

/-- The value of a field; of several fields of one name the values stand one after the other. -/
def value? (name : Text) (headers : Headers) : Option Text :=
  match values name headers with
  | [] => none
  | found => some (Text.join ", " found)

/-- Cuts a value at its semicolons, except for those between quotes. A quote behind a backslash is
none. -/
def cutFrom (quoted : Bool) (last : Option CodePoint) (piece : Text) : Text → List Text
  | [] => [piece.reverse]
  | c :: rest =>
    if c = ';' ∧ !quoted then piece.reverse :: cutFrom false none [] rest
    else cutFrom (if c = '"' ∧ last ≠ some '\\' then !quoted else quoted) (some c) (c :: piece) rest

def cut (text : Text) : List Text := cutFrom false none [] text

def parameter (piece : Text) : Text × Text :=
  let name : Text := piece.takeWhile (· ≠ .char '=')
  ((Text.strip name).map CodePoint.toLower, Text.strip (piece.drop (name.length + 1)))

def unquote (text : Text) : Text :=
  let inner := (text.drop 1).dropLast
  if 1 < text.length ∧ text.head? = some '"' ∧ text.getLast? = some '"' then
    Text.replacePair '\\' '"' "\"" (Text.replacePair '\\' '\\' "\\" inner)
  else if 1 < text.length ∧ text.head? = some '<' ∧ text.getLast? = some '>' then inner
  else text

def unescape : Text → Text
  | .char '%' :: a :: b :: rest =>
    match a.hexDigit?, b.hexDigit? with
    | some high, some low => .ofNat (16 * high + low) :: unescape rest
    | _, _ => .char '%' :: unescape (a :: b :: rest)
  | c :: rest => c :: unescape rest
  | [] => []

/-- The value behind the name of a set and of a language, which quotes separate. -/
def dropLanguage (text : Text) : Text :=
  match Text.split '\'' text with
  | _ :: _ :: first :: more => Text.join "'" (first :: more)
  | _ => text

structure Piece where
  number : Option Nat
  text : Text
  escaped : Bool

def Piece.isBefore (a b : Piece) : Bool :=
  match a.number, b.number with
  | none, some _ => true
  | some _, none => false
  | some m, some n => m < n || (m = n && a.text.isOrdered b.text)
  | none, none => a.text.isOrdered b.text

/-- The piece of a set's name that a parameter holds. Its number and a mark for escapes stand behind
stars. -/
def piece? (p : Text × Text) : Option Piece := do
  let rest ← Text.dropLeading? "charset*" p.1
  let digits := rest.takeWhile CodePoint.isDigit
  let number := if digits = [] then none
    else some (digits.foldl (fun n c => 10 * n + (c.toNat - 48)) 0)
  return ⟨number, unquote p.2, p.1.getLast? = some '*'⟩

def ofPieces (pieces : List Piece) : Text :=
  let sorted := sortBy Piece.isBefore pieces
  let text := sorted.flatMap fun p => if p.escaped then unescape p.text else p.text
  if sorted.any Piece.escaped then dropLanguage text else text

def charset? (media : Text) : Option Text :=
  let parameters := (cut media).map parameter
  let pieces := (parameters.drop 1).filterMap piece?
  let name := match parameters.lookup ("charset" : Text) with
    | some value => some (unquote value)
    | none => if pieces.isEmpty then none else some (ofPieces pieces)
  name.filter isPlain

end ApiModel.Http

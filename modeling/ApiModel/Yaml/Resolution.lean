import ApiModel.Number.Reading
import ApiModel.Text.Segment

/-! The kind of a scalar that carries no tag, told by its form: truth words, numbers in several
bases and in sixties, dates and times, null, and texts for all else. -/
namespace ApiModel.Yaml

inductive Tag where
  | str
  | null
  | bool
  | int
  | float
  | timestamp
  | binary
  | seq
  | map
  | set
  | omap
  | pairs
  /-- A key whose value brings in entries. -/
  | merge
  /-- A key whose value stands for the whole mapping. -/
  | value
  | unknown
  deriving DecidableEq, Repr, Inhabited

def coreLead : Text := "tag:yaml.org,2002:"

def coreNames : List (Text × Tag) := [
  ("str", .str), ("null", .null), ("bool", .bool), ("int", .int), ("float", .float),
  ("timestamp", .timestamp), ("binary", .binary), ("seq", .seq), ("map", .map), ("set", .set),
  ("omap", .omap), ("pairs", .pairs), ("merge", .merge), ("value", .value)]

def Tag.ofText (text : Text) : Tag :=
  ((Text.dropLeading? coreLead text).bind fun name => coreNames.lookup name).getD .unknown

def boolWords : List Text :=
  ["yes", "Yes", "YES", "no", "No", "NO", "true", "True", "TRUE", "false", "False", "FALSE", "on",
    "On", "ON", "off", "Off", "OFF"]

def nullWords : List Text := ["~", "null", "Null", "NULL"]

def bareSigns : List Text := ["!", "&", "*"]

def isDigitOrMark (c : CodePoint) : Bool := c.isDigit || c = '_'

def dropSign : Text → Text
  | .char '-' :: cs => cs
  | .char '+' :: cs => cs
  | cs => cs

/-- Groups of one or two digits below sixty behind colons, at least one; what follows them. -/
def sixties : Nat → Text → Option Text
  | 0, _ => none
  | n + 1, cs =>
    let group := match cs with
      | .char ':' :: a :: b :: rest =>
        if '0' ≤ a ∧ a ≤ '5' ∧ b.isDigit then some rest
        else if a.isDigit then some (b :: rest) else none
      | [.char ':', a] => if a.isDigit then some [] else none
      | _ => none
    match group with
    | none => none
    | some rest => if rest.head? = some (.char ':') then sixties n rest else some rest

def isSignedExponent : Text → Bool
  | [] => true
  | e :: sign :: rest =>
    (e = 'e' || e = 'E') && (sign = '-' || sign = '+') && !rest.isEmpty &&
      rest.all CodePoint.isDigit
  | _ => false

def isPointed (cs : Text) : Bool :=
  match cs with
  | c :: _ =>
    c.isDigit && match cs.dropWhile isDigitOrMark with
      | .char '.' :: rest => isSignedExponent (rest.dropWhile isDigitOrMark)
      | _ => false
  | [] => false

/-- A point with a digit behind it; such a number has no sign. -/
def isLeadingPoint : Text → Bool
  | .char '.' :: c :: rest => c.isDigit && isSignedExponent (rest.dropWhile isDigitOrMark)
  | _ => false

def isSixtyPointed (cs : Text) : Bool :=
  match cs with
  | c :: _ =>
    c.isDigit && match sixties cs.length (cs.dropWhile isDigitOrMark) with
      | some (.char '.' :: rest) => rest.all isDigitOrMark
      | _ => false
  | [] => false

def infiniteWords : List Text := [".inf", ".Inf", ".INF"]

def undefinedWords : List Text := [".nan", ".NaN", ".NAN"]

def isFloatForm (cs : Text) : Bool :=
  let body := dropSign cs
  isPointed body || isLeadingPoint cs || isSixtyPointed body
    || body ∈ infiniteWords || cs ∈ undefinedWords

def isHexOrMark (c : CodePoint) : Bool :=
  c.hexDigit?.isSome || c = '_'

def isIntForm (cs : Text) : Bool :=
  match dropSign cs with
  | [.char '0'] => true
  | .char '0' :: .char 'b' :: rest =>
    !rest.isEmpty && rest.all fun c => c = '0' || c = '1' || c = '_'
  | .char '0' :: .char 'x' :: rest => !rest.isEmpty && rest.all isHexOrMark
  | .char '0' :: rest => rest.all fun c => ('0' ≤ c && c ≤ '7') || c = '_'
  | c :: rest =>
    c.isDigit && match rest.dropWhile isDigitOrMark with
      | [] => true
      | tail => sixties tail.length tail == some []
  | [] => false

structure TimeParts where
  year : Nat
  month : Nat
  day : Nat
  time : Option (Nat × Nat × Nat)
  fraction : Text
  /-- Sign, hours and minutes; all zero for the letter `Z`. -/
  zone : Option (Bool × Nat × Nat)

def shortNumber (cs : Text) : Option (Nat × Text) :=
  match cs with
  | a :: b :: rest =>
    if a.isDigit && b.isDigit then some (Number.natOfChars [a, b], rest)
    else if a.isDigit then some (Number.natOfChars [a], b :: rest) else none
  | [a] => if a.isDigit then some (Number.natOfChars [a], []) else none
  | [] => none

def twoDigits (cs : Text) : Option (Nat × Text) :=
  match cs with
  | a :: b :: rest => if a.isDigit && b.isDigit then some (Number.natOfChars [a, b], rest) else none
  | _ => none

def expectChar (c : CodePoint) : Text → Option Text
  | d :: rest => if c = d then some rest else none
  | [] => none

/-- The zone behind a time: `Z`, or a sign with hours and maybe minutes. -/
def zonePart (cs : Text) : Option (Option (Bool × Nat × Nat)) :=
  match cs with
  | [] => some none
  | [.char 'Z'] => some (some (false, 0, 0))
  | sign :: rest =>
    if sign = '-' ∨ sign = '+' then do
      let (hours, rest) ← shortNumber rest
      match rest with
      | [] => return some (sign = '-', hours, 0)
      | .char ':' :: rest => do
        let (minutes, rest) ← twoDigits rest
        if rest.isEmpty then return some (sign = '-', hours, minutes) else none
      | _ => none
    else
      none

def timeParts? (cs : Text) : Option TimeParts := do
  let ds := cs.take 4
  if ds.length < 4 || !ds.all CodePoint.isDigit then none
  let rest ← expectChar '-' (cs.drop 4)
  let (month, rest) ← shortNumber rest
  let rest ← expectChar '-' rest
  let (day, rest) ← shortNumber rest
  let year := Number.natOfChars ds
  if rest.isEmpty then
    return ⟨year, month, day, none, [], none⟩
  let rest ← match rest with
    | .char 'T' :: rest => some rest
    | .char 't' :: rest => some rest
    | c :: rest =>
      if c = ' ' ∨ c = '\t' then some (rest.dropWhile fun c => c = ' ' || c = '\t') else none
    | [] => none
  let (hour, rest) ← shortNumber rest
  let rest ← expectChar ':' rest
  let (minute, rest) ← twoDigits rest
  let rest ← expectChar ':' rest
  let (second, rest) ← twoDigits rest
  let (fraction, rest) := match rest with
    | .char '.' :: rest => Number.spanDigits rest
    | rest => ([], rest)
  let zone ← zonePart (rest.dropWhile fun c => c = ' ' || c = '\t')
  if zone.isNone && !rest.isEmpty then none
  return ⟨year, month, day, some (hour, minute, second), fraction, zone⟩

/-- A lone date has two digits for month and day. -/
def isTimeForm (cs : Text) : Bool :=
  match timeParts? cs with
  | some parts => parts.time.isSome || cs.length == 10
  | none => false

def dropLineFeed (text : Text) : Text :=
  if text.getLast? = some (.char '\n') then text.dropLast else text

/-- The tag of a scalar by its form. A line feed at the end does not count. -/
def formTag (text : Text) : Tag :=
  let cs := dropLineFeed text
  if cs ∈ boolWords then .bool
  else if isFloatForm cs then .float
  else if isIntForm cs then .int
  else if cs = "<<" then .merge
  else if cs ∈ nullWords ∨ text.isEmpty then .null
  else if isTimeForm cs then .timestamp
  else if cs = "=" then .value
  else if cs ∈ bareSigns then .unknown
  else .str

end ApiModel.Yaml

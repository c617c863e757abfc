import ApiModel.Number.Reading
import ApiModel.Text.Encoding
import ApiModel.Text.Segment
import ApiModel.Validation.Fault

/-! Scalars from data. Numbers and truth values are also taken from texts that spell them. -/
namespace ApiModel.Validation

open Text

/-- A text, or bytes that are the encoding of one. -/
def text : Value → Checked Text
  | .str s => .accepted s
  | .bytes data =>
    match Text.ofUtf8? data with
    | some s => .accepted s
    | none => .flawed .notUnicode
  | _ => .flawed .notText

inductive Spelling where
  | word (text : Text)
  /-- Bytes that are no text. -/
  | noText
  /-- A text with a half of a surrogate pair. -/
  | noCharacters
  /-- Values that spell nothing. -/
  | nothing

def spelling : Value → Spelling
  | .str s => if (Text.toString? s).isSome then .word s else .noCharacters
  | .bytes data =>
    match Text.ofUtf8? data with
    | some s => .word s
    | none => .noText
  | _ => .nothing

/-- Drops zeros in front of a number; single zeros stay. An underscore between zeros is passed
over. -/
def dropZeros : Text → Option Text
  | [] => none
  | c :: rest =>
    if c = '0' then go c rest
    else if c = '-' ∨ ('1' ≤ c ∧ c ≤ '9') then some (c :: rest)
    else none
where
  go (last : CodePoint) : Text → Option Text
    | [] => some [last]
    | c :: rest =>
      if c = '0' ∨ c = '_' then go c rest
      else if c = '-' ∨ ('1' ≤ c ∧ c ≤ '9') then some (c :: rest)
      else if c = '.' then some (last :: c :: rest)
      else none

def dropZeroFraction (cs : Text) : Text :=
  let whole := cs.takeWhile (· ≠ .char '.')
  let fraction := cs.drop (whole.length + 1)
  if !fraction.isEmpty && fraction.all (· = .char '0') then whole else cs

def dropUnderscores? (cs : Text) : Option Text :=
  if startsWith cs "_" || endsWith cs "_" || holds "__" cs || !cs.contains '_' then none
  else some (cs.filter (· ≠ .char '_'))

def plainInteger? (cs : Text) : Option Int :=
  let (negative, digits) := match cs with
    | .char '-' :: rest => (true, rest)
    | rest => (false, rest)
  if digits.isEmpty || !digits.all CodePoint.isDigit
      || (startsWith digits "0" && digits.length != 1) then none
  else some (if negative then -(Number.natOfChars digits : Int) else Number.natOfChars digits)

/-- Zeros in front are dropped behind a minus as well. -/
def dropSignedZeros : Text → Option Text
  | .char '-' :: rest => (dropZeros rest).map ('-' :: ·)
  | cs => dropZeros cs

/-- An integer spelled with white space around it, a sign, zeros in front, single underscores or a
fraction of zeros. -/
def integerSpelled (cs : Text) : Checked Int :=
  let unsigned := match trimWhite cs with
    | .char '+' :: .char '-' :: _ => []
    | .char '+' :: rest => rest
    | rest => rest
  match dropSignedZeros unsigned with
  | none => .flawed .integerForm
  | some digits =>
    let whole := dropZeroFraction digits
    let plain := (dropUnderscores? whole).getD whole
    match plainInteger? plain with
    | none => .flawed .integerForm
    | some n =>
      if Number.digitLimit < (plain.filter CodePoint.isDigit).length then .flawed .integerSize
      else .accepted n

def integerOfDecimal (x : Decimal) : Checked Int :=
  if !x.isFinite then .flawed .notFinite
  else match x.toInt? with
    | none => .flawed .fraction
    | some n => if -machineBound < n ∧ n < machineBound then .accepted n else .flawed .integerSize

def integer (v : Value) : Checked Int :=
  match v with
  | .int n => .accepted n
  | .bool b => .accepted (if b then 1 else 0)
  | .float x => integerOfDecimal x
  | _ =>
    match spelling v with
    | .word cs => integerSpelled cs
    | .noText => .flawed .integerForm
    | .noCharacters => .flawed .notUnicode
    | .nothing => .flawed .notInteger

def floatSpelled (cs : Text) : Checked Float :=
  match Number.float? (trimWhite cs) with
  | some x => .accepted x
  | none =>
    match (dropUnderscores? cs).bind Number.float? with
    | some x => .accepted x
    | none => .flawed .numberForm

def falseWords : List Text := ["0", "off", "f", "false", "n", "no"]

def trueWords : List Text := ["1", "on", "t", "true", "y", "yes"]

def truthSpelled (cs : Text) : Checked Bool :=
  let word : Text := cs.map CodePoint.toLower
  if word ∈ falseWords then .accepted false
  else if word ∈ trueWords then .accepted true
  else .flawed .truthForm

def truthOfInt (n : Int) : Checked Bool :=
  if n = 0 then .accepted false else if n = 1 then .accepted true else .flawed .truthForm

def truth (v : Value) : Checked Bool :=
  match v with
  | .bool b => .accepted b
  | .int n => if -machineBound ≤ n ∧ n < machineBound then truthOfInt n else .flawed .notTruth
  | .float x =>
    match integerOfDecimal x with
    | .accepted n => truthOfInt n
    | .refused _ => .flawed .notTruth
  | _ =>
    match spelling v with
    | .word cs => truthSpelled cs
    | .noText => .flawed .truthForm
    | .noCharacters => .flawed .notUnicode
    | .nothing => .flawed .notTruth

end ApiModel.Validation

import ApiModel.Document.Value
import ApiModel.Text.Case
import ApiModel.Text.Segment
import ApiModel.Yaml.Resolution
import ApiModel.Yaml.Fault

/-! The values that scalars of known tags stand for. -/
namespace ApiModel.Yaml

def boolContent (text : Text) : Except Fault Value :=
  let word := Text.lower text
  if word = "yes" ∨ word = "true" ∨ word = "on" then .ok (.bool true)
  else if word = "no" ∨ word = "false" ∨ word = "off" then .ok (.bool false)
  else .error .unknownWord

def signed (text : Text) : Except Fault (Bool × Text) :=
  match text.filter (· ≠ .char '_') with
  | [] => .error .emptyNumber
  | cs => .ok (Number.signed cs)

def intIn (base : Nat) (text : Text) : Except Fault Int :=
  match Number.integerIn? base text with
  | some n => .ok n
  | none => .error .scalarRange

/-- Decimal digits; a zero in front means base eight, and letters behind it other bases. Groups
between colons count sixties. -/
def intMagnitude (cs : Text) : Except Fault Int :=
  match cs with
  | [] => .error .emptyNumber
  | [.char '0'] => .ok 0
  | .char '0' :: .char 'b' :: rest => intIn 2 rest
  | .char '0' :: .char 'x' :: rest => intIn 16 rest
  | .char '0' :: rest => intIn 8 ('0' :: rest)
  | cs =>
    if cs.contains ':' then do
      let groups ← (Text.split ':' cs).mapM (intIn 10)
      return groups.foldl (fun n d => 60 * n + d) 0
    else
      intIn 10 cs

def intContent (text : Text) : Except Fault Value := do
  let (negative, cs) ← signed text
  let n ← intMagnitude cs
  return .int (if negative then -n else n)

def decimalFloat (text : Text) : Except Fault Float :=
  match Number.floatOfAnyScript? text with
  | some x => .ok x
  | none => .error .scalarRange

/-- Adds groups to a sum, the last one first, each weighing sixty times the one before. A weight
that is no decimal any more is a fault. -/
def sixtyFloat (sum : Float) (weight : Nat) : List Float → Except Fault Float
  | [] => .ok sum
  | d :: rest =>
    let factor := Number.nearest false weight 1
    if factor.isInf then .error .groupOverflow
    else sixtyFloat (sum + d * factor) (60 * weight) rest

/-- A decimal; an undefined one that is spelled out belongs to its node. -/
def floatContent (node : Nat) (text : Text) : Except Fault Value := do
  let (negative, cs) ← signed (Text.lower text)
  let sign := fun (x : Float) => Value.float (.of (.node node) (if negative then -x else x))
  if cs = ".inf" then
    return sign (Number.infinity false)
  else if cs = ".nan" then
    return .float (.undefined .mark)
  else if cs.contains ':' then do
    let groups ← (Text.split ':' cs).mapM decimalFloat
    return sign (← sixtyFloat 0 1 groups.reverse)
  else do
    return sign (← decimalFloat cs)

def timeContent (text : Text) : Except Fault Value :=
  match timeParts? (dropLineFeed text) with
  | none => .error .notTime
  | some parts =>
    match Date.of? parts.year parts.month parts.day, parts.time with
    | none, _ => .error .scalarRange
    | some date, none => .ok (.date date)
    | some date, some (hour, minute, second) =>
      let digits := (parts.fraction ++ Text.fill 6 '0').take 6
      let offset : Option Int := parts.zone.map fun z =>
        let minutes : Int := z.2.1 * 60 + z.2.2
        if z.1 then -minutes else minutes
      if hour < 24 && minute < 60 && second < 60 && (offset.getD 0).natAbs < 1440 then
        .ok (.moment ⟨date, hour, minute, second, Number.natOfChars digits, offset⟩)
      else
        .error .scalarRange

def sixBits? (c : CodePoint) : Option Nat :=
  if 'A' ≤ c ∧ c ≤ 'Z' then some (c.toNat - 65)
  else if 'a' ≤ c ∧ c ≤ 'z' then some (c.toNat - 71)
  else if c.isDigit then some (c.toNat + 4)
  else if c = '+' then some 62
  else if c = '/' then some 63
  else none

/-- Decodes groups of four characters. `held` counts the characters of the open group, `pads` the
padding signs in it. Other characters are skipped; padding that completes a group ends the data. -/
def base64Bytes (held pads left : Nat) : Text → Except Fault (List UInt8)
  | [] => if held == 0 then .ok [] else .error .malformed
  | c :: rest =>
    if c = '=' then
      if 2 ≤ held && 4 ≤ held + pads + 1 then .ok []
      else base64Bytes held (if 2 ≤ held then pads + 1 else pads) left rest
    else
      match sixBits? c with
      | none => base64Bytes held pads left rest
      | some bits =>
        match held with
        | 0 => base64Bytes 1 0 bits rest
        | 1 => (base64Bytes 2 0 (bits % 16) rest).map (UInt8.ofNat (left * 4 + bits / 16) :: ·)
        | 2 => (base64Bytes 3 0 (bits % 4) rest).map (UInt8.ofNat (left * 16 + bits / 4) :: ·)
        | _ => (base64Bytes 0 0 0 rest).map (UInt8.ofNat (left * 64 + bits) :: ·)

def binaryContent (text : Text) : Except Fault Value :=
  if text.all (·.toNat < 128) then (base64Bytes 0 0 0 text).map .bytes
  else .error .malformed

/-- The value of a scalar; `node` is the number of its node. -/
def scalarContent (node : Nat) (tag : Tag) (text : Text) : Except Fault Value :=
  match tag with
  | .str => .ok (.str text)
  | .null => .ok .null
  | .bool => boolContent text
  | .int => intContent text
  | .float => floatContent node text
  | .timestamp => timeContent text
  | .binary => binaryContent text
  | _ => .error .malformed

end ApiModel.Yaml

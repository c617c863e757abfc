import ApiModel.Number.Binary
import ApiModel.Text.Blank
import ApiModel.Text.Digit

/-! Numbers from text: integers in digits of any script and of several bases, and decimals rounded
to the nearest binary number. -/
namespace ApiModel.Number

open Text

def ofDigits (base : Nat) (digits : List Nat) : Nat :=
  digits.foldl (fun n d => base * n + d) 0

/-- The value of a digit; above nine they are letters. -/
def digitIn? (base : Nat) (c : CodePoint) : Option Nat :=
  match digitValue? c <|> c.hexDigit? with
  | some d => if d < base then some d else none
  | none => none

def digits? (base : Nat) : Text → Option (List Nat)
  | [] => none
  | [c] => (digitIn? base c).map ([·])
  | c :: .char '_' :: rest => do
    let d ← digitIn? base c
    return d :: (← digits? base rest)
  | c :: rest => do
    let d ← digitIn? base c
    return d :: (← digits? base rest)

def digitLimit : Nat := 4300

def isLong (n : Int) : Bool := decide (tenTo digitLimit ≤ n.natAbs)

def signed : Text → Bool × Text
  | .char '-' :: cs => (true, cs)
  | .char '+' :: cs => (false, cs)
  | cs => (false, cs)

def baseLetter? : Nat → Option CodePoint
  | 2 => some 'b'
  | 8 => some 'o'
  | 16 => some 'x'
  | _ => none

/-- Drops the mark of a base, and one underscore behind it. -/
def dropBaseMark (base : Nat) : Text → Text
  | .char '0' :: c :: rest =>
    if some c.toLower = baseLetter? base then
      match rest with
      | .char '_' :: digits => digits
      | digits => digits
    else .char '0' :: c :: rest
  | cs => cs

/-- An integer in some base, with an optional sign and mark and white space around it. Only rows of
decimal digits have a limit. -/
def integerIn? (base : Nat) (text : Text) : Option Int :=
  let (negative, body) := signed (trimWhite text)
  match digits? base (dropBaseMark base body) with
  | some ds =>
    if base = 10 ∧ digitLimit < ds.length then none
    else some (if negative then -(ofDigits base ds : Int) else ofDigits base ds)
  | none => none

def integer? (text : Text) : Option Int := integerIn? 10 text

/-- `digits · 10 ^ exponent` as the nearest number. Exponents far outside the range are cut first,
so the powers stay small. -/
def ofDecimal (negative : Bool) (digits : Nat) (exponent : Int) : Float :=
  let size : Int := (Nat.toDigits 10 digits).length
  if digits == 0 then nearest negative 0 1
  else if 400 < size + exponent then infinity negative
  else if size + exponent < -400 then nearest negative 0 1
  else if 0 ≤ exponent then nearest negative (digits * tenTo exponent.toNat) 1
  else nearest negative digits (tenTo (-exponent).toNat)

def spanDigits (cs : Text) : Text × Text :=
  (cs.takeWhile CodePoint.isDigit, cs.dropWhile CodePoint.isDigit)

def natOfChars (cs : Text) : Nat :=
  ofDigits 10 (cs.map fun c => c.toNat - 48)

def exponent? : Text → Option Int
  | [] => some 0
  | c :: rest =>
    if c = 'e' ∨ c = 'E' then
      let (negative, body) := signed rest
      let (ds, tail) := spanDigits body
      if ds.isEmpty || !tail.isEmpty then none
      else some (if negative then -(natOfChars ds : Int) else natOfChars ds)
    else
      none

/-- A decimal with an optional sign, fraction and exponent, at least one digit in front of the
exponent, or a word for an infinite or undefined number in any case. -/
def float? (cs : Text) : Option Float :=
  let (negative, body) := signed cs
  let word : Text := body.map CodePoint.toLower
  if word = "inf" ∨ word = "infinity" then some (infinity negative)
  else if word = "nan" then some notANumber
  else
    let (whole, rest) := spanDigits body
    let (fraction, rest) := match rest with
      | .char '.' :: rest => spanDigits rest
      | rest => ([], rest)
    if whole.isEmpty && fraction.isEmpty then none
    else (exponent? rest).map fun e =>
      ofDecimal negative (natOfChars (whole ++ fraction)) (e - fraction.length)

def floatOfAnyScript? (text : Text) : Option Float :=
  float? ((trimWhite text).map fun c =>
    match digitValue? c with
    | some d => .ofNat (48 + d)
    | none => c)

end ApiModel.Number

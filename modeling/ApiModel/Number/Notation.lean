import ApiModel.Number.Shortest
import ApiModel.Text.Basic

/-! Numbers as text. A number is written with the fewest digits that read back, positionally for
exponents from -4 to 15 and with an exponent of at least two digits otherwise. -/
namespace ApiModel.Number

structure Style where
  leastPositional : Int
  firstScientific : Int
  exponentWidth : Nat
  infinite : Text
  notANumber : Text

def shown : Style := ⟨-4, 16, 2, "inf", "nan"⟩

def written : Style := ⟨-4, 16, 2, "Infinity", "NaN"⟩

/-- Digits with a point behind the first `whole` of them; always one digit on each side. -/
def positional (digits : Text) (whole : Int) : Text :=
  let n : Int := digits.length
  if whole ≤ 0 then "0." ++ Text.fill (-whole).toNat '0' ++ digits
  else if n ≤ whole then digits ++ Text.fill (whole - n).toNat '0' ++ ".0"
  else digits.take whole.toNat ++ "." ++ digits.drop whole.toNat

def scientific (style : Style) (digits : Text) (power : Int) : Text :=
  let lead : Text := match digits with
    | [] => []
    | [c] => [c]
    | c :: rest => c :: '.' :: rest
  lead ++ (if power < 0 then "e-" else "e+") ++
    Text.padLeft style.exponentWidth (.ofNat power.natAbs)

def magnitudeText (style : Style) (mantissa : Nat) (exponent : Int) : Text :=
  if mantissa == 0 then
    "0.0"
  else
    let d := shortest mantissa exponent
    let digits := Text.ofNat d.digits
    let power : Int := d.exponent + digits.length - 1
    if style.leastPositional ≤ power ∧ power < style.firstScientific then
      positional digits (power + 1)
    else
      scientific style digits power

def text (style : Style) (x : Float) : Text :=
  match decode x with
  | .notANumber => style.notANumber
  | .infinite negative => (if negative then "-" else "") ++ style.infinite
  | .finite b => (if b.negative then "-" else "") ++ magnitudeText style b.mantissa b.exponent

end ApiModel.Number

/-! Binary floating-point numbers as exact fractions: a finite number is a signed integer times a
power of two, and every fraction has one nearest number, ties going to the even mantissa. -/
namespace ApiModel.Number

def twoTo (n : Nat) : Nat := Nat.pow 2 n

def tenTo (n : Nat) : Nat := Nat.pow 10 n

/-- A finite number as `mantissa · 2 ^ exponent`. -/
structure Binary where
  negative : Bool
  mantissa : Nat
  exponent : Int

inductive Decoded where
  | finite (value : Binary)
  | infinite (negative : Bool)
  | notANumber

def leastExponent : Int := -1074

def decode (x : Float) : Decoded :=
  let bits : Nat := x.toBits.toNat
  let negative := bits / twoTo 63 == 1
  let field : Nat := bits / twoTo 52 % twoTo 11
  let fraction : Nat := bits % twoTo 52
  if field == 2047 then
    if fraction == 0 then .infinite negative else .notANumber
  else if field == 0 then
    .finite ⟨negative, fraction, leastExponent⟩
  else
    .finite ⟨negative, twoTo 52 + fraction, (field : Int) - 1075⟩

def isUndefined (x : Float) : Bool :=
  match decode x with
  | .notANumber => true
  | _ => false

def ofFields (negative : Bool) (field fraction : Nat) : Float :=
  Float.ofBits (UInt64.ofNat ((if negative then twoTo 63 else 0) + field * twoTo 52 + fraction))

def infinity (negative : Bool) : Float := ofFields negative 2047 0

def notANumber : Float := ofFields false 2047 (twoTo 51)

/-- Quotient rounded to the nearest integer, a half going to the even one. -/
def roundDiv (num den : Nat) : Nat :=
  let low := num / den
  let twice := 2 * (num % den)
  if twice < den then low
  else if den < twice then low + 1
  else if low % 2 == 0 then low else low + 1

def scaleFraction (num den : Nat) (exponent : Int) : Nat × Nat :=
  if 0 ≤ exponent then (num, den * twoTo exponent.toNat) else (num * twoTo (-exponent).toNat, den)

/-- The number nearest to `num / den`. -/
def nearest (negative : Bool) (num den : Nat) : Float :=
  if num == 0 then
    ofFields negative 0 0
  else
    let guess : Int := (num.log2 : Int) - den.log2 - 53
    let first := max leastExponent guess
    let (n, d) := scaleFraction num den first
    let exponent := if n / d < twoTo 53 then first else first + 1
    let (n, d) := scaleFraction num den exponent
    let mantissa := roundDiv n d
    let (mantissa, exponent) :=
      if mantissa == twoTo 53 then (twoTo 52, exponent + 1) else (mantissa, exponent)
    if 971 < exponent then infinity negative
    else if mantissa < twoTo 52 then ofFields negative 0 mantissa
    else ofFields negative (exponent + 1075).toNat (mantissa - twoTo 52)

def equalsInt (x : Float) (n : Int) : Bool :=
  match decode x with
  | .finite b =>
    let signed : Int := if b.negative then -b.mantissa else b.mantissa
    if 0 ≤ b.exponent then signed * twoTo b.exponent.toNat == n
    else signed == n * twoTo (-b.exponent).toNat
  | _ => false

def toInt? (x : Float) : Option Int :=
  match decode x with
  | .finite b =>
    let sign : Int := if b.negative then -1 else 1
    if 0 ≤ b.exponent then
      some (sign * (b.mantissa * twoTo b.exponent.toNat : Nat))
    else
      let unit := twoTo (-b.exponent).toNat
      if b.mantissa % unit == 0 then some (sign * (b.mantissa / unit : Nat)) else none
  | _ => none

end ApiModel.Number

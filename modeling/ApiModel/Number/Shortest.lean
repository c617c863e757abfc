import ApiModel.Number.Binary

/-! The shortest decimal of a number: of all decimals that read back as the number, one with the
fewest digits, and of those the nearest. -/
namespace ApiModel.Number

structure Scaled where
  digits : Nat
  exponent : Int

/-- The reals that read back as a number, all scaled by `4 · den`: the value, the ends of its
interval, and whether the ends belong to it. -/
structure Interval where
  low : Nat
  value : Nat
  high : Nat
  den : Nat
  closed : Bool

/-- Half the way to each neighbour; below a power of two the lower neighbour is nearer. -/
def Interval.of (mantissa : Nat) (exponent : Int) : Interval :=
  let unit := if 0 ≤ exponent then twoTo exponent.toNat else 1
  let den := if 0 ≤ exponent then 1 else twoTo (-exponent).toNat
  let below := if mantissa == twoTo 52 && leastExponent < exponent then 1 else 2
  ⟨(4 * mantissa - below) * unit, 4 * mantissa * unit, (4 * mantissa + 2) * unit, den,
    mantissa % 2 == 0⟩

def Interval.scale (i : Interval) (bound digits : Nat) (exponent : Int) : Nat × Nat :=
  if 0 ≤ exponent then (4 * digits * tenTo exponent.toNat * i.den, bound)
  else (4 * digits * i.den, bound * tenTo (-exponent).toNat)

def Interval.contains (i : Interval) (digits : Nat) (exponent : Int) : Bool :=
  let (d, low) := i.scale i.low digits exponent
  let (_, high) := i.scale i.high digits exponent
  if i.closed then low ≤ d && d ≤ high else low < d && d < high

def Interval.floor (i : Interval) (exponent : Int) : Nat :=
  if 0 ≤ exponent then i.value / (4 * i.den * tenTo exponent.toNat)
  else i.value * tenTo (-exponent).toNat / (4 * i.den)

/-- Of two neighbours on a grid around the value, the nearer; a tie goes to the even one. -/
def Interval.nearer (i : Interval) (low : Nat) (exponent : Int) : Nat :=
  let (twice, value) := i.scale (2 * i.value) (2 * low + 1) exponent
  if value < twice then low
  else if twice < value then low + 1
  else if low % 2 == 0 then low else low + 1

def Interval.onGrid? (i : Interval) (exponent : Int) : Option Scaled :=
  let low := i.floor exponent
  match i.contains low exponent, i.contains (low + 1) exponent with
  | true, true => some ⟨i.nearer low exponent, exponent⟩
  | true, false => some ⟨low, exponent⟩
  | false, true => some ⟨low + 1, exponent⟩
  | false, false => none

/-- Number of decimal digits before the point, not positive for numbers below one tenth. -/
def Interval.magnitude (i : Interval) : Int :=
  let guess : Int := ((i.value.log2 : Int) - (4 * i.den).log2) * 30103 / 100000
  if 1 ≤ i.floor (guess + 1) then guess + 2
  else if 1 ≤ i.floor guess then guess + 1
  else if 1 ≤ i.floor (guess - 1) then guess
  else guess - 1

/-- Drops trailing zeros; a number of `n` digits has at most `n` of them. -/
def Scaled.strip : Nat → Scaled → Scaled
  | 0, d => d
  | n + 1, d =>
    if d.digits != 0 && d.digits % 10 == 0 then Scaled.strip n ⟨d.digits / 10, d.exponent + 1⟩
    else d

/-- Coarser grids are tried first, so the first hit has the fewest digits. -/
def shortest (mantissa : Nat) (exponent : Int) : Scaled :=
  let i := Interval.of mantissa exponent
  let top := i.magnitude
  match (List.range 18).findSome? fun (n : Nat) => i.onGrid? (top - n) with
  | some d => d.strip 20
  | none => ⟨i.floor (top - 18), top - 18⟩

end ApiModel.Number

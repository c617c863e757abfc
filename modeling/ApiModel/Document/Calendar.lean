import ApiModel.Text.Basic

/-! Calendar dates and points in time, as documents may hold them, and their standard text. -/
namespace ApiModel

structure Date where
  year : Nat
  month : Nat
  day : Nat
  deriving DecidableEq, Repr

structure Moment where
  date : Date
  hour : Nat
  minute : Nat
  second : Nat
  micro : Nat
  offset : Option Int
  deriving DecidableEq, Repr

namespace Date

def isLeap (year : Nat) : Bool :=
  (year % 4 == 0 && year % 100 != 0) || year % 400 == 0

def daysIn (year month : Nat) : Nat :=
  match month with
  | 2 => if isLeap year then 29 else 28
  | 4 | 6 | 9 | 11 => 30
  | _ => 31

def of? (year month day : Nat) : Option Date :=
  if 1 ≤ year ∧ year ≤ 9999 ∧ 1 ≤ month ∧ month ≤ 12 ∧ 1 ≤ day ∧ day ≤ daysIn year month then
    some ⟨year, month, day⟩
  else
    none

def ordinal (d : Date) : Nat :=
  let y := d.year - 1
  365 * y + y / 4 - y / 100 + y / 400
    + (List.range (d.month - 1)).foldl (fun days m => days + daysIn d.year (m + 1)) 0 + d.day

/-- The date some days after the first of January 1970. Years are counted from March, so that a leap
day comes last. -/
def ofEpochDay (days : Nat) : Date :=
  let n := days + 719468
  let inCycle := n % 146097
  let yearOfCycle := (inCycle - inCycle / 1460 + inCycle / 36524 - inCycle / 146096) / 365
  let dayOfYear := inCycle - (365 * yearOfCycle + yearOfCycle / 4 - yearOfCycle / 100)
  let shifted := (5 * dayOfYear + 2) / 153
  let month := if shifted < 10 then shifted + 3 else shifted - 9
  let year := n / 146097 * 400 + yearOfCycle
  ⟨if month ≤ 2 then year + 1 else year, month, dayOfYear - (153 * shifted + 2) / 5 + 1⟩

def text (d : Date) : Text :=
  let pad := fun width n => Text.padLeft width (.ofNat n)
  pad 4 d.year ++ "-" ++ pad 2 d.month ++ "-" ++ pad 2 d.day

end Date

namespace Moment

def offsetText (minutes : Int) : Text :=
  let n := minutes.natAbs
  (if minutes < 0 then "-" else "+") ++ Text.padLeft 2 (.ofNat (n / 60)) ++ ":"
    ++ Text.padLeft 2 (.ofNat (n % 60))

def text (separator : Text) (t : Moment) : Text :=
  let pad := fun n => Text.padLeft 2 (.ofNat n)
  let fraction : Text := if t.micro == 0 then [] else "." ++ Text.padLeft 6 (.ofNat t.micro)
  t.date.text ++ separator ++ pad t.hour ++ ":" ++ pad t.minute ++ ":" ++ pad t.second ++ fraction
    ++ (t.offset.map offsetText).getD []

def ticks (t : Moment) : Int :=
  let minutes : Int := (t.date.ordinal * 24 + t.hour) * 60 + t.minute - t.offset.getD 0
  (minutes * 60 + t.second) * 1000000 + t.micro

/-- Two moments are the same if both have an offset and name one instant, or neither has one and
they read alike. -/
def same (a b : Moment) : Bool :=
  a.offset.isSome == b.offset.isSome && a.ticks == b.ticks

end Moment

end ApiModel

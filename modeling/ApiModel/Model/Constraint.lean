import ApiModel.Number.Decimal

/-! Ranges that lengths and numbers have to keep. Any end of a range may be open. -/
namespace ApiModel

structure LengthRange where
  minimum : Option Int
  maximum : Option Int
  deriving DecidableEq, Repr, Inhabited

namespace LengthRange

def unbounded : LengthRange := ⟨none, none⟩

def isBounded (r : LengthRange) : Bool := r.minimum.isSome || r.maximum.isSome

end LengthRange

inductive Bound where
  | int (n : Int)
  | float (x : Decimal)
  deriving Inhabited

/-- Bounds are compared by value, undefined ones by origin. -/
def Bound.same : Bound → Bound → Bool
  | int m, int n => m == n
  | int m, float y => y.equalsInt m
  | float x, int n => x.equalsInt n
  | float x, float y => x.same y

/-- A range of numbers. An exclusive end is not part of it. -/
structure NumericRange where
  minimum : Option Bound
  maximum : Option Bound
  exclusiveMinimum : Bool
  exclusiveMaximum : Bool
  deriving Inhabited

def sameOption {α : Type} (same : α → α → Bool) : Option α → Option α → Bool
  | none, none => true
  | some a, some b => same a b
  | _, _ => false

namespace NumericRange

def unbounded : NumericRange := ⟨none, none, false, false⟩

def isBounded (r : NumericRange) : Bool := r.minimum.isSome || r.maximum.isSome

def same (r s : NumericRange) : Bool :=
  sameOption Bound.same r.minimum s.minimum && sameOption Bound.same r.maximum s.maximum
    && r.exclusiveMinimum == s.exclusiveMinimum && r.exclusiveMaximum == s.exclusiveMaximum

end NumericRange

end ApiModel

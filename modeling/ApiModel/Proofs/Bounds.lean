import ApiModel.Model.Constraint

/-! Numbers by value. Bounds are the same if and only if they lie at the same point of the line,
whether they are exact or decimal, so being the same is an equivalence. -/
namespace ApiModel.Number

open Float.Model (UnpackedFloat)
open Float.Model.UnpackedFloat (Sign unpackMantissa unpackExponent unpackSign)

theorem twoTo_pos (n : Nat) : 0 < twoTo n := Nat.two_pow_pos n

theorem twoTo_add (m n : Nat) : twoTo (m + n) = twoTo m * twoTo n := Nat.pow_add 2 m n

/-! The fields of a number, read by `decode`, are those by which it is compared. -/

def isNegative : Sign → Bool
  | .negative => true
  | .positive => false

def ofUnpacked : UnpackedFloat → Decoded
  | .infinity sign => .infinite (isNegative sign)
  | .notANumber => .notANumber
  | .zero sign => .finite ⟨isNegative sign, 0, leastExponent⟩
  | .finite sign mantissa exponent _ => .finite ⟨isNegative sign, mantissa, exponent⟩

section Fields

variable (bits : BitVec 64)

theorem toNat_unpackMantissa :
    (@unpackMantissa .binary64 bits).toNat = bits.toNat % twoTo 52 := by
  simp [unpackMantissa, twoTo]

theorem toNat_unpackExponent :
    (@unpackExponent .binary64 bits).toNat = bits.toNat / twoTo 52 % twoTo 11 := by
  simp [unpackExponent, twoTo, Nat.shiftRight_eq_div_pow]

theorem toNat_unpackSign : (@unpackSign .binary64 bits).toNat = bits.toNat / twoTo 63 := by
  have bounded := bits.isLt
  delta unpackSign
  simp only [twoTo, Nat.shiftRight_eq_div_pow, BitVec.toNat_cast,
    BitVec.extractLsb_toNat, Nat.pow_eq]
  omega

theorem isNegative_ofBitVec (b : BitVec 1) : isNegative (.ofBitVec b) = (b.toNat == 1) := by
  revert b
  decide

theorem toNat_one_append {n : Nat} (b : BitVec n) : (1#1 ++ b).toNat = twoTo n + b.toNat := by
  rw [BitVec.toNat_append, ← Nat.shiftLeft_add_eq_or_of_lt b.isLt]
  simp [Nat.shiftLeft_eq, twoTo]

end Fields

theorem decode_eq (x : Float) : decode x = ofUnpacked x.toModel.unpack := by
  have mantissa := toNat_unpackMantissa x.toBits.toBitVec
  have exponent := toNat_unpackExponent x.toBits.toBitVec
  have sign := isNegative_ofBitVec (@unpackSign .binary64 x.toBits.toBitVec)
  have normal := toNat_one_append (@unpackMantissa .binary64 x.toBits.toBitVec)
  rw [toNat_unpackSign] at sign
  rw [mantissa] at normal
  have full : @unpackExponent .binary64 x.toBits.toBitVec = -1#11 ↔
      x.toBits.toNat / twoTo 52 % twoTo 11 = 2047 := by
    rw [← BitVec.toNat_inj, exponent]
    rfl
  have least : @unpackExponent .binary64 x.toBits.toBitVec = 0#11 ↔
      x.toBits.toNat / twoTo 52 % twoTo 11 = 0 := by
    rw [← BitVec.toNat_inj, exponent]
    rfl
  have none : @unpackMantissa .binary64 x.toBits.toBitVec = 0#52 ↔
      x.toBits.toNat % twoTo 52 = 0 := by
    rw [← BitVec.toNat_inj, mantissa]
    rfl
  have bits : x.toBits.toBitVec.toNat = x.toBits.toNat := rfl
  rw [bits] at mantissa exponent sign normal
  change _ = ofUnpacked (UnpackedFloat.unpack .binary64 x.toBits.toBitVec)
  simp only [decode, beq_iff_eq, ← full, ← least, ← none]
  delta UnpackedFloat.unpack
  dsimp only
  -- the cases of the exponent: all ones, all zeros, and the normal numbers
  by_cases large : @unpackExponent .binary64 x.toBits.toBitVec = -1#11
  · rw [if_pos large, if_pos large]
    by_cases empty : @unpackMantissa .binary64 x.toBits.toBitVec = 0#52
    · rw [if_pos empty, if_pos empty]
      exact congrArg _ sign.symm
    · rw [if_neg empty, if_neg empty]
      rfl
  · rw [if_neg large, if_neg large]
    by_cases small : @unpackExponent .binary64 x.toBits.toBitVec = 0#11
    · rw [if_pos small, if_pos small]
      by_cases empty : @unpackMantissa .binary64 x.toBits.toBitVec = 0#52
      · rw [dif_pos empty]
        change Decoded.finite _ = .finite ⟨_, 0, _⟩
        rw [sign, none.1 empty]
      · rw [dif_neg empty]
        change Decoded.finite _ = .finite ⟨isNegative _, _, _⟩
        rw [sign, mantissa, exponent, least.1 small]
        rfl
    · rw [if_neg small, if_neg small]
      change Decoded.finite _ = .finite ⟨isNegative _, _, _⟩
      rw [sign, normal, exponent]
      rfl

/-- The mantissa has its full length, unless the exponent is the least one. -/
structure Binary.Canonical (b : Binary) : Prop where
  short : b.mantissa < twoTo 53
  least : leastExponent ≤ b.exponent
  full : leastExponent < b.exponent → twoTo 52 ≤ b.mantissa

theorem canonical_of_decode {x : Float} {b : Binary} (h : decode x = .finite b) : b.Canonical := by
  have short : x.toBits.toNat % twoTo 52 < twoTo 52 := Nat.mod_lt _ (twoTo_pos 52)
  have double : twoTo 53 = twoTo 52 + twoTo 52 := rfl
  simp only [decode, beq_iff_eq] at h
  split at h
  · split at h <;> cases h
  · split at h
    · cases h
      exact ⟨by simp only; omega, Int.le_refl _, fun less => absurd less (Int.lt_irrefl _)⟩
    · cases h
      refine ⟨by simp only; omega, ?_, fun _ => Nat.le_add_right _ _⟩
      simp only [leastExponent]
      omega

def Binary.units (b : Binary) : Int :=
  (if b.negative then -1 else 1) * (b.mantissa * twoTo (b.exponent - leastExponent).toNat : Nat)

theorem exponent_le_of_magnitude_eq {a b : Binary} (ha : a.Canonical) (hb : b.Canonical)
    (h : a.mantissa * twoTo (a.exponent - leastExponent).toNat =
      b.mantissa * twoTo (b.exponent - leastExponent).toNat) : b.exponent ≤ a.exponent := by
  have shortA := ha.short
  have leastA := ha.least
  have leastB := hb.least
  by_cases less : a.exponent < b.exponent
  · exfalso
    have full : twoTo 52 ≤ b.mantissa := hb.full (by omega)
    have more : (b.exponent - leastExponent).toNat =
        (a.exponent - leastExponent).toNat + ((b.exponent - a.exponent).toNat - 1 + 1) := by omega
    have double : twoTo 53 = twoTo 52 * 2 := rfl
    rw [more, twoTo_add, ← Nat.mul_assoc, Nat.mul_right_comm] at h
    have shifted := Nat.eq_of_mul_eq_mul_right (twoTo_pos _) h
    have grown : 2 ≤ twoTo ((b.exponent - a.exponent).toNat - 1 + 1) := by
      rw [twoTo_add]
      exact Nat.le_mul_of_pos_left 2 (twoTo_pos _)
    have large := Nat.mul_le_mul full grown
    omega
  · omega

/-- Two finite numbers that compare as equal: zeros may differ in sign. -/
def Binary.Equal (a b : Binary) : Prop :=
  a.exponent = b.exponent ∧ a.mantissa = b.mantissa ∧ (a.mantissa = 0 ∨ a.negative = b.negative)

theorem units_eq_iff {a b : Binary} (ha : a.Canonical) (hb : b.Canonical) :
    a.units = b.units ↔ a.Equal b := by
  have posA := twoTo_pos (a.exponent - leastExponent).toNat
  have posB := twoTo_pos (b.exponent - leastExponent).toNat
  constructor
  · intro h
    have magnitude : a.mantissa * twoTo (a.exponent - leastExponent).toNat =
        b.mantissa * twoTo (b.exponent - leastExponent).toNat := by
      unfold Binary.units at h
      split at h <;> split at h <;> omega
    have exponent : a.exponent = b.exponent :=
      Int.le_antisymm (exponent_le_of_magnitude_eq hb ha magnitude.symm)
        (exponent_le_of_magnitude_eq ha hb magnitude)
    have mantissa : a.mantissa = b.mantissa := by
      rw [exponent] at magnitude
      exact Nat.eq_of_mul_eq_mul_right posB magnitude
    refine ⟨exponent, mantissa, ?_⟩
    by_cases zero : a.mantissa = 0
    · exact .inl zero
    · right
      have some : 0 < a.mantissa * twoTo (a.exponent - leastExponent).toNat :=
        Nat.mul_pos (by omega) posA
      unfold Binary.units at h
      rw [← magnitude] at h
      cases ofA : a.negative <;> cases ofB : b.negative <;> simp [ofA, ofB] at h ⊢ <;> omega
  · rintro ⟨exponent, mantissa, zero | sign⟩
    · have zero' : b.mantissa = 0 := mantissa ▸ zero
      simp [Binary.units, zero, zero']
    · simp [Binary.units, exponent, mantissa, sign]

/-- Numbers that compare as equal. An undefined one equals none. -/
def Decoded.Equal : Decoded → Decoded → Prop
  | .finite a, .finite b => a.Equal b
  | .infinite s, .infinite t => s = t
  | _, _ => False

theorem compare_unpacked_iff (u v : UnpackedFloat) :
    u.compare v = some .eq ↔ (ofUnpacked u).Equal (ofUnpacked v) := by
  cases u with
  | notANumber =>
    dsimp only [UnpackedFloat.compare, ofUnpacked, Decoded.Equal]
    simp
  | infinity s =>
    cases v with
    | infinity t =>
      cases s <;> cases t <;> dsimp only [ofUnpacked, Decoded.Equal, isNegative] <;> decide
    | _ =>
      cases s <;> dsimp only [UnpackedFloat.compare, ofUnpacked, Decoded.Equal] <;> simp
  | zero s =>
    cases v with
    | infinity t =>
      cases t <;> dsimp only [UnpackedFloat.compare, ofUnpacked, Decoded.Equal] <;> simp
    | finite t n f positive =>
      have distinct : 0 ≠ n := by omega
      cases t <;> dsimp only [UnpackedFloat.compare, ofUnpacked, Decoded.Equal, Binary.Equal] <;>
        simp [distinct]
    | _ =>
      dsimp only [UnpackedFloat.compare, ofUnpacked, Decoded.Equal, Binary.Equal]
      simp
  | finite s m e some =>
    have distinct : m ≠ 0 := by omega
    cases v with
    | finite t n f positive =>
      cases s <;> cases t <;>
        dsimp only [UnpackedFloat.compare, ofUnpacked, Decoded.Equal, Binary.Equal, isNegative] <;>
        simp [distinct]
    | infinity t =>
      cases s <;> cases t <;> dsimp only [UnpackedFloat.compare, ofUnpacked, Decoded.Equal] <;> simp
    | _ =>
      cases s <;> dsimp only [UnpackedFloat.compare, ofUnpacked, Decoded.Equal, Binary.Equal] <;>
        simp [distinct]

theorem beq_iff (x y : Float) : (x == y) = true ↔ (decode x).Equal (decode y) := by
  rw [decode_eq, decode_eq, ← compare_unpacked_iff]
  change (_ == some Ordering.eq) = true ↔ _
  exact beq_iff_eq

theorem equalsInt_iff (x : Float) (n : Int) :
    equalsInt x n = true ↔ ∃ b, decode x = .finite b ∧ b.units = n * twoTo 1074 := by
  unfold equalsInt
  cases found : decode x with
  | infinite s =>
    generalize (n * twoTo 1074 : Int) = units
    simp
  | notANumber =>
    generalize (n * twoTo 1074 : Int) = units
    simp
  | finite b =>
    have least := (canonical_of_decode found).least
    have signed : b.units = (if b.negative then -(b.mantissa : Int) else b.mantissa) *
        twoTo (b.exponent - leastExponent).toNat := by
      unfold Binary.units
      rw [Int.natCast_mul]
      split
      · rw [Int.neg_mul, Int.one_mul, Int.neg_mul]
      · rw [Int.one_mul]
    simp only [Decoded.finite.injEq, exists_eq_left', signed]
    generalize (if b.negative then -(b.mantissa : Int) else b.mantissa) = m
    have pos (k : Nat) : (twoTo k : Int) ≠ 0 := by
      have := twoTo_pos k
      omega
    split
    · have shifted : (b.exponent - leastExponent).toNat = b.exponent.toNat + 1074 := by
        simp only [leastExponent] at *
        omega
      rw [shifted, twoTo_add, beq_iff_eq, Int.natCast_mul, ← Int.mul_assoc]
      exact (Int.mul_eq_mul_right_iff (pos 1074)).symm
    · have shifted : 1074 = (-b.exponent).toNat + (b.exponent - leastExponent).toNat := by
        simp only [leastExponent] at *
        omega
      rw [shifted, twoTo_add, beq_iff_eq, Int.natCast_mul, ← Int.mul_assoc]
      exact (Int.mul_eq_mul_right_iff (pos _)).symm

end ApiModel.Number

namespace ApiModel

open Number (Decoded Binary twoTo)

/-- Where a bound lies: at a point of the line, at one of its ends, or nowhere. -/
inductive Point where
  | number (units : Int)
  | infinite (negative : Bool)
  | undefined (origin : Number.Origin)

def Decimal.point : Decimal → Point
  | known x _ =>
    match Number.decode x with
    | .finite b => .number b.units
    | .infinite negative => .infinite negative
    | .notANumber => .undefined .word
  | undefined origin => .undefined origin

def Bound.point : Bound → Point
  | int n => .number (n * twoTo 1074)
  | float x => x.point

theorem decode_ne_of_defined {x : Float} (defined : Number.isUndefined x = false) :
    Number.decode x ≠ .notANumber := by
  intro h
  simp [Number.isUndefined, h] at defined

theorem Decimal.same_iff (a b : Decimal) : a.same b = true ↔ a.point = b.point := by
  cases a with
  | undefined origin =>
    cases b with
    | undefined other => simp [same, point]
    | known y defined =>
      have number := decode_ne_of_defined defined
      cases found : Number.decode y <;> simp_all [same, point]
  | known x defined =>
    have number := decode_ne_of_defined defined
    cases b with
    | undefined other => cases found : Number.decode x <;> simp_all [same, point]
    | known y defined' =>
      have number' := decode_ne_of_defined defined'
      rw [same, Number.beq_iff]
      cases left : Number.decode x <;> cases right : Number.decode y <;>
        simp_all [point, Decoded.Equal]
      exact (Number.units_eq_iff (Number.canonical_of_decode left)
        (Number.canonical_of_decode right)).symm

theorem Decimal.equalsInt_iff (x : Decimal) (n : Int) :
    x.equalsInt n = true ↔ x.point = .number (n * twoTo 1074) := by
  cases x with
  | undefined origin =>
    generalize (n * twoTo 1074 : Int) = units
    simp [equalsInt, point]
  | known x defined =>
    rw [equalsInt, Number.equalsInt_iff, point]
    generalize (n * twoTo 1074 : Int) = units
    cases Number.decode x <;> simp

theorem Bound.same_iff (a b : Bound) : a.same b = true ↔ a.point = b.point := by
  have one : (twoTo 1074 : Int) ≠ 0 := by
    have := Number.twoTo_pos 1074
    omega
  cases a with
  | int m =>
    cases b with
    | int n => rw [same, point, point, beq_iff_eq, Point.number.injEq, Int.mul_eq_mul_right_iff one]
    | float y => rw [same, Decimal.equalsInt_iff, point, point, eq_comm]
  | float x =>
    cases b with
    | int n => rw [same, Decimal.equalsInt_iff, point, point]
    | float y => rw [same, Decimal.same_iff, point, point]

end ApiModel

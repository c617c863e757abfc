import ApiModel.Compile.Primitive
import ApiModel.Proofs.Bounds
import ApiModel.Proofs.SchemaReading

/-! Bounds of numbers, as a document writes them and as a field keeps them. A field has one bound at
each end, so of a plain bound and an exclusive one at the same end only the exclusive one is kept.
Nothing is lost as long as it is the tighter one. -/
namespace ApiModel

/-! What it is to be in a range. -/

/-- Whether a point of the line lies before another, or at the same place unless this is to be
strict. Nothing lies before or behind an undefined number. -/
def Point.Precedes (strict : Bool) : Point → Point → Prop
  | .number m, .number n => if strict then m < n else m ≤ n
  | .infinite negative, .number _ => negative = true
  | .number _, .infinite negative => negative = false
  | .infinite a, .infinite b => (a = true ∧ b = false) ∨ (strict = false ∧ a = b)
  | _, _ => False

/-- An integer that is not less than a bound, or greater if the bound is exclusive. -/
def IsAbove (v : Int) (strict : Bool) (bound : Int) : Prop :=
  if strict then bound < v else bound ≤ v

/-- An integer that is not greater than a bound, or less if the bound is exclusive. -/
def IsBelow (v : Int) (strict : Bool) (bound : Int) : Prop :=
  if strict then v < bound else v ≤ bound

theorem precedes_int (strict : Bool) (m n : Int) :
    (Bound.int m).point.Precedes strict (Bound.int n).point ↔ if strict then m < n else m ≤ n := by
  have one : (0 : Int) < Number.twoTo 1074 := by
    have := Number.twoTo_pos 1074
    omega
  unfold Bound.point Point.Precedes
  dsimp only
  generalize (Number.twoTo 1074 : Int) = unit at one
  cases strict with
  | true => exact Int.mul_lt_mul_right one
  | false => exact Int.mul_le_mul_right one

namespace NumericRange

def AdmitsLow (r : NumericRange) (v : Int) : Prop :=
  ∀ b ∈ r.minimum, b.point.Precedes r.exclusiveMinimum (Bound.int v).point

def AdmitsHigh (r : NumericRange) (v : Int) : Prop :=
  ∀ b ∈ r.maximum, (Bound.int v).point.Precedes r.exclusiveMaximum b.point

/-- An integer in the range. -/
def Admits (r : NumericRange) (v : Int) : Prop := r.AdmitsLow v ∧ r.AdmitsHigh v

end NumericRange

def Field.range? : Field → Option NumericRange
  | .integer range => some range
  | .long range => some range
  | .double range => some range
  | _ => none

/-! What is written about one end of a range. -/

namespace Schema

section Ends

variable {plain exclusive : Text} {entries : List (Value × Value)}

def isMarked (exclusive : Text) (entries : List (Value × Value)) : Bool :=
  match Value.get exclusive entries with
  | .bool b => b
  | _ => false

/-- All bounds that are written for one end are kept: the plain one, strictly if it is marked, and
the exclusive one. -/
def MeetsEnd (plain exclusive : Text) (entries : List (Value × Value)) (keeps : Bool → Int → Prop) :
    Prop :=
  (∀ n, Value.get plain entries = .int n → keeps (isMarked exclusive entries) n) ∧
    ∀ n, Value.get exclusive entries = .int n → keeps true n

/-- One end of a range in integers: a plain bound or none, and an exclusive one, a mark or
neither. -/
structure IsIntegerEnd (plain exclusive : Text) (entries : List (Value × Value)) : Prop where
  plain : Value.get plain entries = .null ∨ ∃ n, Value.get plain entries = .int n
  exclusive : Value.get exclusive entries = .null ∨ (∃ b, Value.get exclusive entries = .bool b) ∨
    ∃ n, Value.get exclusive entries = .int n

def integer? : Value → Option Int
  | .int n => some n
  | _ => none

theorem integer?_eq_some_iff {v : Value} {n : Int} : integer? v = some n ↔ v = .int n := by
  cases v <;> simp [integer?]

theorem facet_bound {v : Value} (name : Text) (origin : Number.Origin)
    (whole : v = .null ∨ ∃ n, v = .int n) :
    facet name (Validation.bound origin) v = .accepted ((integer? v).map Bound.int) := by
  rcases whole with rfl | ⟨n, rfl⟩
  · rfl
  · rfl

theorem rangeEnd_of_exclusive {n : Int} (given : Value.get exclusive entries = .int n) :
    rangeEnd plain exclusive entries = (.int n, true) := by
  rw [rangeEnd, given]

theorem rangeEnd_of_mark (whole : IsIntegerEnd plain exclusive entries)
    (single : ∀ n, Value.get exclusive entries ≠ .int n) :
    rangeEnd plain exclusive entries = (Value.get plain entries, isMarked exclusive entries) := by
  unfold rangeEnd isMarked
  rcases whole.exclusive with absent | ⟨b, marked⟩ | ⟨n, given⟩
  · rw [absent]
  · rw [marked]
  · exact absurd given (single n)

theorem facet_rangeEnd (name : Text) (origin : Number.Origin)
    (whole : IsIntegerEnd plain exclusive entries) :
    facet name (Validation.bound origin) (rangeEnd plain exclusive entries).1 =
      .accepted ((integer? (rangeEnd plain exclusive entries).1).map Bound.int) := by
  apply facet_bound
  by_cases given : ∃ n, Value.get exclusive entries = .int n
  · obtain ⟨n, given⟩ := given
    exact .inr ⟨n, by rw [rangeEnd_of_exclusive given]⟩
  · rw [rangeEnd_of_mark whole (not_exists.1 given)]
    exact whole.plain

theorem meetsEnd_iff_implied (whole : IsIntegerEnd plain exclusive entries)
    (keeps : Int → Bool → Int → Prop) :
    (∀ v, (∀ n ∈ integer? (rangeEnd plain exclusive entries).1,
        keeps v (rangeEnd plain exclusive entries).2 n) ↔
      MeetsEnd plain exclusive entries (keeps v)) ↔
    ∀ m n, Value.get plain entries = .int m → Value.get exclusive entries = .int n →
      ∀ v, keeps v true n → keeps v false m := by
  unfold MeetsEnd
  by_cases given : ∃ n, Value.get exclusive entries = .int n
  · obtain ⟨n, given⟩ := given
    have unmarked : isMarked exclusive entries = false := by rw [isMarked, given]
    have only {k : Int} : Value.get exclusive entries = .int k ↔ k = n := by
      rw [given, Value.int.injEq, eq_comm]
    rw [rangeEnd_of_exclusive given, unmarked]
    simp only [integer?, Option.mem_some_iff, forall_eq', only, forall_eq]
    constructor
    · rintro same m _ plain rfl v keeps
      exact ((same v).1 keeps).1 m plain
    · intro implied v
      exact ⟨fun keeps => ⟨fun m plain => implied m n plain rfl v keeps, keeps⟩, And.right⟩
  · have single := not_exists.1 given
    simp [rangeEnd_of_mark whole single, single, integer?_eq_some_iff]

theorem kept_of_meetsEnd (whole : IsIntegerEnd plain exclusive entries) {keeps : Bool → Int → Prop}
    (meets : MeetsEnd plain exclusive entries keeps) :
    ∀ n ∈ integer? (rangeEnd plain exclusive entries).1,
      keeps (rangeEnd plain exclusive entries).2 n := by
  intro n bound
  by_cases given : ∃ k, Value.get exclusive entries = .int k
  · obtain ⟨k, given⟩ := given
    rw [rangeEnd_of_exclusive given] at bound ⊢
    obtain rfl := Option.some.inj bound
    exact meets.2 k given
  · rw [rangeEnd_of_mark whole (not_exists.1 given)] at bound ⊢
    exact meets.1 n (integer?_eq_some_iff.1 bound)

end Ends

/-! Reading a numeric schema. -/

section Reading

variable {location : Location} {entries : List (Value × Value)} {notes : Notes}

/-- The entries of a schema whose type is an integer or a number. -/
structure IsNumeric (entries : List (Value × Value)) : Prop where
  unreferred : Pointer.of? entries = none
  single : unionPart? entries = none
  affirmed : Value.has "not" entries = false
  typed : typeName entries = .ok .integer ∨ typeName entries = .ok .number

def writtenRange (entries : List (Value × Value)) : NumericRange where
  minimum := (integer? (rangeEnd "minimum" "exclusiveMinimum" entries).1).map Bound.int
  maximum := (integer? (rangeEnd "maximum" "exclusiveMaximum" entries).1).map Bound.int
  exclusiveMinimum := (rangeEnd "minimum" "exclusiveMinimum" entries).2
  exclusiveMaximum := (rangeEnd "maximum" "exclusiveMaximum" entries).2

theorem readRange_eq (low : IsIntegerEnd "minimum" "exclusiveMinimum" entries)
    (high : IsIntegerEnd "maximum" "exclusiveMaximum" entries) :
    readRange location entries = .accepted (writtenRange entries) := by
  unfold readRange
  dsimp only
  rw [facet_rangeEnd "minimum" location.origin low, facet_rangeEnd "maximum" location.origin high]
  rfl

/-- A numeric schema with integer bounds is read, unless its format or description is no text. -/
theorem read_numeric (numeric : IsNumeric entries)
    (low : IsIntegerEnd "minimum" "exclusiveMinimum" entries)
    (high : IsIntegerEnd "maximum" "exclusiveMaximum" entries)
    (described : readNotes entries = .accepted notes) :
    read location (.map entries) = .ok (.integer notes (writtenRange entries)) ∨
      read location (.map entries) = .ok (.number notes (writtenRange entries)) := by
  rw [read_map, readMapBy, numeric.unreferred, numeric.single]
  dsimp only
  rw [if_neg (by simp [numeric.affirmed])]
  rcases numeric.typed with integer | number
  · left
    rw [integer]
    change readTypedBy read location entries .integer = _
    rw [readTypedBy, described, readRange_eq low high]
    rfl
  · right
    rw [number]
    change readTypedBy read location entries .number = _
    rw [readTypedBy, described, readRange_eq low high]
    rfl

theorem field_numeric (location : Location) (override : ModelOverride) (place : Text)
    (numeric : IsNumeric entries) (low : IsIntegerEnd "minimum" "exclusiveMinimum" entries)
    (high : IsIntegerEnd "maximum" "exclusiveMaximum" entries)
    (described : readNotes entries = .accepted notes) :
    ∃ schema field, read location (.map entries) = .ok schema ∧
      Compile.primitiveField override place schema = .ok field ∧
      field.range? = some (writtenRange entries) := by
  rcases read_numeric numeric low high described with done | done
  · refine ⟨_, _, done, rfl, ?_⟩
    split <;> rfl
  · exact ⟨_, _, done, rfl, rfl⟩

theorem admitsLow_iff (v : Int) : (writtenRange entries).AdmitsLow v ↔
    ∀ n ∈ integer? (rangeEnd "minimum" "exclusiveMinimum" entries).1,
      IsAbove v (rangeEnd "minimum" "exclusiveMinimum" entries).2 n := by
  simp only [NumericRange.AdmitsLow, writtenRange, Option.mem_def, Option.map_eq_some_iff,
    forall_exists_index, and_imp, forall_apply_eq_imp_iff₂, precedes_int, IsAbove]

theorem admitsHigh_iff (v : Int) : (writtenRange entries).AdmitsHigh v ↔
    ∀ n ∈ integer? (rangeEnd "maximum" "exclusiveMaximum" entries).1,
      IsBelow v (rangeEnd "maximum" "exclusiveMaximum" entries).2 n := by
  simp only [NumericRange.AdmitsHigh, writtenRange, Option.mem_def, Option.map_eq_some_iff,
    forall_exists_index, and_imp, forall_apply_eq_imp_iff₂, precedes_int, IsBelow]

/-- The lower bounds that are written hold of an integer. -/
def MeetsLow (entries : List (Value × Value)) (v : Int) : Prop :=
  MeetsEnd "minimum" "exclusiveMinimum" entries (IsAbove v)

/-- The upper bounds that are written hold of an integer. -/
def MeetsHigh (entries : List (Value × Value)) (v : Int) : Prop :=
  MeetsEnd "maximum" "exclusiveMaximum" entries (IsBelow v)

theorem admitsLow_of_meetsLow (low : IsIntegerEnd "minimum" "exclusiveMinimum" entries) {v : Int}
    (meets : MeetsLow entries v) : (writtenRange entries).AdmitsLow v :=
  (admitsLow_iff v).2 (kept_of_meetsEnd low meets)

theorem admitsHigh_of_meetsHigh (high : IsIntegerEnd "maximum" "exclusiveMaximum" entries) {v : Int}
    (meets : MeetsHigh entries v) : (writtenRange entries).AdmitsHigh v :=
  (admitsHigh_iff v).2 (kept_of_meetsEnd high meets)

theorem forall_admitsLow_iff (low : IsIntegerEnd "minimum" "exclusiveMinimum" entries) :
    (∀ v, (writtenRange entries).AdmitsLow v ↔ MeetsLow entries v) ↔
      ∀ m n, Value.get "minimum" entries = .int m → Value.get "exclusiveMinimum" entries = .int n →
        m ≤ n + 1 := by
  simp only [admitsLow_iff, MeetsLow]
  rw [meetsEnd_iff_implied low IsAbove]
  refine forall₄_congr fun m n _ _ => ?_
  simp only [IsAbove, if_true, Bool.false_eq_true, if_false]
  exact ⟨fun implied => implied (n + 1) (by omega), fun near v above => by omega⟩

theorem forall_admitsHigh_iff (high : IsIntegerEnd "maximum" "exclusiveMaximum" entries) :
    (∀ v, (writtenRange entries).AdmitsHigh v ↔ MeetsHigh entries v) ↔
      ∀ m n, Value.get "maximum" entries = .int m → Value.get "exclusiveMaximum" entries = .int n →
        n ≤ m + 1 := by
  simp only [admitsHigh_iff, MeetsHigh]
  rw [meetsEnd_iff_implied high IsBelow]
  refine forall₄_congr fun m n _ _ => ?_
  simp only [IsBelow, if_true, Bool.false_eq_true, if_false]
  refine ⟨fun implied => ?_, fun near v below => by omega⟩
  have := implied (n - 1) (by omega)
  omega

/-- The field of a numeric schema with integer bounds, in any mixture of the two ways to write an
exclusive one, is a field with a range, and that range admits every integer that meets all that is
written. At either end it admits no other exactly if no plain bound is tighter than an exclusive one
beside it. -/
theorem bounds_kept (location : Location) (override : ModelOverride) (place : Text)
    (numeric : IsNumeric entries) (low : IsIntegerEnd "minimum" "exclusiveMinimum" entries)
    (high : IsIntegerEnd "maximum" "exclusiveMaximum" entries)
    (described : readNotes entries = .accepted notes) :
    ∃ schema field range, read location (.map entries) = .ok schema ∧
      Compile.primitiveField override place schema = .ok field ∧ field.range? = some range ∧
      (∀ v, MeetsLow entries v → MeetsHigh entries v → range.Admits v) ∧
      ((∀ v, range.AdmitsLow v ↔ MeetsLow entries v) ↔
        ∀ m n, Value.get "minimum" entries = .int m →
          Value.get "exclusiveMinimum" entries = .int n →
          m ≤ n + 1) ∧
      ((∀ v, range.AdmitsHigh v ↔ MeetsHigh entries v) ↔
        ∀ m n, Value.get "maximum" entries = .int m →
          Value.get "exclusiveMaximum" entries = .int n →
          n ≤ m + 1) := by
  obtain ⟨schema, field, done, built, ranged⟩ :=
    field_numeric location override place numeric low high described
  exact ⟨schema, field, writtenRange entries, done, built, ranged,
    fun v above below => ⟨admitsLow_of_meetsLow low above, admitsHigh_of_meetsHigh high below⟩,
    forall_admitsLow_iff low, forall_admitsHigh_iff high⟩

def aboveFive (plain : Int) : List (Value × Value) :=
  [(.str "type", .str "integer"), (.str "minimum", .int plain), (.str "exclusiveMinimum", .int 5)]

theorem isNumeric_aboveFive (plain : Int) : IsNumeric (aboveFive plain) :=
  ⟨rfl, rfl, rfl, .inl rfl⟩

theorem isIntegerEnd_aboveFive (plain : Int) :
    IsIntegerEnd "minimum" "exclusiveMinimum" (aboveFive plain) :=
  ⟨.inr ⟨plain, rfl⟩, .inr (.inr ⟨5, rfl⟩)⟩

/-- Six is the least integer above five, so nothing is lost. -/
theorem bounds_kept_six :
    ∃ schema field range, read (.named "Age") (.map (aboveFive 6)) = .ok schema ∧
      Compile.primitiveField default "Age" schema = .ok field ∧ field.range? = some range ∧
      ∀ v, range.AdmitsLow v ↔ MeetsLow (aboveFive 6) v := by
  obtain ⟨schema, field, range, done, built, ranged, _, lowest, _⟩ :=
    bounds_kept (.named "Age") default "Age" (isNumeric_aboveFive 6) (isIntegerEnd_aboveFive 6)
      ⟨.inl rfl, .inl rfl⟩ rfl
  refine ⟨schema, field, range, done, built, ranged, lowest.2 ?_⟩
  intro m n plain exclusive
  cases plain
  cases exclusive
  decide

/-- Seven is in the range though at least ten is asked for. -/
theorem bound_lost_below_ten :
    ∃ schema field range, read (.named "Age") (.map (aboveFive 10)) = .ok schema ∧
      Compile.primitiveField default "Age" schema = .ok field ∧ field.range? = some range ∧
      range.Admits 7 ∧ ¬ MeetsLow (aboveFive 10) 7 := by
  obtain ⟨schema, field, done, built, ranged⟩ :=
    field_numeric (.named "Age") default "Age" (isNumeric_aboveFive 10) (isIntegerEnd_aboveFive 10)
      ⟨.inl rfl, .inl rfl⟩ rfl
  refine ⟨schema, field, _, done, built, ranged, ⟨?_, ?_⟩, ?_⟩
  · rw [admitsLow_iff]
    intro n bound
    cases bound
    exact show (5 : Int) < 7 by decide
  · intro b bound
    cases bound
  · intro meets
    have least : (10 : Int) ≤ 7 := meets.1 10 rfl
    omega

end Reading

end Schema

end ApiModel

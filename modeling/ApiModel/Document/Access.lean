import ApiModel.Document.Error

/-! Parts of document values. A part that is missing reads as null. -/
namespace ApiModel

namespace Value

def get (key : Text) (entries : List (Value × Value)) : Value :=
  (lookupText key entries).getD null

def has (key : Text) (entries : List (Value × Value)) : Bool :=
  (lookupText key entries).isSome

/-- The value under a text key, unless it stands for nothing. -/
def getPresent? (key : Text) (entries : List (Value × Value)) : Option Value :=
  (lookupText key entries).filter isPresent

/-- The value under a text key, unless it is null. -/
def getSome? (key : Text) (entries : List (Value × Value)) : Option Value :=
  match lookupText key entries with
  | some null => none
  | v => v

def mapping : Value → Except ReadError (List (Value × Value))
  | map entries => .ok entries
  | _ => .error (.shape .notMapping)

/-- The text of a value, unless an integer in it is too long to be written. -/
def shown (v : Value) : Except ReadError Text :=
  if v.hasLong then .error .longInteger else .ok v.display

/-- The items of a value that is not a list: keys of a mapping, characters of a text. -/
def looseItems : Value → Except ReadError (List Value)
  | map entries => .ok (entries.map Prod.fst)
  | str s => .ok (s.map fun c => str [c])
  | pair a b => .ok [a, b]
  | set items => .ok items
  | bytes data => .ok (data.map fun b => int b.toNat)
  | _ => .error (.shape .notIterable)

def items : Value → Except ReadError (List Value)
  | list items => .ok items
  | v => v.looseItems

theorem sizeOf_lookupText {key : Text} {entries : List (Value × Value)} {v : Value}
    (h : lookupText key entries = some v) : sizeOf v < sizeOf entries := by
  induction entries with
  | nil => simp [lookupText] at h
  | cons entry rest ih =>
    obtain ⟨k, w⟩ := entry
    by_cases e : k.isText key
    · simp only [lookupText, e, if_true, Option.some.injEq] at h
      subst h
      simp +arith
    · simp only [lookupText, e, Bool.false_eq_true, if_false] at h
      have := ih h
      simp only [List.cons.sizeOf_spec]
      omega

theorem sizeOf_getPresent? {key : Text} {entries : List (Value × Value)} {v : Value}
    (h : getPresent? key entries = some v) : sizeOf v < sizeOf entries := by
  obtain ⟨found, -⟩ := Option.filter_eq_some_iff.1 h
  exact sizeOf_lookupText found

theorem sizeOf_getSome? {key : Text} {entries : List (Value × Value)} {v : Value}
    (h : getSome? key entries = some v) : sizeOf v < sizeOf entries := by
  unfold getSome? at h
  split at h
  · contradiction
  · exact sizeOf_lookupText h

end Value

def Validation.Checked.orStop {α : Type} (subject : Validation.Subject)
    (c : Validation.Checked α) : Except ReadError α :=
  (c.toExcept subject).mapError .rejected

end ApiModel

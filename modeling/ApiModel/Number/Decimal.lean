import ApiModel.Number.Notation

/-! Decimals of a document: binary numbers, and undefined numbers that are told apart by where they
come from. An undefined number equals itself and no other. -/
namespace ApiModel.Number

inductive Origin where
  /-- The one that the words of a written document stand for. -/
  | word
  /-- The one that the marks of a block document stand for. -/
  | mark
  /-- Read from the text of a node, which may stand in several places. -/
  | node (id : Nat)
  /-- Read from a text in the data of a model. -/
  | data
  /-- Read from a text at some place of a document; the marks tell apart places of the same name. -/
  | place (marks : List Nat) (name : Text)
  deriving DecidableEq, Repr

end ApiModel.Number

namespace ApiModel

inductive Decimal where
  /-- A finite or infinite number. -/
  | known (x : Float) (defined : Number.isUndefined x = false)
  | undefined (origin : Number.Origin)

namespace Decimal

instance : Inhabited Decimal := ⟨undefined .word⟩

/-- The number that a reading gave; `origin` is where it would come from if it is undefined. -/
def of (origin : Number.Origin) (x : Float) : Decimal :=
  if defined : Number.isUndefined x = false then known x defined else undefined origin

def text (style : Number.Style) : Decimal → Text
  | known x _ => Number.text style x
  | undefined _ => style.notANumber

/-- Equality of numbers by value, and of undefined numbers by origin. -/
def same : Decimal → Decimal → Bool
  | known x _, known y _ => x == y
  | undefined a, undefined b => a == b
  | _, _ => false

def equalsInt : Decimal → Int → Bool
  | known x _, n => Number.equalsInt x n
  | undefined _, _ => false

def toInt? : Decimal → Option Int
  | known x _ => Number.toInt? x
  | undefined _ => none

def isZero : Decimal → Bool
  | known x _ => x == 0
  | undefined _ => false

def isFinite : Decimal → Bool
  | known x _ => x.isFinite
  | undefined _ => false

end Decimal

end ApiModel

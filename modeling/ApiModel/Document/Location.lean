import ApiModel.Number.Decimal

/-! Places of a document, as messages name them. -/
namespace ApiModel

/-- A place by its name; the marks tell apart places of the same name. -/
structure Location where
  name : Text
  marks : List Nat
  deriving DecidableEq, Repr

namespace Location

def named (name : Text) : Location := ⟨name, []⟩

def below (l : Location) (part : Text) : Location := { l with name := l.name ++ "/" ++ part }

def mark (l : Location) (n : Nat) : Location := { l with marks := n :: l.marks }

def origin (l : Location) : Number.Origin := .place l.marks l.name

end Location

end ApiModel

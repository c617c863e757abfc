import ApiModel.Container.OrderedMap

/-! Structures: types with members. Positions tell in which order members are declared. -/
namespace ApiModel

structure Member where
  valueType : Text
  position : Int
  required : Bool
  locationName : Option Text
  documentation : Option Text
  deriving DecidableEq, Repr, Inhabited

structure Structure where
  members : OrderedMap Member
  documentation : Option Text
  deriving Inhabited

namespace Structure

/-- Members by position; members with one position keep their order. -/
def orderedMembers (s : Structure) : List (Text × Member) :=
  sortBy (fun a b => decide (a.2.position ≤ b.2.position)) s.members.entries

/-- Whether the positions are exactly the numbers from zero on. -/
def hasContiguousPositions (s : Structure) : Bool :=
  let positions := sortBy (fun a b => decide (a ≤ b)) (s.members.values.map Member.position)
  positions == (List.range positions.length).map Int.ofNat

/-- Structures are the same if they have the same members, in any order. -/
def same (s t : Structure) : Bool :=
  s.members.sameBy (· == ·) t.members && s.documentation == t.documentation

end Structure

end ApiModel

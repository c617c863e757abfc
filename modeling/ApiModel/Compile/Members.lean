import ApiModel.Model.Structure

/-! Members of several sources in one structure. Positions follow the names, so they do not depend
on the order of the sources. -/
namespace ApiModel.Members

def numberFrom : Nat → List (Text × Member) → List (Text × Member)
  | _, [] => []
  | n, (name, member) :: rest => (name, { member with position := n }) :: numberFrom (n + 1) rest

@[simp] theorem keys_numberFrom (n : Nat) (l : List (Text × Member)) :
    (numberFrom n l).map Prod.fst = l.map Prod.fst := by
  induction l generalizing n with
  | nil => rfl
  | cons e rest ih => simp [numberFrom, ih]

/-- The members in the order of their names, with positions from zero on. -/
def renumber (members : OrderedMap Member) : OrderedMap Member where
  entries := numberFrom 0 members.sortedEntries
  nodup := by
    rw [keys_numberFrom]
    exact ((perm_sortByKey members.entries).map Prod.fst).nodup_iff.2 members.nodup

structure Merged where
  members : OrderedMap Member
  names : OrderedMap (List Text)

def Merged.add (m : Merged) (label : Text) (source : OrderedMap Member) : Merged :=
  let fresh := source.entries.filter fun e => !m.members.contains e.1
  ⟨fresh.foldl (fun members e => members.insert e.1 e.2) m.members,
    m.names.insert label ((m.names.get? label).getD [] ++ fresh.map Prod.fst)⟩

/-- Merges labelled sources; of several members with one name the first stays. -/
def merge (sources : List (Text × OrderedMap Member)) : Merged :=
  let all := sources.foldl (fun (m : Merged) s => m.add s.1 s.2) ⟨.empty, .empty⟩
  ⟨renumber all.members, all.names.mapVals sortTexts⟩

end ApiModel.Members

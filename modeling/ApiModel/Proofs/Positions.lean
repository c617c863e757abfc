import ApiModel.Compile.Members
import ApiModel.Proofs.Order
import ApiModel.Proofs.OrderedMap

/-! Positions of members. Members are ranked if their names ascend and each position is the rank of
its name; renumbered and merged members are, wherever they come from. -/
namespace ApiModel

namespace Members

/-- The names ascend, and numbering the members by their order changes nothing. -/
structure Ranked (members : OrderedMap Member) : Prop where
  ascending : members.keys.Pairwise (· < ·)
  numbered : numberFrom 0 members.entries = members.entries

theorem numberFrom_numberFrom (n : Nat) (l : List (Text × Member)) :
    numberFrom n (numberFrom n l) = numberFrom n l := by
  induction l generalizing n with
  | nil => rfl
  | cons entry rest ih => simp [numberFrom, ih]

theorem getElem?_numberFrom (n i : Nat) (l : List (Text × Member)) :
    (numberFrom n l)[i]? =
      l[i]?.map fun e => (e.1, { e.2 with position := ((n + i : Nat) : Int) }) := by
  induction l generalizing n i with
  | nil => simp [numberFrom]
  | cons entry rest ih =>
    cases i with
    | zero => simp [numberFrom]
    | succ i =>
      simp only [numberFrom, List.getElem?_cons_succ, ih]
      rw [show n + 1 + i = n + (i + 1) by omega]

theorem positions_numberFrom (n : Nat) (l : List (Text × Member)) :
    (numberFrom n l).map (fun e => e.2.position) = (List.range' n l.length).map Int.ofNat := by
  induction l generalizing n with
  | nil => rfl
  | cons entry rest ih =>
    simp only [numberFrom, List.map_cons, List.length_cons, List.range'_succ, ih]
    rfl

theorem ranked_renumber (members : OrderedMap Member) : Ranked (renumber members) where
  ascending := by
    unfold OrderedMap.keys renumber
    rw [keys_numberFrom]
    exact pairwise_keys_sortByKey members.nodup
  numbered := numberFrom_numberFrom 0 _

theorem mem_keys_renumber {members : OrderedMap Member} {key : Text} :
    key ∈ (renumber members).keys ↔ key ∈ members.keys := by
  unfold OrderedMap.keys renumber
  rw [keys_numberFrom]
  exact ((perm_sortByKey members.entries).map Prod.fst).mem_iff

theorem mem_numberFrom {n : Nat} {l : List (Text × Member)} {key : Text} {member : Member}
    (h : (key, member) ∈ numberFrom n l) :
    ∃ original, (key, original) ∈ l ∧ member = { original with position := member.position } := by
  obtain ⟨i, place⟩ := List.mem_iff_getElem?.1 h
  rw [getElem?_numberFrom] at place
  obtain ⟨⟨key', original⟩, found, same⟩ := Option.map_eq_some_iff.1 place
  simp only [Prod.mk.injEq] at same
  obtain ⟨rfl, rfl⟩ := same
  exact ⟨original, List.mem_of_getElem? found, rfl⟩

theorem get?_renumber {members : OrderedMap Member} {key : Text} {member : Member}
    (h : (renumber members).get? key = some member) :
    ∃ original, members.get? key = some original ∧
      member = { original with position := member.position } := by
  obtain ⟨original, listed, same⟩ := mem_numberFrom (OrderedMap.get?_eq_some_iff.1 h)
  refine ⟨original, ?_, same⟩
  exact OrderedMap.get?_eq_some_iff.2 ((perm_sortByKey _).mem_iff.1 listed)

theorem ranked_merge (sources : List (Text × OrderedMap Member)) :
    Ranked (merge sources).members :=
  ranked_renumber _

theorem get?_add {m : Merged} {label key : Text} {source : OrderedMap Member} {member : Member}
    (h : (m.add label source).members.get? key = some member) :
    source.get? key = some member ∨ m.members.get? key = some member := by
  rcases OrderedMap.mem_of_get?_foldl_insert h with fresh | old
  · exact .inl (OrderedMap.get?_eq_some_iff.2 (List.mem_of_mem_filter fresh))
  · exact .inr old

theorem get?_merge {sources : List (Text × OrderedMap Member)} {key : Text} {member : Member}
    (h : (merge sources).members.get? key = some member) :
    ∃ source ∈ sources, ∃ original, source.2.get? key = some original ∧
      member = { original with position := member.position } := by
  obtain ⟨original, found, same⟩ := get?_renumber h
  have origin : ∀ (l : List (Text × OrderedMap Member)) (m : Merged),
      (l.foldl (fun (m : Merged) s => m.add s.1 s.2) m).members.get? key = some original →
        (∃ source ∈ l, source.2.get? key = some original) ∨ m.members.get? key = some original := by
    intro l
    induction l with
    | nil => exact fun m found => .inr found
    | cons source rest ih =>
      intro m found
      rcases ih _ found with ⟨later, listed, given⟩ | before
      · exact .inl ⟨later, List.mem_cons_of_mem _ listed, given⟩
      · rcases get?_add before with given | before
        · exact .inl ⟨source, List.mem_cons_self, given⟩
        · exact .inr before
  rcases origin sources _ found with ⟨source, listed, given⟩ | nothing
  · exact ⟨source, listed, original, given, same⟩
  · cases nothing

theorem ranked_ofList {l : List (Text × Member)} (h : (l.map Prod.fst).Pairwise (· < ·)) :
    Ranked (.ofList (numberFrom 0 l)) := by
  have entries : (OrderedMap.ofList (numberFrom 0 l)).entries = numberFrom 0 l := by
    apply OrderedMap.entries_ofList
    rw [keys_numberFrom]
    exact Text.nodup_of_pairwise_lt h
  constructor
  · unfold OrderedMap.keys
    rw [entries, keys_numberFrom]
    exact h
  · rw [entries, numberFrom_numberFrom]

namespace Ranked

variable {members : OrderedMap Member}

theorem positions (h : Ranked members) :
    members.values.map Member.position = (List.range members.size).map Int.ofNat := by
  unfold OrderedMap.values OrderedMap.size
  have listed := positions_numberFrom 0 members.entries
  rw [h.numbered] at listed
  rw [List.map_map, List.range_eq_range']
  exact listed

theorem position_eq_rank (h : Ranked members) {key : Text} {member : Member}
    (found : members.get? key = some member) :
    member.position = (rank members.keys key : Nat) := by
  obtain ⟨i, place⟩ := List.mem_iff_getElem?.1 (OrderedMap.get?_eq_some_iff.1 found)
  have named : members.keys[i]? = some key := by
    unfold OrderedMap.keys
    rw [List.getElem?_map, place]
    rfl
  rw [rank_of_pairwise h.ascending named]
  have numbered := getElem?_numberFrom 0 i members.entries
  rw [h.numbered, place] at numbered
  simp only [Option.map_some, Option.some.injEq, Prod.mk.injEq, true_and] at numbered
  rw [numbered]
  simp

end Ranked

end Members

namespace Structure

variable {s : Structure}

theorem pairwise_positions (h : Members.Ranked s.members) :
    (s.members.values.map Member.position).Pairwise (· ≤ ·) := by
  rw [h.positions, List.pairwise_map]
  apply (List.pairwise_lt_range (n := s.members.size)).imp
  intro a b less
  exact Int.ofNat_le.2 (Nat.le_of_lt less)

theorem hasContiguousPositions_of_ranked (h : Members.Ranked s.members) :
    s.hasContiguousPositions = true := by
  have ordered := (pairwise_positions h).imp fun {a b} (le : a ≤ b) => decide_eq_true le
  unfold hasContiguousPositions
  rw [sortBy_of_pairwise ordered, h.positions]
  simp

theorem orderedMembers_of_ranked (h : Members.Ranked s.members) :
    s.orderedMembers = s.members.entries := by
  unfold orderedMembers
  apply sortBy_of_pairwise
  have ordered := pairwise_positions h
  unfold OrderedMap.values at ordered
  rw [List.map_map, List.pairwise_map] at ordered
  exact ordered.imp fun le => decide_eq_true le

end Structure

/-! Members up to their positions. -/

def Member.unplaced (m : Member) : Member := { m with position := 0 }

namespace Members

def unplaced (members : OrderedMap Member) : OrderedMap Member := members.mapVals Member.unplaced

theorem get?_renumber_unplaced (members : OrderedMap Member) (key : Text) :
    ((renumber members).get? key).map Member.unplaced =
      (members.get? key).map Member.unplaced := by
  cases found : (renumber members).get? key with
  | none =>
    rw [OrderedMap.get?_eq_none_iff, mem_keys_renumber, ← OrderedMap.get?_eq_none_iff] at found
    rw [found]
  | some member =>
    obtain ⟨original, known, same⟩ := get?_renumber found
    rw [known, same]
    rfl

theorem numberFrom_unplaced (n : Nat) (l : List (Text × Member)) :
    numberFrom n (l.map fun e => (e.1, e.2.unplaced)) = numberFrom n l := by
  induction l generalizing n with
  | nil => rfl
  | cons e rest ih =>
    rw [List.map_cons, numberFrom, ih, numberFrom]
    rfl

theorem renumber_unplaced (members : OrderedMap Member) :
    renumber (unplaced members) = renumber members := by
  apply OrderedMap.ext
  have sorted : sortByKey (members.entries.map fun e => (e.1, e.2.unplaced)) =
      (sortByKey members.entries).map fun e => (e.1, e.2.unplaced) := sortBy_map (fun _ _ => rfl) _
  calc numberFrom 0 (sortByKey (members.entries.map fun e => (e.1, e.2.unplaced)))
      = numberFrom 0
        ((sortByKey members.entries).map fun e => (e.1, e.2.unplaced)) := by rw [sorted]
    _ = numberFrom 0 (sortByKey members.entries) := numberFrom_unplaced ..

theorem add_unplaced (m : Merged) (label : Text) (source : OrderedMap Member) :
    Merged.add ⟨unplaced m.members, m.names⟩ label (unplaced source) =
      ⟨unplaced (m.add label source).members, (m.add label source).names⟩ := by
  have fresh : (unplaced source).entries.filter (fun e => !(unplaced m.members).contains e.1) =
      (source.entries.filter fun e => !m.members.contains e.1).map
        fun e => (e.1, e.2.unplaced) := by
    simp only [unplaced, OrderedMap.contains_mapVals]
    rw [OrderedMap.mapVals, List.filter_map]
    rfl
  simp only [Merged.add, fresh]
  rw [unplaced, unplaced, OrderedMap.mapVals_foldl_insert, List.map_map]
  rfl

theorem isEmpty_eq_of_unplaced {m n : OrderedMap Member} (same : unplaced m = unplaced n) :
    m.isEmpty = n.isEmpty := by
  have sizes := congrArg OrderedMap.isEmpty same
  simpa only [unplaced, OrderedMap.isEmpty_mapVals] using sizes

theorem merge_unplaced (sources : List (Text × OrderedMap Member)) :
    merge (sources.map fun s => (s.1, unplaced s.2)) = merge sources := by
  have folded : ∀ m : Merged,
      (sources.map fun s => (s.1, unplaced s.2)).foldl (fun (m : Merged) s => m.add s.1 s.2)
          ⟨unplaced m.members, m.names⟩ =
        let all := sources.foldl (fun (m : Merged) s => m.add s.1 s.2) m
        ⟨unplaced all.members, all.names⟩ := by
    induction sources with
    | nil => exact fun _ => rfl
    | cons source rest ih =>
      intro m
      rw [List.map_cons, List.foldl_cons, add_unplaced, ih, List.foldl_cons]
  unfold merge
  have start := folded ⟨.empty, .empty⟩
  dsimp only at *
  rw [show (⟨.empty, .empty⟩ : Merged) = ⟨unplaced .empty, .empty⟩ from rfl, start]
  rw [renumber_unplaced]
  rfl

end Members

end ApiModel

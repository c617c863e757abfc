import ApiModel.Proofs.Merging
import ApiModel.Proofs.ScratchLowering
import Mathlib.Data.List.Induction

/-! What a merge of members is to be, said name by name. There is one result that meets this
contract, so neither the order of names within a source nor a second merge changes anything. -/
namespace ApiModel.Members

/-- The contract of a merge. Names ascend, each member is that of the first source with its name,
placed by its rank, and each name is listed under the label of that source. -/
structure Merges (sources : List (Text × OrderedMap Member)) (m : Merged) : Prop where
  ascending : m.members.keys.Pairwise (· < ·)
  named : ∀ key, key ∈ m.members.keys ↔ ∃ source ∈ sources, key ∈ source.2.keys
  placed : ∀ key, m.members.get? key = (sources.findSome? fun s => s.2.get? key).map
    fun member => { member with position := rank m.members.keys key }
  labelled : m.names.keys = (sources.map Prod.fst).eraseDups
  listed : ∀ label, (m.under label).Pairwise (· < ·)
  owned : ∀ key label, key ∈ m.under label ↔ owner? sources key = some label

variable {m n : Merged} {sources others : List (Text × OrderedMap Member)}

/-! The merged members meet the contract. -/

theorem keys_names_merge (sources : List (Text × OrderedMap Member)) :
    (merge sources).names.keys = (sources.map Prod.fst).eraseDups := by
  unfold merge
  rw [OrderedMap.keys_mapVals]
  induction sources using List.reverseRecOn with
  | nil => rfl
  | append_singleton sources s ih =>
    rw [List.foldl_append, List.foldl_cons, List.foldl_nil, List.map_append, List.eraseDups_append,
      ← ih]
    generalize sources.foldl (fun (m : Merged) s => m.add s.1 s.2) ⟨.empty, .empty⟩ = m at ih
    have known : s.1 ∈ m.names.keys ↔ s.1 ∈ sources.map Prod.fst := by rw [ih, List.mem_eraseDups]
    unfold Merged.add
    by_cases seen : s.1 ∈ sources.map Prod.fst
    · rw [OrderedMap.keys_insert_of_mem (known.2 seen)]
      simp [List.removeAll, seen]
    · rw [OrderedMap.keys_insert_of_not_mem (mt known.1 seen)]
      simp [List.removeAll, seen, List.eraseDups_cons]

theorem owner?_isSome_iff {key : Text} :
    (owner? sources key).isSome = true ↔ ∃ source ∈ sources, key ∈ source.2.keys := by
  rw [owner?, Option.isSome_map, List.find?_isSome]
  simp only [OrderedMap.contains_iff_mem_keys]

theorem eq_placed {member original : Member} {position : Int}
    (same : member.unplaced = original.unplaced) (placed : member.position = position) :
    member = { original with position } := by
  cases member
  cases original
  simp_all [Member.unplaced]

theorem get?_merge_placed (key : Text) :
    (merge sources).members.get? key = (sources.findSome? fun s => s.2.get? key).map
      fun member => { member with position := rank (merge sources).members.keys key } := by
  have unplaced := get?_merge_unplaced sources key
  cases found : (merge sources).members.get? key with
  | none =>
    rw [found, Option.map_none, eq_comm, Option.map_eq_none_iff] at unplaced
    rw [unplaced, Option.map_none]
  | some member =>
    rw [found, Option.map_some, eq_comm, Option.map_eq_some_iff] at unplaced
    obtain ⟨original, first, same⟩ := unplaced
    rw [first, Option.map_some]
    exact congrArg some (eq_placed same.symm ((ranked_merge sources).position_eq_rank found))

theorem merges_merge (sources : List (Text × OrderedMap Member)) :
    Merges sources (merge sources) where
  ascending := (ranked_merge sources).ascending
  named _ := mem_keys_merge.trans owner?_isSome_iff
  placed := get?_merge_placed
  labelled := keys_names_merge sources
  listed := pairwise_under_merge sources
  owned _ _ := mem_under_merge

/-! Nothing else does. -/

theorem get?_names (label : Text) :
    m.names.get? label = if label ∈ m.names.keys then some (m.under label) else none := by
  unfold Merged.under
  split
  · rename_i known
    obtain ⟨names, found⟩ := OrderedMap.mem_keys_iff.1 known
    rw [found, Option.getD_some]
  · rename_i unknown
    exact OrderedMap.get?_eq_none_iff.2 unknown

theorem Merges.unique (first : Merges sources m) (second : Merges sources n) : m = n := by
  have keys : m.members.keys = n.members.keys :=
    Text.eq_of_ascending first.ascending second.ascending fun key =>
      (first.named key).trans (second.named key).symm
  have members : m.members = n.members := by
    apply OrderedMap.ext_of_get? keys
    intro key
    rw [first.placed, second.placed, keys]
  have labels : m.names.keys = n.names.keys := first.labelled.trans second.labelled.symm
  have under (label : Text) : m.under label = n.under label :=
    Text.eq_of_ascending (first.listed label) (second.listed label) fun key =>
      (first.owned key label).trans (second.owned key label).symm
  have names : m.names = n.names := by
    apply OrderedMap.ext_of_get? labels
    intro label
    rw [get?_names, get?_names, labels, under]
  cases m
  cases n
  simp_all

/-! Sources that the contract does not tell apart. -/

/-- The same labels with the same members, whose names may stand in another order. -/
def Shuffled (sources others : List (Text × OrderedMap Member)) : Prop :=
  List.Forall₂ (fun s t => s.1 = t.1 ∧ s.2.entries.Perm t.2.entries) sources others

namespace Shuffled

theorem labels (h : Shuffled sources others) : sources.map Prod.fst = others.map Prod.fst := by
  induction h with
  | nil => rfl
  | cons first _ ih => rw [List.map_cons, List.map_cons, first.1, ih]

theorem get? (h : Shuffled sources others) (key : Text) :
    (sources.findSome? fun s => s.2.get? key) = others.findSome? fun s => s.2.get? key := by
  induction h with
  | nil => rfl
  | cons first _ ih =>
    rw [List.findSome?_cons, List.findSome?_cons, OrderedMap.perm_entries_iff.1 first.2, ih]

theorem owner? (h : Shuffled sources others) (key : Text) :
    Members.owner? sources key = Members.owner? others key := by
  induction h with
  | nil => rfl
  | cons first _ ih =>
    rw [owner?_cons, owner?_cons, ih, first.1, OrderedMap.contains, OrderedMap.contains,
      OrderedMap.perm_entries_iff.1 first.2]

theorem merges (h : Shuffled sources others) (met : Merges sources m) : Merges others m where
  ascending := met.ascending
  named key := by
    rw [met.named, ← owner?_isSome_iff, h.owner?, owner?_isSome_iff]
  placed key := by rw [met.placed, h.get?]
  labelled := by rw [met.labelled, h.labels]
  listed := met.listed
  owned key label := by rw [met.owned, h.owner?]

end Shuffled

theorem Merges.again (met : Merges sources m) (label : Text) :
    Merges [(label, m.members)] ⟨m.members, .ofList [(label, m.members.keys)]⟩ where
  ascending := met.ascending
  named key := by simp
  placed key := by
    have placed := met.placed key
    cases first : sources.findSome? fun s => s.2.get? key with
    | none => simp [placed, first]
    | some member => simp [placed, first]
  labelled := rfl
  listed other := by
    unfold Merged.under
    rw [OrderedMap.get?_ofList, List.reverse_singleton]
    by_cases same : other = label
    · simpa [same] using met.ascending
    · simp [lookup_cons_of_ne same]
  owned key other := by
    unfold Merged.under
    rw [OrderedMap.get?_ofList, List.reverse_singleton, owner?_cons, owner?_nil]
    by_cases same : other = label
    · simp [same, OrderedMap.contains_iff_mem_keys]
    · have differ : label ≠ other := fun e => same e.symm
      simp [lookup_cons_of_ne same, differ]

/-- Merging meets its contract, and nothing else does. So the members do not depend on the order of
names within a source, and merged members are merged again without a change. -/
theorem merge_contract (sources : List (Text × OrderedMap Member)) :
    (∀ m, Merges sources m ↔ m = merge sources) ∧
      (∀ others, Shuffled sources others → merge others = merge sources) ∧
      ∀ label, merge [(label, (merge sources).members)] =
        ⟨(merge sources).members, .ofList [(label, (merge sources).members.keys)]⟩ := by
  have met := merges_merge sources
  refine ⟨fun m => ⟨fun other => other.unique met, fun same => same ▸ met⟩, ?_, ?_⟩
  · intro others shuffled
    exact (merges_merge others).unique (shuffled.merges met)
  · intro label
    exact (merges_merge _).unique (met.again label)

def trayMember (valueType : Text) (position : Int) : Member :=
  ⟨valueType, position, false, none, none⟩

/-- Three sources, two of them with one label. All of them have a `size`. -/
def trayFrom (body : List (Text × Member)) : List (Text × OrderedMap Member) :=
  [("body", .ofList body),
    ("path", .ofList [("size", trayMember "Long" 1), ("depth", trayMember "Long" 1)]),
    ("body", .ofList [("tag", trayMember "String" (-3)), ("size", trayMember "Double" 0)])]

def tray : List (Text × OrderedMap Member) :=
  trayFrom [("size", trayMember "Integer" 4), ("area", trayMember "Integer" 4)]

def turnedTray : List (Text × OrderedMap Member) :=
  trayFrom [("area", trayMember "Integer" 4), ("size", trayMember "Integer" 4)]

theorem merge_contract_tray :
    Merges tray (merge tray) ∧ Shuffled tray turnedTray ∧ merge turnedTray = merge tray ∧
      (merge tray).members.get? "size" = some (trayMember "Integer" 2) ∧
      (merge tray).under "body" = ["area", "size", "tag"] ∧
        (merge tray).under "path" = ["depth"] := by
  have shuffled : Shuffled tray turnedTray :=
    .cons ⟨rfl, by decide⟩ (.cons ⟨rfl, .refl _⟩ (.cons ⟨rfl, .refl _⟩ .nil))
  obtain ⟨contract, order, -⟩ := merge_contract tray
  exact ⟨(contract _).2 rfl, shuffled, order turnedTray shuffled, by decide, by decide, by decide⟩

end ApiModel.Members

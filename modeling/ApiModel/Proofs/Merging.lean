import ApiModel.Proofs.Positions

/-! Merged members. Each name is taken from the first source that has it, and listed under the label
of that source and no other. -/
namespace ApiModel.Members

variable {m : Merged} {sources : List (Text × OrderedMap Member)} {source : OrderedMap Member}
  {label other key : Text}

def owner? (sources : List (Text × OrderedMap Member)) (key : Text) : Option Text :=
  (sources.find? fun s => s.2.contains key).map Prod.fst

def Merged.under (m : Merged) (label : Text) : List Text := (m.names.get? label).getD []

@[simp] theorem owner?_nil (key : Text) : owner? [] key = none := rfl

theorem owner?_cons (label : Text) (source : OrderedMap Member)
    (rest : List (Text × OrderedMap Member)) (key : Text) :
    owner? ((label, source) :: rest) key =
      if source.contains key then some label else owner? rest key := by
  cases h : source.contains key <;> simp [owner?, h]

/-! One source after the other. -/

theorem get?_members_add (m : Merged) (label : Text) (source : OrderedMap Member) (key : Text) :
    (m.add label source).members.get? key = (m.members.get? key).or (source.get? key) := by
  have added : (m.add label source).members =
      m.members.update (source.filterKeys fun name => !m.members.contains name) := rfl
  rw [added, OrderedMap.get?_update, OrderedMap.get?_filterKeys]
  cases known : m.members.get? key <;> simp [OrderedMap.contains, known]

theorem under_add (m : Merged) (label : Text) (source : OrderedMap Member) (other : Text) :
    (m.add label source).under other =
      if other = label then
        m.under label ++ (source.filterKeys fun name => !m.members.contains name).keys
      else m.under other := by
  unfold Merged.under Merged.add
  rw [OrderedMap.get?_insert]
  split <;> rfl

theorem mem_keys_fresh :
    key ∈ (source.filterKeys fun name => !m.members.contains name).keys ↔
      m.members.get? key = none ∧ source.contains key = true := by
  rw [OrderedMap.mem_keys_iff, OrderedMap.get?_filterKeys]
  cases known : m.members.get? key <;> cases given : source.get? key <;>
    simp [OrderedMap.contains, known, given]

theorem get?_members_foldl (sources : List (Text × OrderedMap Member)) (m : Merged) (key : Text) :
    (sources.foldl (fun (m : Merged) s => m.add s.1 s.2) m).members.get? key =
      (m.members.get? key).or (sources.findSome? fun s => s.2.get? key) := by
  induction sources generalizing m with
  | nil => simp
  | cons s rest ih =>
    rw [List.foldl_cons, ih, get?_members_add, List.findSome?_cons, Option.or_assoc]
    cases s.2.get? key <;> rfl

theorem mem_under_foldl (sources : List (Text × OrderedMap Member)) (m : Merged) :
    key ∈ (sources.foldl (fun (m : Merged) s => m.add s.1 s.2) m).under label ↔
      key ∈ m.under label ∨ m.members.get? key = none ∧ owner? sources key = some label := by
  induction sources generalizing m with
  | nil => simp [owner?]
  | cons s rest ih =>
    rw [List.foldl_cons, ih, get?_members_add, under_add, owner?_cons, Option.or_eq_none_iff]
    have absent : s.2.get? key = none ↔ s.2.contains key = false := by
      cases h : s.2.get? key <;> simp [OrderedMap.contains, h]
    by_cases own : label = s.1
    · subst own
      rw [if_pos rfl, List.mem_append, mem_keys_fresh, absent]
      cases s.2.contains key <;> simp
    · have other : s.1 ≠ label := fun same => own same.symm
      rw [if_neg own, absent]
      cases s.2.contains key <;> simp [other]

theorem nodup_under_foldl (sources : List (Text × OrderedMap Member)) (m : Merged)
    (known : ∀ label, ∀ key ∈ m.under label, m.members.get? key ≠ none)
    (nodup : ∀ label, (m.under label).Nodup) (label : Text) :
    ((sources.foldl (fun (m : Merged) s => m.add s.1 s.2) m).under label).Nodup := by
  induction sources generalizing m with
  | nil => exact nodup label
  | cons s rest ih =>
    refine ih (m.add s.1 s.2) ?_ ?_
    · intro label key listed
      rw [get?_members_add, ne_eq, Option.or_eq_none_iff, not_and_or]
      rw [under_add] at listed
      split at listed
      · rcases List.mem_append.1 listed with old | fresh
        · exact .inl (known _ key old)
        · have given := (mem_keys_fresh.1 fresh).2
          exact .inr fun none => by simp [OrderedMap.contains, none] at given
      · exact .inl (known label key listed)
    · intro label
      rw [under_add]
      split
      · refine List.nodup_append.2 ⟨nodup _, OrderedMap.nodup _, ?_⟩
        rintro key old _ fresh rfl
        exact known _ key old (mem_keys_fresh.1 fresh).1
      · exact nodup label

/-! The merged members. -/

theorem merge_under (sources : List (Text × OrderedMap Member)) (label : Text) :
    (merge sources).under label =
      sortTexts ((sources.foldl (fun (m : Merged) s => m.add s.1 s.2) ⟨.empty, .empty⟩).under
        label) := by
  unfold merge Merged.under
  rw [OrderedMap.get?_mapVals]
  cases OrderedMap.get? _ label <;> rfl

theorem mem_under_merge : key ∈ (merge sources).under label ↔ owner? sources key = some label := by
  rw [merge_under]
  unfold sortTexts
  rw [(perm_sortBy _ _).mem_iff, mem_under_foldl]
  simp [Merged.under]

theorem pairwise_under_merge (sources : List (Text × OrderedMap Member)) (label : Text) :
    ((merge sources).under label).Pairwise (· < ·) := by
  rw [merge_under]
  apply pairwise_sortTexts
  apply nodup_under_foldl <;> simp [Merged.under]

theorem get?_merge_unplaced (sources : List (Text × OrderedMap Member)) (key : Text) :
    ((merge sources).members.get? key).map Member.unplaced =
      (sources.findSome? fun s => s.2.get? key).map Member.unplaced := by
  have all := get?_members_foldl sources ⟨.empty, .empty⟩ key
  rw [OrderedMap.get?_empty, Option.none_or] at all
  rw [← all]
  exact get?_renumber_unplaced _ key

theorem mem_keys_merge :
    key ∈ (merge sources).members.keys ↔ (owner? sources key).isSome = true := by
  have found := congrArg Option.isSome (get?_merge_unplaced sources key)
  rw [Option.isSome_map, Option.isSome_map] at found
  rw [← OrderedMap.contains_iff_mem_keys, OrderedMap.contains, found, List.findSome?_isSome_iff,
    owner?, Option.isSome_map, List.find?_isSome]
  rfl

theorem perm_keys_merge (labels : (sources.map Prod.fst).Nodup) :
    (merge sources).members.keys.Perm ((sources.map Prod.fst).flatMap (merge sources).under) := by
  apply (List.perm_ext_iff_of_nodup (merge sources).members.nodup ?_).2
  · intro key
    refine mem_keys_merge.trans ?_
    simp only [List.mem_flatMap, mem_under_merge, Option.isSome_iff_exists]
    refine exists_congr fun label => (and_iff_right_of_imp fun owned => ?_).symm
    obtain ⟨source, found, rfl⟩ := Option.map_eq_some_iff.1 owned
    exact List.mem_map_of_mem (List.mem_of_find?_eq_some found)
  · refine List.nodup_flatMap.2 ⟨?_, labels.imp fun {label other} distinct => ?_⟩
    · exact fun label _ => Text.nodup_of_pairwise_lt (pairwise_under_merge sources label)
    · intro key here there
      rw [mem_under_merge] at here there
      exact distinct (Option.some.inj (here.symm.trans there))

end ApiModel.Members

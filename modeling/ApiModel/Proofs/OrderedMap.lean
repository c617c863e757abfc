import ApiModel.Container.OrderedMap
import Mathlib.Data.List.Forall2
import Mathlib.Data.List.Nodup

/-! What a look-up in a map gives after its entries were put in one by one: for every key the last
value that was put in under it. -/
namespace ApiModel

theorem lookup_cons_of_ne {α : Type} {key first : Text} (h : key ≠ first) (value : α)
    (rest : List (Text × α)) : ((first, value) :: rest).lookup key = rest.lookup key := by
  rw [List.lookup_cons, beq_false_of_ne h]

theorem lookup_putEntry {α : Type} (key other : Text) (value : α) (l : List (Text × α)) :
    (putEntry key value l).lookup other = if other = key then some value else l.lookup other := by
  induction l with
  | nil =>
    by_cases h : other = key
    · simp [putEntry, h]
    · simp [putEntry, h, lookup_cons_of_ne]
  | cons entry rest ih =>
    obtain ⟨first, known⟩ := entry
    unfold putEntry
    by_cases same : first = key
    · subst same
      by_cases h : other = first
      · simp [h]
      · simp [h, lookup_cons_of_ne]
    · rw [if_neg same]
      by_cases h : other = first
      · subst h
        simp [same]
      · rw [lookup_cons_of_ne h, lookup_cons_of_ne h, ih]

theorem putEntry_of_not_mem {α : Type} {key : Text} {value : α} {l : List (Text × α)}
    (h : key ∉ l.map Prod.fst) : putEntry key value l = l ++ [(key, value)] := by
  induction l with
  | nil => rfl
  | cons entry rest ih =>
    simp only [List.map_cons, List.mem_cons, not_or] at h
    unfold putEntry
    rw [if_neg fun same => h.1 same.symm, ih h.2, List.cons_append]

theorem lookup_map_entries {α β : Type} (f : Text → α → β) (l : List (Text × α)) (key : Text) :
    (l.map fun e => (e.1, f e.1 e.2)).lookup key = (l.lookup key).map (f key) := by
  induction l with
  | nil => rfl
  | cons entry rest ih =>
    obtain ⟨first, value⟩ := entry
    by_cases same : key = first
    · subst same
      simp
    · rw [List.map_cons, lookup_cons_of_ne same, lookup_cons_of_ne same, ih]

namespace OrderedMap

variable {α β : Type}

@[simp] theorem get?_empty (key : Text) : (empty : OrderedMap α).get? key = none := rfl

@[simp] theorem entries_empty : (empty : OrderedMap α).entries = [] := rfl

theorem get?_insert (m : OrderedMap α) (key other : Text) (value : α) :
    (m.insert key value).get? other = if other = key then some value else m.get? other :=
  lookup_putEntry key other value m.entries

theorem get?_eq_some_iff {m : OrderedMap α} {key : Text} {value : α} :
    m.get? key = some value ↔ (key, value) ∈ m.entries := by
  obtain ⟨entries, nodup⟩ := m
  unfold get?
  dsimp only
  induction entries with
  | nil => simp
  | cons entry rest ih =>
    obtain ⟨first, known⟩ := entry
    simp only [List.map_cons, List.nodup_cons] at nodup
    simp only [List.mem_cons, Prod.mk.injEq]
    by_cases same : key = first
    · subst same
      have absent : (key, value) ∉ rest := by
        intro member
        exact nodup.1 (List.mem_map_of_mem member)
      simp [absent, eq_comm]
    · rw [lookup_cons_of_ne same, ih nodup.2]
      simp [same]

theorem mem_keys_iff {m : OrderedMap α} {key : Text} :
    key ∈ m.keys ↔ ∃ value, m.get? key = some value := by
  unfold keys
  simp only [List.mem_map, get?_eq_some_iff]
  constructor
  · rintro ⟨⟨_, value⟩, member, rfl⟩
    exact ⟨value, member⟩
  · rintro ⟨value, member⟩
    exact ⟨(key, value), member, rfl⟩

theorem mem_keys_insert {m : OrderedMap α} {key other : Text} {value : α} :
    other ∈ (m.insert key value).keys ↔ other = key ∨ other ∈ m.keys := by
  rw [mem_keys_iff, mem_keys_iff, get?_insert]
  split <;> simp [*]

theorem contains_iff_mem_keys {m : OrderedMap α} {key : Text} :
    m.contains key = true ↔ key ∈ m.keys := by
  rw [mem_keys_iff, contains, Option.isSome_iff_exists]

theorem get?_eq_none_iff {m : OrderedMap α} {key : Text} : m.get? key = none ↔ key ∉ m.keys := by
  rw [mem_keys_iff]
  cases m.get? key <;> simp

theorem get?_foldl_insert (l : List (Text × α)) (m : OrderedMap α) (key : Text) :
    (l.foldl (fun m e => m.insert e.1 e.2) m).get? key =
      (l.reverse.lookup key).or (m.get? key) := by
  induction l generalizing m with
  | nil => rfl
  | cons entry rest ih =>
    obtain ⟨first, value⟩ := entry
    rw [List.foldl_cons, ih, List.reverse_cons, List.lookup_append, get?_insert]
    by_cases h : key = first
    · simp [h]
    · simp [h, lookup_cons_of_ne]

theorem get?_ofList (l : List (Text × α)) (key : Text) :
    (ofList l).get? key = l.reverse.lookup key := by
  unfold ofList
  rw [get?_foldl_insert]
  simp

theorem get?_update (m n : OrderedMap α) (key : Text) :
    (m.update n).get? key = (n.get? key).or (m.get? key) := by
  unfold update
  rw [get?_foldl_insert]
  congr 1
  cases h : n.get? key with
  | none =>
    rw [get?_eq_none_iff] at h
    rw [List.lookup_eq_none_iff]
    intro entry member
    rw [bne_iff_ne]
    rintro rfl
    exact h (List.mem_map_of_mem (List.mem_reverse.1 member))
  | some value =>
    have reversed : (n.entries.reverse.map Prod.fst).Nodup := by
      rw [List.map_reverse]
      exact List.nodup_reverse.2 n.nodup
    have member : (key, value) ∈ n.entries.reverse :=
      List.mem_reverse.2 (get?_eq_some_iff.1 h)
    exact get?_eq_some_iff (m := ⟨n.entries.reverse, reversed⟩).2 member

theorem entries_ofList {l : List (Text × α)} (h : (l.map Prod.fst).Nodup) :
    (ofList l).entries = l := by
  have appended (m : OrderedMap α) (fresh : (m.entries.map Prod.fst ++ l.map Prod.fst).Nodup) :
      (l.foldl (fun m e => m.insert e.1 e.2) m).entries = m.entries ++ l := by
    clear h
    induction l generalizing m with
    | nil => simp
    | cons entry rest ih =>
      have absent : entry.1 ∉ m.entries.map Prod.fst := by
        rw [List.nodup_append] at fresh
        intro member
        exact fresh.2.2 _ member _ (by simp) rfl
      have placed : (m.insert entry.1 entry.2).entries = m.entries ++ [entry] :=
        putEntry_of_not_mem absent
      rw [List.foldl_cons, ih, placed]
      · simp
      · rw [placed]
        simpa using fresh
  exact appended empty (by simpa using h)

theorem foldl_putEntry (l : List (Text × α)) :
    l.foldl (fun l e => putEntry e.1 e.2 l) [] = (ofList l).entries := by
  have folded (m : OrderedMap α) : l.foldl (fun l e => putEntry e.1 e.2 l) m.entries =
      (l.foldl (fun m e => m.insert e.1 e.2) m).entries := by
    induction l generalizing m with
    | nil => rfl
    | cons e rest ih => exact ih (m.insert e.1 e.2)
  exact folded empty

theorem mem_keys_foldl_insert {l : List (Text × α)} {m : OrderedMap α} {key : Text} :
    key ∈ (l.foldl (fun m e => m.insert e.1 e.2) m).keys ↔ key ∈ l.map Prod.fst ∨ key ∈ m.keys := by
  induction l generalizing m with
  | nil => simp
  | cons entry rest ih =>
    rw [List.foldl_cons, ih, mem_keys_insert, List.map_cons, List.mem_cons, or_left_comm, or_assoc]

theorem mem_keys_update {m n : OrderedMap α} {key : Text} :
    key ∈ (m.update n).keys ↔ key ∈ n.keys ∨ key ∈ m.keys :=
  mem_keys_foldl_insert

theorem mem_keys_ofList {l : List (Text × α)} {key : Text} :
    key ∈ (ofList l).keys ↔ key ∈ l.map Prod.fst := by
  unfold ofList
  rw [mem_keys_foldl_insert]
  simp [keys]

theorem mem_of_lookup {l : List (Text × α)} {key : Text} {value : α}
    (h : l.lookup key = some value) : (key, value) ∈ l := by
  obtain ⟨before, after, rfl, -⟩ := List.lookup_eq_some_iff.1 h
  simp

theorem get?_ofList_map {β : Type} (f : Text → α → β) (l : List (Text × α)) (key : Text) :
    (ofList (l.map fun e => (e.1, f e.1 e.2))).get? key = ((ofList l).get? key).map (f key) := by
  rw [get?_ofList, get?_ofList, ← List.map_reverse, lookup_map_entries]

theorem mem_of_get?_ofList {l : List (Text × α)} {key : Text} {value : α}
    (h : (ofList l).get? key = some value) : (key, value) ∈ l := by
  rw [get?_ofList] at h
  exact List.mem_reverse.1 (mem_of_lookup h)

theorem mem_of_get?_foldl_insert {l : List (Text × α)} {m : OrderedMap α} {key : Text} {value : α}
    (h : (l.foldl (fun m e => m.insert e.1 e.2) m).get? key = some value) :
    (key, value) ∈ l ∨ m.get? key = some value := by
  rw [get?_foldl_insert] at h
  rcases Option.or_eq_some_iff.1 h with put | ⟨-, known⟩
  · exact .inl (List.mem_reverse.1 (mem_of_lookup put))
  · exact .inr known

theorem get?_foldl_insert_of_unique {l : List (Text × α)} {m : OrderedMap α} {key : Text}
    {value : α} (unique : ∀ other, (key, other) ∈ l → other = value) (h : (key, value) ∈ l) :
    (l.foldl (fun m e => m.insert e.1 e.2) m).get? key = some value := by
  rw [get?_foldl_insert]
  cases found : l.reverse.lookup key with
  | none =>
    rw [List.lookup_eq_none_iff] at found
    have differs := found _ (List.mem_reverse.2 h)
    simp at differs
  | some other =>
    have put := List.mem_reverse.1 (mem_of_lookup found)
    rw [unique other put]
    rfl

def filterKeys {α : Type} (keep : Text → Bool) (m : OrderedMap α) : OrderedMap α where
  entries := m.entries.filter fun e => keep e.1
  nodup := m.nodup.sublist (List.filter_sublist.map Prod.fst)

theorem get?_filterKeys (keep : Text → Bool) (m : OrderedMap α) (key : Text) :
    (m.filterKeys keep).get? key = if keep key then m.get? key else none := by
  apply Option.ext
  intro value
  simp only [get?_eq_some_iff, filterKeys, List.mem_filter]
  split <;> simp [get?_eq_some_iff, *]

/-! Maps with replaced values. -/

section MapVals

variable {β : Type}

theorem putEntry_map (f : α → β) (key : Text) (value : α) (l : List (Text × α)) :
    putEntry key (f value) (l.map fun e => (e.1, f e.2)) =
      (putEntry key value l).map fun e => (e.1, f e.2) := by
  induction l with
  | nil => rfl
  | cons e rest ih =>
    simp only [List.map_cons, putEntry]
    split
    · rfl
    · rw [ih, List.map_cons]

theorem mapVals_insert (f : α → β) (m : OrderedMap α) (key : Text) (value : α) :
    (m.insert key value).mapVals f = (m.mapVals f).insert key (f value) :=
  OrderedMap.ext (putEntry_map f key value m.entries).symm

theorem get?_mapVals (f : α → β) (m : OrderedMap α) (key : Text) :
    (m.mapVals f).get? key = (m.get? key).map f :=
  lookup_map_entries (fun _ => f) m.entries key

theorem contains_mapVals (f : α → β) (m : OrderedMap α) (key : Text) :
    (m.mapVals f).contains key = m.contains key := by
  simp [contains, get?_mapVals]

theorem isEmpty_mapVals (f : α → β) (m : OrderedMap α) : (m.mapVals f).isEmpty = m.isEmpty := by
  simp [isEmpty, mapVals]

theorem mapVals_foldl_insert (f : α → β) (l : List (Text × α)) (m : OrderedMap α) :
    (l.foldl (fun m e => m.insert e.1 e.2) m).mapVals f =
      (l.map fun e => (e.1, f e.2)).foldl (fun m e => m.insert e.1 e.2) (m.mapVals f) := by
  induction l generalizing m with
  | nil => rfl
  | cons e rest ih => rw [List.foldl_cons, ih, mapVals_insert, List.map_cons, List.foldl_cons]

theorem keys_mapVals (f : α → β) (m : OrderedMap α) : (m.mapVals f).keys = m.keys := by
  simp [keys, mapVals]

theorem mapVals_eq_self_iff {m : OrderedMap α} {f : α → α} :
    m.mapVals f = m ↔ ∀ v ∈ m.values, f v = v := by
  have pairs : m.mapVals f = m ↔ ∀ e ∈ m.entries, (e.1, f e.2) = e := by
    rw [OrderedMap.ext_iff, mapVals, ← List.map_inj_left, List.map_id']
  simp only [pairs, values, List.mem_map, Prod.ext_iff]
  grind

end MapVals

end OrderedMap

/-! Entries side by side. -/

section Entries

variable {α : Type} {R : α → α → Prop} {l l' : List (Text × α)}

theorem keys_eq_of_forall₂ (related : List.Forall₂ (fun e e' => e.1 = e'.1 ∧ R e.2 e'.2) l l') :
    l.map Prod.fst = l'.map Prod.fst := by
  induction related with
  | nil => rfl
  | cons first _ ih => rw [List.map_cons, List.map_cons, first.1, ih]

theorem rel_lookup_of_forall₂ (related : List.Forall₂ (fun e e' => e.1 = e'.1 ∧ R e.2 e'.2) l l')
    (key : Text) : Option.Rel R (l.lookup key) (l'.lookup key) := by
  induction related with
  | nil => exact .none
  | @cons e e' rest rest' first _ ih =>
    obtain ⟨name, value⟩ := e
    obtain ⟨_, value'⟩ := e'
    obtain ⟨rfl, values⟩ := first
    by_cases here : key = name
    · subst here
      simpa using Option.Rel.some values
    · rw [lookup_cons_of_ne here, lookup_cons_of_ne here]
      exact ih

theorem forall₂_putEntry (related : List.Forall₂ (fun e e' => e.1 = e'.1 ∧ R e.2 e'.2) l l')
    (key : Text) {a a' : α} (value : R a a') :
    List.Forall₂ (fun e e' => e.1 = e'.1 ∧ R e.2 e'.2) (putEntry key a l) (putEntry key a' l') := by
  induction related with
  | nil => exact .cons ⟨rfl, value⟩ .nil
  | cons first others ih =>
    rw [putEntry, putEntry, first.1]
    split
    · exact .cons ⟨rfl, value⟩ others
    · exact .cons first ih

theorem forall₂_ofList (related : List.Forall₂ (fun e e' => e.1 = e'.1 ∧ R e.2 e'.2) l l') :
    List.Forall₂ (fun e e' => e.1 = e'.1 ∧ R e.2 e'.2) (OrderedMap.ofList l).entries
      (OrderedMap.ofList l').entries := by
  have folded (m m' : OrderedMap α)
      (start : List.Forall₂ (fun e e' => e.1 = e'.1 ∧ R e.2 e'.2) m.entries m'.entries) :
      List.Forall₂ (fun e e' => e.1 = e'.1 ∧ R e.2 e'.2)
        (l.foldl (fun m e => m.insert e.1 e.2) m).entries
        (l'.foldl (fun m e => m.insert e.1 e.2) m').entries := by
    induction related generalizing m m' with
    | nil => exact start
    | cons first _ ih =>
      refine ih _ _ ?_
      dsimp only
      rw [first.1]
      exact forall₂_putEntry start _ first.2
  exact folded .empty .empty .nil

end Entries

end ApiModel

import ApiModel.Container.Sort

/-! Maps that keep the order in which their keys were first put in. Putting a key in again changes
its value and keeps its place. -/
namespace ApiModel

/-- Puts a value under a key: in the key's place if it has one, else at the end. -/
def putEntry {κ α : Type} [DecidableEq κ] (key : κ) (value : α) : List (κ × α) → List (κ × α)
  | [] => [(key, value)]
  | entry :: rest =>
    if entry.1 = key then (key, value) :: rest else entry :: putEntry key value rest

theorem keys_putEntry {κ α : Type} [DecidableEq κ] (key : κ) (value : α) (l : List (κ × α)) :
    (putEntry key value l).map Prod.fst =
      if key ∈ l.map Prod.fst then l.map Prod.fst else l.map Prod.fst ++ [key] := by
  induction l with
  | nil => simp [putEntry]
  | cons entry rest ih =>
    by_cases h : entry.1 = key
    · simp [putEntry, h]
    · have h' : key ≠ entry.1 := fun e => h e.symm
      by_cases hm : key ∈ rest.map Prod.fst
      · simp only [List.mem_map] at hm
        simp only [putEntry, h, if_false, List.map_cons, ih]
        simp [hm, h']
      · simp only [List.mem_map] at hm
        simp only [putEntry, h, if_false, List.map_cons, ih]
        simp [hm, h']

theorem nodup_keys_putEntry {κ α : Type} [DecidableEq κ] (key : κ) (value : α)
    {l : List (κ × α)} (h : (l.map Prod.fst).Nodup) :
    ((putEntry key value l).map Prod.fst).Nodup := by
  rw [keys_putEntry]
  split
  · exact h
  · rename_i hm
    rw [List.nodup_append]
    refine ⟨h, by simp, ?_⟩
    intro a ha b hb e
    rw [List.mem_singleton] at hb
    exact hm (hb ▸ e ▸ ha)

/-- A map from texts, in the order of first insertion. -/
structure OrderedMap (α : Type) where
  entries : List (Text × α)
  nodup : (entries.map Prod.fst).Nodup := by simp

namespace OrderedMap

variable {α β : Type}

def empty : OrderedMap α := { entries := [] }

instance : EmptyCollection (OrderedMap α) := ⟨empty⟩

instance : Inhabited (OrderedMap α) := ⟨empty⟩

@[ext] theorem ext {m n : OrderedMap α} (h : m.entries = n.entries) : m = n := by
  cases m; cases n; simp_all

def keys (m : OrderedMap α) : List Text := m.entries.map Prod.fst

def values (m : OrderedMap α) : List α := m.entries.map Prod.snd

def size (m : OrderedMap α) : Nat := m.entries.length

def isEmpty (m : OrderedMap α) : Bool := m.entries.isEmpty

def get? (m : OrderedMap α) (key : Text) : Option α := m.entries.lookup key

def contains (m : OrderedMap α) (key : Text) : Bool := (m.get? key).isSome

/-- Puts a value under a key, in the key's place if it has one. -/
def insert (m : OrderedMap α) (key : Text) (value : α) : OrderedMap α :=
  ⟨putEntry key value m.entries, nodup_keys_putEntry key value m.nodup⟩

/-- The map of a list of entries; of several entries with one key the first gives the place and the
last the value. -/
def ofList (l : List (Text × α)) : OrderedMap α :=
  l.foldl (fun m e => m.insert e.1 e.2) empty

def update (m n : OrderedMap α) : OrderedMap α :=
  n.entries.foldl (fun m e => m.insert e.1 e.2) m

def mapVals (f : α → β) (m : OrderedMap α) : OrderedMap β where
  entries := m.entries.map fun e => (e.1, f e.2)
  nodup := by simpa [List.map_map, Function.comp_def] using m.nodup

def sortedKeys (m : OrderedMap α) : List Text :=
  sortTexts m.keys

def sortedEntries (m : OrderedMap α) : List (Text × α) :=
  sortByKey m.entries

/-- Whether two maps hold the same keys with related values, in any order. -/
def sameBy (same : α → α → Bool) (m n : OrderedMap α) : Bool :=
  m.size == n.size && m.entries.all fun e =>
    match n.get? e.1 with
    | some v => same e.2 v
    | none => false

end OrderedMap

end ApiModel

import ApiModel.Compile.Progress
import ApiModel.Proofs.OrderedMap

/-! The registry behind a list of effects. Each of its entries was written or was there before,
every name that was written is defined, and what is written without contradiction is found. -/
namespace ApiModel

namespace Effect

def name? : Effect → Option Text
  | .field name _ => some name
  | .structure name _ => some name
  | .notice _ => none

def mentions : Effect → List Text
  | .field _ f => f.referred
  | .structure _ s => s.members.values.map Member.valueType
  | .notice _ => []

def fields (effects : List Effect) : List (Text × Field) :=
  effects.filterMap fun
    | .field name f => some (name, f)
    | _ => none

def structures (effects : List Effect) : List (Text × Structure) :=
  effects.filterMap fun
    | .structure name s => some (name, s)
    | _ => none

theorem mem_fields {effects : List Effect} {name : Text} {f : Field} :
    (name, f) ∈ fields effects ↔ .field name f ∈ effects := by
  unfold fields
  rw [List.mem_filterMap]
  constructor
  · rintro ⟨e, listed, same⟩
    cases e <;> simp_all
  · intro listed
    exact ⟨_, listed, rfl⟩

theorem mem_structures {effects : List Effect} {name : Text} {s : Structure} :
    (name, s) ∈ structures effects ↔ .structure name s ∈ effects := by
  unfold structures
  rw [List.mem_filterMap]
  constructor
  · rintro ⟨e, listed, same⟩
    cases e <;> simp_all
  · intro listed
    exact ⟨_, listed, rfl⟩

/-- Whether something is written under a name. -/
def Named (effects : List Effect) (name : Text) : Prop := ∃ e ∈ effects, e.name? = some name

theorem Named.mono {effects more : List Effect} {name : Text} (h : Named effects name)
    (contained : effects ⊆ more) : Named more name := by
  obtain ⟨e, listed, named⟩ := h
  exact ⟨e, contained listed, named⟩

theorem named_of_eq {e : Effect} {name : Text} (named : e.name? = some name)
    (before after : List Effect) : Named (before ++ e :: after) name :=
  ⟨e, List.mem_append_right _ List.mem_cons_self, named⟩

theorem named_iff {effects : List Effect} {name : Text} :
    Named effects name ↔
      name ∈ (fields effects).map Prod.fst ∨ name ∈ (structures effects).map Prod.fst := by
  constructor
  · rintro ⟨e, listed, named⟩
    cases e with
    | field n f =>
      cases named
      exact .inl (List.mem_map_of_mem (mem_fields.2 listed))
    | «structure» n s =>
      cases named
      exact .inr (List.mem_map_of_mem (mem_structures.2 listed))
    | notice n => simp [name?] at named
  · rintro (named | named)
    · obtain ⟨⟨_, f⟩, listed, rfl⟩ := List.mem_map.1 named
      exact ⟨_, mem_fields.1 listed, rfl⟩
    · obtain ⟨⟨_, s⟩, listed, rfl⟩ := List.mem_map.1 named
      exact ⟨_, mem_structures.1 listed, rfl⟩

/-- No name is written with two different entries in one registry. -/
structure Agree (effects : List Effect) : Prop where
  ofFields : ∀ name f g, .field name f ∈ effects → .field name g ∈ effects → f = g
  ofStructures : ∀ name s t, .structure name s ∈ effects → .structure name t ∈ effects → s = t

theorem agree_of_nodup {effects : List Effect} (ofFields : ((fields effects).map Prod.fst).Nodup)
    (ofStructures : ((structures effects).map Prod.fst).Nodup) : Agree effects where
  ofFields name f g h h' := by
    have same := List.inj_on_of_nodup_map ofFields (mem_fields.2 h) (mem_fields.2 h') rfl
    exact (Prod.mk.inj same).2
  ofStructures name s t h h' := by
    have same :=
      List.inj_on_of_nodup_map ofStructures (mem_structures.2 h) (mem_structures.2 h') rfl
    exact (Prod.mk.inj same).2

end Effect

namespace Registry

/-- Whether the registry holds what an effect wrote. -/
def Holds (r : Registry) : Effect → Prop
  | .field name f => r.fields.get? name = some f
  | .structure name s => r.structures.get? name = some s
  | .notice _ => True

/-- Whether a name stands for anything. -/
def Defines (r : Registry) (name : Text) : Prop :=
  name ∈ r.fields.keys ∨ name ∈ r.structures.keys

theorem defines_iff_lookup {r : Registry} {name : Text} :
    r.Defines name ↔ ∃ entry, r.lookup name = some entry := by
  unfold Defines lookup
  rw [OrderedMap.mem_keys_iff, OrderedMap.mem_keys_iff]
  cases r.fields.get? name <;> cases r.structures.get? name <;> simp

theorem applyAll_append (r : Registry) (es fs : List Effect) :
    r.applyAll (es ++ fs) = (r.applyAll es).applyAll fs :=
  List.foldl_append

theorem applyAll_eq (r : Registry) (es : List Effect) :
    r.applyAll es =
      ⟨(Effect.fields es).foldl (fun m e => m.insert e.1 e.2) r.fields,
        (Effect.structures es).foldl (fun m e => m.insert e.1 e.2) r.structures⟩ := by
  induction es generalizing r with
  | nil => rfl
  | cons e rest ih =>
    unfold applyAll at *
    rw [List.foldl_cons, ih]
    cases e <;> rfl

theorem defines_applyAll {r : Registry} {es : List Effect} {name : Text} :
    (r.applyAll es).Defines name ↔ r.Defines name ∨ Effect.Named es name := by
  rw [applyAll_eq, Effect.named_iff]
  unfold Defines
  rw [OrderedMap.mem_keys_foldl_insert, OrderedMap.mem_keys_foldl_insert]
  tauto

theorem mem_of_holds_applyAll {r : Registry} {es : List Effect} {e : Effect}
    (write : e.name?.isSome) (h : (r.applyAll es).Holds e) : e ∈ es ∨ r.Holds e := by
  rw [applyAll_eq] at h
  cases e with
  | field name f =>
    rcases OrderedMap.mem_of_get?_foldl_insert h with put | known
    · exact .inl (Effect.mem_fields.1 put)
    · exact .inr known
  | «structure» name s =>
    rcases OrderedMap.mem_of_get?_foldl_insert h with put | known
    · exact .inl (Effect.mem_structures.1 put)
    · exact .inr known
  | notice n => simp [Effect.name?] at write

theorem holds_applyAll {r : Registry} {es : List Effect} (agree : Effect.Agree es) {e : Effect}
    (h : e ∈ es) : (r.applyAll es).Holds e := by
  rw [applyAll_eq]
  cases e with
  | field name f =>
    apply OrderedMap.get?_foldl_insert_of_unique _ (Effect.mem_fields.2 h)
    intro g put
    exact agree.ofFields name g f (Effect.mem_fields.1 put) h
  | «structure» name s =>
    apply OrderedMap.get?_foldl_insert_of_unique _ (Effect.mem_structures.2 h)
    intro t put
    exact agree.ofStructures name t s (Effect.mem_structures.1 put) h
  | notice n => trivial

theorem holds_applyAll_of_agree {r q : Registry} {es : List Effect} {e : Effect} (held : r.Holds e)
    (kept : q.Holds e) (agree : ∀ e' ∈ es, e'.name? = e.name? → q.Holds e') :
    (r.applyAll es).Holds e := by
  rw [applyAll_eq]
  cases e with
  | field name f =>
    simp only [Holds, OrderedMap.get?_foldl_insert] at *
    cases found : (Effect.fields es).reverse.lookup name with
    | none => exact held
    | some g =>
      have put := Effect.mem_fields.1 (List.mem_reverse.1 (OrderedMap.mem_of_lookup found))
      exact (agree _ put rfl).symm.trans kept
  | «structure» name s =>
    simp only [Holds, OrderedMap.get?_foldl_insert] at *
    cases found : (Effect.structures es).reverse.lookup name with
    | none => exact held
    | some t =>
      have put := Effect.mem_structures.1 (List.mem_reverse.1 (OrderedMap.mem_of_lookup found))
      exact (agree _ put rfl).symm.trans kept
  | notice n => trivial

end Registry

end ApiModel

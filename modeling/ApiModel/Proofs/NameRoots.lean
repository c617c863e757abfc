import ApiModel.Proofs.Effects
import ApiModel.Proofs.Run
import Mathlib.Data.List.DropRight

/-! The roots of names. The name of a part begins with the name of the whole, except that the
element of a list may lack the letter in which the name of the list ends, once for every list around
it. All names below a name therefore begin with its root, which is the name without such letters,
and lowering writes nothing else. -/
namespace ApiModel

open Compile

/-! Names of lists and of their elements. -/

namespace Naming

theorem listNames_concat (front : Text) (last : CodePoint) :
    listNames (front ++ [last]) =
      if last = 's' ∨ last = 'S' then ⟨front ++ [last], front⟩
      else ⟨front ++ [last] ++ "s", front ++ [last]⟩ := by
  simp only [listNames, List.reverse_append, List.reverse_singleton, List.singleton_append,
    List.reverse_reverse]

theorem eq_container_or_element (name : Text) :
    name = (listNames name).container ∨ name = (listNames name).element := by
  unfold listNames
  split
  · split
    · exact .inl rfl
    · exact .inr rfl
  · rename_i nothing
    exact .inr (List.reverse_eq_nil_iff.1 nothing)

theorem container_eq (name : Text) : ∃ c ∈ ("sS" : Text),
    (listNames name).container = (listNames name).element ++ [c] := by
  obtain rfl | ⟨most, last, rfl⟩ := name.eq_nil_or_concat'
  · exact ⟨.char 's', by decide, rfl⟩
  · rw [listNames_concat]
    split
    · rename_i plural
      refine ⟨last, ?_, rfl⟩
      rcases plural with rfl | rfl <;> decide
    · exact ⟨.char 's', by decide, rfl⟩

theorem container_eq_or (name : Text) :
    (listNames name).container = name ∨ (listNames name).container = name ++ "s" := by
  obtain rfl | ⟨most, last, rfl⟩ := name.eq_nil_or_concat'
  · exact .inr rfl
  · rw [listNames_concat]
    split
    · exact .inl rfl
    · exact .inr rfl

/-! Names without the endings of lists. -/

def isEnding (c : CodePoint) : Bool := decide (c ∈ ("sS" : Text))

def root (name : Text) : Text := name.rdropWhile isEnding

variable {front word name : Text} {c : CodePoint}

theorem eq_or_of_ending (ending : c ∈ ("sS" : Text)) : c = .char 's' ∨ c = .char 'S' :=
  List.mem_pair.1 ending

theorem prefix_root (name : Text) : root name <+: name :=
  List.rdropWhile_prefix _ _

theorem root_append (front word : Text) :
    root (front ++ word) = if root word = [] then root front else front ++ root word := by
  unfold root List.rdropWhile
  rw [List.reverse_append, List.dropWhile_append]
  simp only [List.isEmpty_iff, List.reverse_eq_nil_iff]
  split
  · rfl
  · rw [List.reverse_append, List.reverse_reverse]

theorem root_concat (ending : c ∈ ("sS" : Text)) : root (front ++ [c]) = root front :=
  List.rdropWhile_concat_pos _ _ _ (decide_eq_true ending)

theorem prefix_root_append (front word : Text) : root front <+: root (front ++ word) := by
  rw [root_append]
  split
  · exact List.prefix_refl _
  · exact (prefix_root front).trans (List.prefix_append _ _)

theorem length_root_lt (listed : c ∈ word) (lasting : isEnding c = false) :
    (root front).length < (root (front ++ word)).length := by
  have some : root word ≠ [] := by
    intro nothing
    have all := List.rdropWhile_eq_nil_iff.1 nothing c listed
    rw [lasting] at all
    cases all
  rw [root_append, if_neg some, List.length_append]
  have shorter := (prefix_root front).length_le
  have positive := List.length_pos_of_ne_nil some
  omega

theorem root_container (name : Text) :
    root (listNames name).container = root (listNames name).element := by
  obtain ⟨c, ending, same⟩ := container_eq name
  rw [same, root_concat ending]

theorem root_element (name : Text) : root (listNames name).element = root name := by
  rcases eq_container_or_element name with same | same
  · conv_rhs => rw [same]
    exact (root_container name).symm
  · rw [← same]

end Naming

open Naming (root)

theorem hereditary_root :
    Hereditary fun name e => ∀ key, e.name? = some key → root name <+: key where
  ofNotice name n key named := by cases named
  ofField name f key named := by
    cases named
    exact Naming.prefix_root name
  ofContainer name f key named := by
    cases named
    rw [← Naming.root_element, ← Naming.root_container]
    exact Naming.prefix_root _
  ofStructure name s _ key named := by
    cases named
    exact Naming.prefix_root name
  ofElement name e below key named := by
    rw [← Naming.root_element]
    exact below key named
  ofPart name part e below key named := (Naming.prefix_root_append _ _).trans (below key named)
  ofBranch name n e below key named := (Naming.prefix_root_append _ _).trans (below key named)

/-! What stays as it is. -/

theorem OrderedMap.filterKeys_insert {α : Type} {keep : Text → Bool} {key : Text}
    (hidden : keep key = false) (value : α) (m : OrderedMap α) :
    (m.insert key value).filterKeys keep = m.filterKeys keep := by
  have filtered (l : List (Text × α)) :
      (putEntry key value l).filter (fun e => keep e.1) = l.filter fun e => keep e.1 := by
    induction l with
    | nil => simp [putEntry, hidden]
    | cons entry rest ih =>
      unfold putEntry
      split
      · rename_i same
        simp [same, hidden]
      · rw [List.filter_cons, List.filter_cons, ih]
  exact OrderedMap.ext (filtered m.entries)

namespace Registry

def outside (lead : Text) (r : Registry) : Registry where
  fields := r.fields.filterKeys fun key => !decide (lead <+: key)
  structures := r.structures.filterKeys fun key => !decide (lead <+: key)

variable {lead : Text} {r : Registry}

theorem outside_apply {e : Effect} (inside : ∀ key, e.name? = some key → lead <+: key) :
    (r.apply e).outside lead = r.outside lead := by
  cases e with
  | field name f =>
    have hidden : (!decide (lead <+: name)) = false := by simp [inside name rfl]
    unfold outside apply
    rw [OrderedMap.filterKeys_insert hidden]
  | «structure» name s =>
    have hidden : (!decide (lead <+: name)) = false := by simp [inside name rfl]
    unfold outside apply
    rw [OrderedMap.filterKeys_insert hidden]
  | notice n => rfl

theorem outside_applyAll {es : List Effect}
    (inside : ∀ e ∈ es, ∀ key, e.name? = some key → lead <+: key) :
    (r.applyAll es).outside lead = r.outside lead := by
  induction es generalizing r with
  | nil => rfl
  | cons e rest ih =>
    rw [List.forall_mem_cons] at inside
    exact (ih inside.2).trans (outside_apply inside.1)

end Registry

/-- Lowering writes below its own name only. At every moment, and so whether it gives a name in the
end or fails, the entries that do not begin with the root of the name are those from before, in
their order; of the rest of the model nothing changes. -/
theorem lower_writes_below (context : Context) (name : Text) (schema : Schema) (p : Progress) :
    (∀ done, done <+: (lower context name schema).trace →
      (p.model.registry.applyAll done).outside (root name) = p.model.registry.outside (root name)) ∧
    ∃ r, ((perform (lower context name schema)).run.run p).2.model =
      { p.model with registry := r } ∧
      r.outside (root name) = p.model.registry.outside (root name) := by
  have reach := hereditary_root.lower context name schema
  constructor
  · intro done begun
    exact Registry.outside_applyAll fun e listed => reach e (begun.subset listed)
  · rw [perform_run]
    exact ⟨_, rfl, Registry.outside_applyAll reach⟩

example : (lower ⟨.empty, .empty⟩ "Boss" (.array default .unbounded
    (some (.array default .unbounded (some (.boolean default)))))).trace.filterMap Effect.name? =
      ["Bo", "Bos", "Boss"] := by decide

end ApiModel

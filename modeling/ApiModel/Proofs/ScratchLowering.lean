import ApiModel.Proofs.Commit

/-! Lowering into an empty model and putting its entries into another one comes to the same as
lowering into that one, the order of the entries included: what is written, and in which order, does
not depend on what was there. -/
namespace ApiModel

namespace OrderedMap

variable {α : Type} {m n : OrderedMap α}

theorem entries_eq_filterMap (m : OrderedMap α) :
    m.entries = m.keys.filterMap fun key => (m.get? key).map (key, ·) := by
  have found : ∀ e ∈ m.entries, (m.get? e.1).map (e.1, ·) = some e := by
    intro e listed
    rw [get?_eq_some_iff.2 listed]
    rfl
  rw [keys, List.filterMap_map]
  exact ((List.filterMap_congr found).trans (List.filterMap_some ..)).symm

theorem ext_of_get? (keys : m.keys = n.keys) (values : ∀ key, m.get? key = n.get? key) : m = n := by
  apply OrderedMap.ext
  simp only [entries_eq_filterMap, keys, values]

theorem keys_insert_of_mem {key : Text} (known : key ∈ m.keys) (value : α) :
    (m.insert key value).keys = m.keys :=
  (keys_putEntry key value m.entries).trans (if_pos known)

theorem keys_insert_of_not_mem {key : Text} (new : key ∉ m.keys) (value : α) :
    (m.insert key value).keys = m.keys ++ [key] :=
  (keys_putEntry key value m.entries).trans (if_neg new)

theorem keys_foldl_insert_congr {l l' : List (Text × α)} (same : l.map Prod.fst = l'.map Prod.fst)
    (keys : m.keys = n.keys) :
    (l.foldl (fun m e => m.insert e.1 e.2) m).keys =
      (l'.foldl (fun m e => m.insert e.1 e.2) n).keys := by
  induction l generalizing l' m n with
  | nil =>
    rw [List.map_eq_nil_iff.1 same.symm]
    exact keys
  | cons e rest ih =>
    cases l' with
    | nil => cases same
    | cons e' rest' =>
      obtain ⟨first, others⟩ := List.cons.inj same
      rw [List.foldl_cons, List.foldl_cons]
      refine ih others ?_
      by_cases known : e.1 ∈ m.keys
      · rw [keys_insert_of_mem known, keys_insert_of_mem (first ▸ keys ▸ known), keys]
      · rw [keys_insert_of_not_mem known,
          keys_insert_of_not_mem (first ▸ keys ▸ known), keys, first]

theorem keys_update_of_subset (known : ∀ key ∈ n.keys, key ∈ m.keys) :
    (m.update n).keys = m.keys := by
  have unchanged (l : List (Text × α)) (m : OrderedMap α)
      (known : ∀ e ∈ l, e.1 ∈ m.keys) :
      (l.foldl (fun m e => m.insert e.1 e.2) m).keys = m.keys := by
    induction l generalizing m with
    | nil => rfl
    | cons e rest ih =>
      obtain ⟨here, later⟩ := List.forall_mem_cons.1 known
      have kept := keys_insert_of_mem here e.2
      rw [List.foldl_cons, ih _ (kept ▸ later), kept]
  exact unchanged n.entries m fun e listed => known e.1 (List.mem_map_of_mem listed)

theorem update_insert (m n : OrderedMap α) (key : Text) (value : α) :
    m.update (n.insert key value) = (m.update n).insert key value := by
  by_cases known : key ∈ n.keys
  · apply ext_of_get?
    · rw [keys_insert_of_mem (mem_keys_update.2 (.inl known))]
      exact keys_foldl_insert_congr (keys_insert_of_mem known value) rfl
    · intro other
      rw [get?_update, get?_insert, get?_insert, get?_update]
      split <;> rfl
  · have placed : (n.insert key value).entries = n.entries ++ [(key, value)] :=
      putEntry_of_not_mem known
    rw [update, placed, List.foldl_append]
    rfl

theorem update_foldl_insert (m n : OrderedMap α) (l : List (Text × α)) :
    m.update (l.foldl (fun m e => m.insert e.1 e.2) n) =
      l.foldl (fun m e => m.insert e.1 e.2) (m.update n) := by
  induction l generalizing n with
  | nil => rfl
  | cons e rest ih => rw [List.foldl_cons, ih, update_insert, List.foldl_cons]

theorem update_update_self (m n : OrderedMap α) : (m.update n).update n = m.update n := by
  apply ext_of_get?
  · exact keys_update_of_subset fun key listed => mem_keys_update.2 (.inl listed)
  · intro key
    rw [get?_update, get?_update]
    cases n.get? key <;> rfl

end OrderedMap

namespace Registry

def update (r new : Registry) : Registry :=
  ⟨r.fields.update new.fields, r.structures.update new.structures⟩

theorem applyAll_eq_update (r : Registry) (es : List Effect) :
    r.applyAll es = r.update (empty.applyAll es) := by
  rw [applyAll_eq, applyAll_eq, update]
  simp only [OrderedMap.update_foldl_insert]
  rfl

theorem applyAll_applyAll_self (r : Registry) (es : List Effect) :
    (r.applyAll es).applyAll es = r.applyAll es := by
  rw [applyAll_eq_update (r.applyAll es), applyAll_eq_update r, update, update,
    OrderedMap.update_update_self, OrderedMap.update_update_self]

end Registry

namespace Compile

variable {α : Type} {p p' : Progress}

theorem perform_of_performChecked {work : Lowering α} {a : α}
    (run : Runs (performChecked work) p a p') : Runs (perform work) p a p' := by
  obtain ⟨done, committed⟩ := performChecked_runs run
  unfold Runs
  rw [perform_run, Registry.applyAll_eq_update, performChecked_frame run,
    Registry.commit_eq_ok committed, done]
  rfl

end Compile

open Compile

/-- Lowering fares in an empty model as it does in any other, and the entries it leaves there, put
in in order, make the same model. So what is lowered again changes nothing, and types that are
committed from a scratch model end up as if they had been lowered straight away. -/
theorem lower_scratch (context : Context) (name : Text) (schema : Schema) (p : Progress) :
    let lowering := Direct.lower context name schema
    let scratch := lowering.run.run ⟨.empty, []⟩
    let direct := lowering.run.run p
    direct.1 = scratch.1 ∧
      direct.2.model =
        { p.model with registry := p.model.registry.update scratch.2.model.registry } ∧
      (lowering.run.run direct.2).1 = direct.1 ∧
      (lowering.run.run direct.2).2.model = direct.2.model ∧
      ∀ type p', Runs (Direct.inScratch lowering) p type p' → direct = (.ok type, p') := by
  intro lowering scratch direct
  -- the run writes the effects of the schema, whatever model it finds
  simp only [scratch, direct, lowering, Direct.lower_eq, perform_run, true_and]
  refine ⟨?_, ?_, ?_⟩
  · rw [Registry.applyAll_eq_update]
    rfl
  · rw [Registry.applyAll_applyAll_self]
  · intro type p' run
    rw [Direct.inScratch_perform] at run
    rw [← perform_run]
    exact perform_of_performChecked run

def widget : Schema :=
  .object default [] [("size", .integer default default), ("id", .string default default)] none

def shelfOfWidgets : Progress :=
  let id : Field := .string none .unbounded []
  ⟨{ ServiceModel.empty with
      registry := ⟨.ofList [("WidgetId", id), ("Shelf", .boolean)], .empty⟩ }, []⟩

theorem lower_scratch_widget :
    let lowering := Direct.lower ⟨default, .empty⟩ "Widget" widget
    ∃ p', Runs (Direct.inScratch lowering) shelfOfWidgets "Widget" p' ∧
      Runs lowering shelfOfWidgets "Widget" p' ∧
      p'.model.registry.fields.keys = [("WidgetId" : Text), "Shelf", "WidgetSize"] := by
  intro lowering
  let scratched := (Direct.inScratch lowering).run.run shelfOfWidgets
  have told : scratched.1 = .ok "Widget" := by decide +kernel
  have keys : scratched.2.model.registry.fields.keys =
      [("WidgetId" : Text), "Shelf", "WidgetSize"] := by
    decide +kernel
  have run : Runs (Direct.inScratch lowering) shelfOfWidgets "Widget" scratched.2 :=
    Prod.ext told rfl
  obtain ⟨-, -, -, -, straight⟩ := lower_scratch ⟨default, .empty⟩ "Widget" widget shelfOfWidgets
  exact ⟨_, run, straight _ _ run, keys⟩

end ApiModel

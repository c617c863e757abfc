import ApiModel.Compile.Build
import ApiModel.Proofs.Lowering

/-! Lowering straight into a model does what the effects of lowering come to. -/
namespace ApiModel

section Sorting

variable {α β : Type}

theorem OrderedMap.sortedEntries_mapVals (f : α → β) (m : OrderedMap α) :
    (m.mapVals f).sortedEntries = m.sortedEntries.map fun e => (e.1, f e.2) :=
  sortBy_map (fun _ _ => rfl) m.entries

end Sorting

namespace Compile

variable {α β : Type}

section Perform

theorem perform_run (work : Lowering α) (p : Progress) :
    (perform work).run.run p = (work.result,
      ⟨{ p.model with registry := p.model.registry.applyAll work.trace },
        p.notices ++ Effect.notices work.trace⟩) := by
  obtain ⟨trace, result⟩ := work
  cases result <;> rfl

theorem build_ext {x y : Build α} (h : ∀ p, x.run.run p = y.run.run p) : x = y :=
  funext h

theorem perform_pure (a : α) : perform (pure a) = pure a := by
  apply build_ext
  intro p
  rw [perform_run]
  simp [Effect.notices, Registry.applyAll]
  rfl

theorem perform_bind (x : Lowering α) (f : α → Lowering β) :
    perform (x >>= f) = perform x >>= fun a => perform (f a) := by
  apply build_ext
  intro p
  rw [ExceptT.run_bind, StateT.run_bind, perform_run, perform_run]
  cases h : x.result with
  | error e =>
    rw [Traced.bind_of_error h]
    rfl
  | ok a =>
    rw [Traced.bind_of_ok h]
    change _ = (perform (f a)).run.run _
    rw [perform_run]
    simp [Registry.applyAll, Effect.notices]

theorem perform_writeField (name : Text) (f : Field) :
    perform (writeField name f) = Direct.putField name f := by
  apply build_ext
  intro p
  rw [perform_run]
  simp [writeField, Traced.emit, Effect.notices]
  rfl

theorem perform_writeStructure (name : Text) (s : Structure) :
    perform (writeStructure name s) = Direct.putStructure name s := by
  apply build_ext
  intro p
  rw [perform_run]
  simp [writeStructure, Traced.emit, Effect.notices]
  rfl

theorem perform_note (n : Notice) : perform (note n) = report n := by
  apply build_ext
  intro p
  rw [perform_run]
  rfl

theorem perform_fail (e : BuildError) : perform (.fail e : Lowering α) = throw e := by
  apply build_ext
  intro p
  rw [perform_run]
  simp [Traced.fail, Effect.notices, Registry.applyAll]
  rfl

theorem perform_ofExcept (x : Except BuildError α) :
    perform (.ofExcept x : Lowering α) = liftM x := by
  cases x with
  | ok a => exact perform_pure a
  | error e => exact perform_fail e

theorem perform_refuse (construct : Construct) (location : Text) :
    perform (refuse construct location : Lowering α) = Direct.refuse construct location :=
  perform_fail _

theorem perform_lowerMap (name : Text) (values : Schema) :
    perform (lowerMap name values) = Direct.lowerMap name values := by
  unfold lowerMap Direct.lowerMap
  cases mapValueType? values with
  | some type => exact perform_writeField ..
  | none => exact perform_refuse ..

end Perform

namespace Direct

def insertAll (members : OrderedMap Member) (found : List (Text × Member)) : OrderedMap Member :=
  found.foldl (fun members e => members.insert e.1 e.2) members

theorem insertAll_append (members : OrderedMap Member) (first more : List (Text × Member)) :
    insertAll members (first ++ more) = insertAll (insertAll members first) more :=
  List.foldl_append ..

def performed (parts : List (Text × Lowering Member)) : List (Text × Build Member) :=
  parts.map fun part => (part.1, perform part.2)

theorem addMembers_performed (parts : List (Text × Lowering Member)) (n : Nat)
    (members : OrderedMap Member) :
    addMembers (performed parts) n members = (do
      let found ← perform (inOrder parts)
      return insertAll members (Members.numberFrom n found)) := by
  induction parts generalizing n members with
  | nil => simp [performed, addMembers, inOrder, perform_pure, insertAll, Members.numberFrom]
  | cons part rest ih =>
    obtain ⟨key, work⟩ := part
    rw [performed, List.map_cons, addMembers, inOrder]
    simp only [perform_bind, perform_pure, bind_assoc, pure_bind]
    exact bind_congr fun member => ih (n + 1) (members.insert key { member with position := n })

theorem addSorted_performed (parts : List (Text × Lowering Member)) (members : OrderedMap Member) :
    addSorted (performed parts) members = insertAll members <$> perform (gather parts) := by
  have sorted : (OrderedMap.ofList (performed parts)).sortedEntries =
      performed (OrderedMap.ofList parts).sortedEntries := by
    rw [performed, performed, ← OrderedMap.sortedEntries_mapVals, OrderedMap.ofList,
      OrderedMap.ofList, OrderedMap.mapVals_foldl_insert]
    rfl
  rw [addSorted, sorted, addMembers_performed, gather, perform_bind, map_bind]
  simp only [perform_pure, map_pure]

/-- A way into named schemas that adds the members another one tells of. -/
def Follows (cross : Crossing) (told : Compile.Crossing) : Prop :=
  ∀ union enclosing target members, cross union enclosing target members =
    insertAll members <$> perform (told union enclosing target)

variable {override : ModelOverride} {cross : Crossing} {told : Compile.Crossing}

theorem propertyParts_eq {properties : List (Text × Schema)}
    (inner : ∀ e ∈ properties, ∀ name,
      lowerSchema override cross name e.2 = perform (Compile.lowerSchema override told name e.2))
    (enclosing : Text) (required : List Text) :
    propertyParts override cross enclosing required properties =
      performed (lowerProperties override told enclosing required properties) := by
  induction properties with
  | nil => rfl
  | cons e rest ih =>
    obtain ⟨key, schema⟩ := e
    obtain ⟨here, later⟩ := List.forall_mem_cons.1 inner
    have first : (propertyParts override cross enclosing required ((key, schema) :: rest)) =
        (key, perform (lowerProperty override told enclosing required key schema)) ::
          propertyParts override cross enclosing required rest := by
      cases schema <;>
        simp only [propertyParts, lowerProperty, perform_bind, perform_pure, here]
    rw [first, ih later, lowerProperties_eq_map, lowerProperties_eq_map, performed, performed]
    rfl

theorem added_then_branches {first more : Lowering (List (Text × Member))}
    {later : OrderedMap Member → Build (OrderedMap Member)} (members : OrderedMap Member)
    (rest : ∀ members, later members = insertAll members <$> perform more) :
    (insertAll members <$> perform first) >>= later = insertAll members <$> perform (do
      let first ← first
      let more ← more
      return first ++ more) := by
  simp only [perform_bind, perform_pure, map_bind, map_pure, insertAll_append, bind_map_left, rest]
  simp only [map_eq_pure_bind]

theorem addBranches_eq (follows : Follows cross told) {branches : List Schema}
    (inner : ∀ branch ∈ branches, ∀ notes required properties,
      branch = .object notes required properties none → ∀ e ∈ properties, ∀ name,
        lowerSchema override cross name e.2 = perform (Compile.lowerSchema override told name e.2))
    (name : Text) (n : Nat) (members : OrderedMap Member) :
    addBranches override cross name n branches members =
      insertAll members <$> perform (lowerBranches override told name n branches) := by
  induction branches generalizing n members with
  | nil => simp [addBranches, lowerBranches, perform_pure, insertAll]
  | cons branch rest ih =>
    obtain ⟨here, later⟩ := List.forall_mem_cons.1 inner
    have refused (construct : Construct) :
        (Direct.refuse construct name : Build (OrderedMap Member)) =
          insertAll members <$> perform (Compile.refuse construct name) := by
      rw [perform_refuse]
      rfl
    cases branch with
    | reference target note =>
      rw [addBranches, lowerBranches, follows]
      exact added_then_branches members (ih later (n + 1))
    | object notes required properties additional =>
      cases additional with
      | none =>
        rw [addBranches, lowerBranches, propertyParts_eq (here _ _ _ rfl), addSorted_performed]
        exact added_then_branches members (ih later (n + 1))
      | some values =>
        simp only [addBranches, lowerBranches]
        exact refused _
    | _ =>
      simp only [addBranches, lowerBranches]
      exact refused _

theorem lowerSchema_inlineArray (override : ModelOverride) (cross : Crossing) (name : Text)
    (notes : Notes) (length : LengthRange) {items : Schema} (inline : items.isReference = false) :
    lowerSchema override cross name (.array notes length (some items)) = (do
      let element ← lowerSchema override cross (Naming.listNames name).element items
      putField (Naming.listNames name).container (.list element length)
      report (.lowered "array" (Naming.listNames name).container)
      return (Naming.listNames name).container) := by
  cases items with
  | reference target description => simp [Schema.isReference] at inline
  | _ => simp only [lowerSchema]

theorem lowerSchema_eq (follows : Follows cross told) (schema : Schema) (name : Text) :
    lowerSchema override cross name schema =
      perform (Compile.lowerSchema override told name schema) := by
  induction schema using Schema.sizeInduction generalizing name with
  | step schema ih =>
    cases schema with
    | object notes required properties additional =>
      cases additional with
      | some values =>
        simp only [lowerSchema, Compile.lowerSchema, perform_bind, perform_pure, perform_lowerMap,
          perform_note]
      | none =>
        rw [lowerSchema, Compile.lowerSchema,
          propertyParts_eq fun e listed => ih e.2 (Schema.sizeOf_property listed),
          addSorted_performed]
        simp only [perform_bind, perform_pure, perform_writeStructure, perform_note, bind_map_left]
        rfl
    | array notes length items =>
      cases items with
      | none => exact (perform_refuse ..).symm
      | some items =>
        by_cases inline : items.isReference = false
        · rw [lowerSchema_inlineArray _ _ _ _ _ inline,
            Compile.lowerSchema_inlineArray _ _ _ _ _ inline, ih items Schema.sizeOf_items]
          simp only [perform_bind, perform_pure, perform_writeField, perform_note]
        · cases items <;> simp [Schema.isReference] at inline
          simp only [lowerSchema, Compile.lowerSchema, perform_bind, perform_pure,
            perform_writeField, perform_note]
    | union kind description branches =>
      have inner : ∀ branch ∈ branches, ∀ notes required properties,
          branch = .object notes required properties none → ∀ e ∈ properties, ∀ name,
            lowerSchema override cross name e.2 =
              perform (Compile.lowerSchema override told name e.2) := by
        rintro _ listed notes required properties rfl e found
        exact ih e.2 (Schema.sizeOf_branchProperty listed found)
      rw [lowerSchema, Compile.lowerSchema, addBranches_eq follows inner]
      simp only [perform_bind, perform_pure, perform_writeStructure, perform_note, bind_map_left]
      rfl
    | reference target note =>
      simp only [lowerSchema, Compile.lowerSchema, perform_bind, perform_pure, perform_note]
    | negation note => exact (perform_refuse ..).symm
    | fragment notes => exact (perform_refuse ..).symm
    | _ =>
      simp only [lowerSchema, Compile.lowerSchema, perform_bind, perform_pure, perform_ofExcept,
        perform_writeField, perform_note]

theorem crossing_follows (context : Context) (pending : List Text) :
    Follows (crossing context pending) (Compile.crossing context pending) := by
  induction hn : pending.length using Nat.strongRecOn generalizing pending with
  | ind n ih =>
    intro union enclosing target members
    have thrown (e : BuildError) : (throw e : Build (OrderedMap Member)) =
        insertAll members <$> perform (.fail e) := by
      rw [perform_fail]
      rfl
    rw [crossing, Compile.crossing]
    cases context.components.get? target with
    | none => exact thrown _
    | some schema =>
      cases schema with
      | object notes required properties additional =>
        cases additional with
        | some values => exact thrown _
        | none =>
          by_cases waiting : target ∈ pending
          · have fewer : (pending.erase target).length < n := by
              rw [← hn, List.length_erase_of_mem waiting]
              exact Nat.sub_lt (List.length_pos_of_mem waiting) Nat.one_pos
            simp only [dif_pos waiting]
            rw [propertyParts_eq fun e _ => lowerSchema_eq (ih _ fewer _ rfl) e.2,
              addSorted_performed]
          · simp only [dif_neg waiting]
            exact thrown _
      | _ => exact thrown _

theorem lower_eq (context : Context) (name : Text) (schema : Schema) :
    lower context name schema = perform (Compile.lower context name schema) :=
  lowerSchema_eq (crossing_follows context _) schema name

theorem inScratch_perform (work : Lowering α) : inScratch (perform work) = performChecked work := by
  unfold inScratch performChecked
  rw [perform_run]
  rfl

end Direct

theorem lowerComponents_cons (context : Context) (entry : Text × Schema)
    (rest : List (Text × Schema)) :
    lowerComponents context (entry :: rest) = (do
      let _ ← perform (lower context entry.1 entry.2)
      lowerComponents context rest) := by
  rw [lowerComponents, Direct.lower_eq]

end Compile

end ApiModel

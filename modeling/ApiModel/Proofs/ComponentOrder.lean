import ApiModel.Proofs.Commit
import ApiModel.Proofs.Abreast
import ApiModel.Proofs.Rearrangement

/-! The order of named schemas. What is written under different names may be written in any order:
the registries hold the same entries then, and nothing that is built later asks for their order. -/
namespace ApiModel

section Commuting

variable {α : Type} {l l' : List (Text × α)} {m : OrderedMap α} {key : Text}

theorem lookup_of_disjoint (apart : (l.map Prod.fst).Disjoint (l'.map Prod.fst)) (key : Text) :
    l.lookup key = none ∨ l'.lookup key = none := by
  cases found : l.lookup key with
  | none => exact .inl rfl
  | some a =>
    have there : key ∈ l.map Prod.fst := List.mem_map_of_mem (OrderedMap.mem_of_lookup found)
    refine .inr ?_
    rw [List.lookup_eq_none_iff]
    intro e listed
    rw [bne_iff_ne]
    rintro rfl
    exact apart there (List.mem_map_of_mem listed)

theorem get?_foldl_insert_comm (apart : (l.map Prod.fst).Disjoint (l'.map Prod.fst)) :
    (l'.foldl (fun m e => m.insert e.1 e.2) (l.foldl (fun m e => m.insert e.1 e.2) m)).get? key =
      (l.foldl (fun m e => m.insert e.1 e.2)
        (l'.foldl (fun m e => m.insert e.1 e.2) m)).get? key := by
  have reversed : (l.reverse.map Prod.fst).Disjoint (l'.reverse.map Prod.fst) := by
    intro name there there'
    rw [List.map_reverse, List.mem_reverse] at there there'
    exact apart there there'
  simp only [OrderedMap.get?_foldl_insert]
  rcases lookup_of_disjoint reversed key with absent | absent
  · rw [absent, Option.none_or, Option.none_or]
  · rw [absent, Option.none_or, Option.none_or]

end Commuting

/-- Effects that write no name in the same registry. -/
structure Effect.Apart (es fs : List Effect) : Prop where
  fields : ((Effect.fields es).map Prod.fst).Disjoint ((Effect.fields fs).map Prod.fst)
  structures : ((Effect.structures es).map Prod.fst).Disjoint ((Effect.structures fs).map Prod.fst)

instance (es fs : List Effect) : Decidable (Effect.Apart es fs) :=
  decidable_of_iff
    ((∀ name ∈ (Effect.fields es).map Prod.fst, name ∉ (Effect.fields fs).map Prod.fst) ∧
      ∀ name ∈ (Effect.structures es).map Prod.fst, name ∉ (Effect.structures fs).map Prod.fst)
    ⟨fun h => ⟨fun _ => h.1 _, fun _ => h.2 _⟩,
      fun h => ⟨fun _ => @h.fields _, fun _ => @h.structures _⟩⟩

theorem Effect.Apart.symm {es fs : List Effect} (h : Apart es fs) : Apart fs es :=
  ⟨fun _ there there' => h.fields there' there, fun _ there there' => h.structures there' there⟩

namespace Registry

/-- Registries with the same entries, in whatever order these were written. -/
structure SameEntries (r r' : Registry) : Prop where
  fields : ∀ name, r.fields.get? name = r'.fields.get? name
  structures : ∀ name, r.structures.get? name = r'.structures.get? name

namespace SameEntries

variable {r r' r'' : Registry}

theorem refl (r : Registry) : SameEntries r r := ⟨fun _ => rfl, fun _ => rfl⟩

theorem trans (h : SameEntries r r') (h' : SameEntries r' r'') : SameEntries r r'' :=
  ⟨fun name => (h.fields name).trans (h'.fields name),
    fun name => (h.structures name).trans (h'.structures name)⟩

theorem applyAll (h : SameEntries r r') (es : List Effect) :
    SameEntries (r.applyAll es) (r'.applyAll es) := by
  rw [applyAll_eq, applyAll_eq]
  constructor
  · intro name
    simp only [OrderedMap.get?_foldl_insert, h.fields]
  · intro name
    simp only [OrderedMap.get?_foldl_insert, h.structures]

theorem commit (h : SameEntries r r') (new : Registry) :
    Alike SameEntries (r.commit new) (r'.commit new) := by
  unfold Registry.commit conflict?
  simp only [h.fields, h.structures]
  split
  · exact .error _
  · split
    · exact .error _
    · refine .ok ⟨fun name => ?_, fun name => ?_⟩
      · rw [OrderedMap.get?_update, OrderedMap.get?_update, h.fields]
      · rw [OrderedMap.get?_update, OrderedMap.get?_update, h.structures]

theorem typeMappings_eq (h : SameEntries r r') : r.typeMappings = r'.typeMappings := by
  have fields : r.fields.sortedEntries = r'.fields.sortedEntries :=
    sortByKey_eq_of_perm (OrderedMap.perm_entries_iff.2 h.fields) r.fields.nodup
  have keys (m : OrderedMap Structure) : m.sortedKeys = m.sortedEntries.map Prod.fst :=
    sortBy_map (fun _ _ => rfl) m.entries
  have structures : r.structures.sortedEntries = r'.structures.sortedEntries :=
    sortByKey_eq_of_perm (OrderedMap.perm_entries_iff.2 h.structures) r.structures.nodup
  unfold typeMappings namedKinds
  rw [fields, keys, keys, structures]

end SameEntries

theorem sameEntries_comm {es fs : List Effect} (apart : Effect.Apart es fs) (r : Registry) :
    SameEntries (r.applyAll (es ++ fs)) (r.applyAll (fs ++ es)) := by
  rw [applyAll_append, applyAll_append]
  simp only [applyAll_eq]
  exact ⟨fun _ => get?_foldl_insert_comm apart.fields,
    fun _ => get?_foldl_insert_comm apart.structures⟩

theorem sameEntries_of_perm {ι : Type} {trace : ι → List Effect} {l l' : List ι} (perm : l.Perm l')
    (apart : l.Pairwise fun i j => Effect.Apart (trace i) (trace j)) (r : Registry) :
    SameEntries (r.applyAll (l.flatMap trace)) (r.applyAll (l'.flatMap trace)) := by
  induction perm generalizing r with
  | nil => exact .refl r
  | cons i _ ih =>
    rw [List.flatMap_cons, List.flatMap_cons, applyAll_append, applyAll_append]
    exact ih (List.pairwise_cons.1 apart).2 _
  | swap i j rest =>
    have first : Effect.Apart (trace j) (trace i) :=
      (List.pairwise_cons.1 apart).1 i List.mem_cons_self
    simp only [List.flatMap_cons, ← List.append_assoc]
    rw [applyAll_append r (trace j ++ trace i), applyAll_append r (trace i ++ trace j)]
    exact (sameEntries_comm first r).applyAll _
  | trans earlier _ ih ih' =>
    exact (ih apart r).trans (ih' ((earlier.pairwise_iff fun h => h.symm).1 apart) r)

end Registry

/-- Models that differ at most in the order in which their types were written. -/
abbrev ServiceModel.SameTypes : ServiceModel → ServiceModel → Prop := AlikeBut Registry.SameEntries

namespace Compile

open ServiceModel (SameTypes)

variable {s : Subject} {r r' : Registry}

/-! Steps of a build that start from the same types. -/

theorem perform_sameTypes {α : Type} (work : Lowering α) :
    Abreast SameTypes Eq (perform work) (perform work) :=
  .of_perform (.refl _) fun _ _ same => same.applyAll _

theorem performChecked_sameTypes {α : Type} (work : Lowering α) :
    Abreast SameTypes Eq (performChecked work) (performChecked work) :=
  .of_performChecked (.refl _) fun _ _ same => same.commit _

theorem bodyMembers_eq (same : r.SameEntries r') (body : Option Text) (required : Bool) :
    bodyMembers r body required = bodyMembers r' body required := by
  unfold bodyMembers
  simp only [same.structures]

theorem inputOf_sameTypes (operation : Api.Operation) :
    Abreast SameTypes Eq (inputOf s operation) (inputOf s operation) := by
  refine .of_bind_self (perform_sameTypes _) fun body => ?_
  refine .of_bind_self (perform_sameTypes _) fun members => ?_
  refine .of_bind .of_currentRegistry fun r r' same => ?_
  have merged (body : Option Text) (required : Bool) :
      mergedInput s r body required members = mergedInput s r' body required members := by
    unfold mergedInput
    rw [bodyMembers_eq same]
  split
  · apply Abreast.of_pure
    unfold plainInput
    rw [same.structures]
  · simp only [merged]
    exact .of_bind (perform_sameTypes _) fun _ _ _ => .of_pure rfl

theorem mergeOutput_sameTypes (code : Int) (suffix : Text) (body : Option Text)
    (headers : OrderedMap Member) :
    Abreast SameTypes Eq (mergeOutput s code suffix body headers)
      (mergeOutput s code suffix body headers) := by
  refine .of_bind .of_currentRegistry fun r r' same => ?_
  unfold mergedOutput
  rw [bodyMembers_eq same]
  exact .of_bind (performChecked_sameTypes _) fun _ _ _ => .of_pure rfl

theorem addOperations_sameTypes (context : Context) (operations : List Api.Operation) :
    Abreast SameTypes Eq (addOperations context operations) (addOperations context operations) := by
  refine Abreast.operationSteps.of_addOperations rfl (List.forall₂_same.2 fun operation _ => ?_)
  refine ⟨rfl, rfl, rfl, fun name => Abreast.operationSteps.of_addOperation ?_⟩
  refine Abreast.operationSteps.of_decompose (inputOf_sameTypes operation) ?_ rfl
  refine (Abreast.responseSteps ?_ ?_ mergeOutput_sameTypes).of_produceAll operation.responses
  · exact fun _ _ => performChecked_sameTypes _
  · exact fun _ _ _ _ _ => performChecked_sameTypes _

/-! The named schemas. -/

theorem lowerComponents_cases (context : Context) (l : List (Text × Schema)) (p : Progress) :
    (∃ q, (lowerComponents context l).run.run p = (.ok (), q) ∧
        q.model = { p.model with registry :=
          p.model.registry.applyAll (l.flatMap fun e => (lower context e.1 e.2).trace) } ∧
        ∀ e ∈ l, (lower context e.1 e.2).result.isOk = true) ∨
      (∃ e q, (lowerComponents context l).run.run p = (.error e, q)) ∧
        ∃ e ∈ l, (lower context e.1 e.2).result.isOk = false := by
  induction l generalizing p with
  | nil => exact .inl ⟨p, rfl, rfl, by simp⟩
  | cons entry rest ih =>
    rw [lowerComponents_cons, ExceptT.run_bind, StateT.run_bind, perform_run]
    cases done : (lower context entry.1 entry.2).result with
    | error e => exact .inr ⟨⟨e, _, rfl⟩, entry, List.mem_cons_self, by rw [done]; rfl⟩
    | ok type =>
      rcases ih ⟨{ p.model with registry :=
          p.model.registry.applyAll (lower context entry.1 entry.2).trace },
        p.notices ++ Effect.notices (lower context entry.1 entry.2).trace⟩ with
        ⟨q, run, model, accepted⟩ | ⟨⟨e, q, run⟩, entry', listed, failed⟩
      · refine .inl ⟨q, run, ?_, ?_⟩
        · rw [model, List.flatMap_cons, Registry.applyAll_append]
        · intro e listed
          rcases List.mem_cons.1 listed with rfl | listed
          · rw [done]
            rfl
          · exact accepted e listed
      · exact .inr ⟨⟨e, q, run⟩, entry', List.mem_cons_of_mem _ listed, failed⟩

theorem outcomes_of_perm {context : Context} {l l' : List (Text × Schema)} (perm : l.Perm l')
    (apart : l.Pairwise fun e e' =>
      Effect.Apart (lower context e.1 e.2).trace (lower context e'.1 e'.2).trace)
    {later : Build Unit} (abreast : Abreast SameTypes Eq later later) (p : Progress) :
    Concur SameTypes (outcome (lowerComponents context l >>= fun _ => later) p)
      (outcome (lowerComponents context l' >>= fun _ => later) p) := by
  -- a schema that fails is in both lists, so neither order ends well without the other
  rcases lowerComponents_cases context l p with
    ⟨q, run, model, accepted⟩ | ⟨⟨e, q, run⟩, entry, listed, failed⟩
  · rcases lowerComponents_cases context l' p with
      ⟨q', run', model', -⟩ | ⟨-, entry, listed, failed⟩
    · rw [outcome_bind_ok run, outcome_bind_ok run']
      refine (abreast.outcomes ?_).concur
      rw [model, model']
      exact ⟨Registry.sameEntries_of_perm perm apart _, rfl⟩
    · rw [accepted entry (perm.mem_iff.2 listed)] at failed
      cases failed
  · rcases lowerComponents_cases context l' p with
      ⟨q', run', model', accepted⟩ | ⟨⟨e', q', run'⟩, -⟩
    · rw [accepted entry (perm.mem_iff.1 listed)] at failed
      cases failed
    · rw [outcome_bind_error run, outcome_bind_error run']
      exact .error e e'

end Compile

open Compile

/-- The order of named schemas is immaterial if no two of them write one name in one registry. -/
theorem build_permuted {d d' : Api.Description} (o : ModelOverride)
    (perm : d.schemas.entries.Perm d'.schemas.entries)
    (rest : d' = { d with schemas := d'.schemas })
    (apart : ∀ e ∈ d.schemas.entries, ∀ e' ∈ d.schemas.entries, e.1 ≠ e'.1 →
      Effect.Apart (lower ⟨o, d.schemas⟩ e.1 e.2).trace (lower ⟨o, d.schemas⟩ e'.1 e'.2).trace) :
    Concur (fun m m' =>
        (∀ name, m.registry.fields.get? name = m'.registry.fields.get? name) ∧
        (∀ name, m.registry.structures.get? name = m'.registry.structures.get? name) ∧
        m.operations = m'.operations ∧ m.errorTypes = m'.errorTypes ∧
        m.typeMappings = m'.typeMappings)
      (build d o).result (build d' o).result := by
  obtain ⟨info, servers, schemas, operations, version⟩ := d
  obtain ⟨_, _, schemas', _, _⟩ := d'
  cases rest
  dsimp only at perm apart
  let c : Context := ⟨o, schemas⟩
  have context : Context.Rearranged ⟨o, schemas'⟩ c := by
    refine ⟨rfl, (perm.map Prod.fst).symm, fun name => ?_⟩
    dsimp only [c]
    rw [OrderedMap.perm_entries_iff.1 perm name]
    cases schemas'.get? name with
    | none => exact .none
    | some s => exact .some (.same s)
  -- behind the components, both builds run the same program
  let later : Build Unit := do
    addOperations c operations
    finish
  have program : buildAll ⟨o, schemas'⟩ ⟨info, servers, schemas', operations, version⟩ =
      lowerComponents c schemas'.entries >>= fun _ => later := by
    rw [buildAll,
      lowerComponents_rearranged context (List.forall₂_same.2 fun e _ => ⟨rfl, .same e.2⟩),
      addOperations_rearranged context (List.forall₂_same.2 fun operation _ => .refl operation)]
  have abreast : Abreast ServiceModel.SameTypes Eq later later :=
    .of_bind (addOperations_sameTypes c operations) fun _ _ _ =>
      .of_finish fun _ _ same => same.typeMappings_eq
  suffices both : Concur ServiceModel.SameTypes
      (outcome (lowerComponents c schemas.entries >>= fun _ => later) (start info))
      (outcome (lowerComponents c schemas'.entries >>= fun _ => later) (start info)) by
    rw [← program] at both
    refine both.imp fun m m' same => ⟨same.types.fields, same.types.structures, ?_⟩
    rw [same.rest]
    exact ⟨rfl, rfl, rfl⟩
  have distinct : schemas.entries.Pairwise fun e e' => e.1 ≠ e'.1 :=
    List.pairwise_map.1 schemas.nodup
  have pairwise := distinct.imp_of_mem fun {e e'} there there' ne => apart e there e' there' ne
  exact outcomes_of_perm perm pairwise abreast (start info)

def stall (schemas : List (Text × Schema)) : Api.Description where
  info := ⟨"Stall", "1", none⟩
  servers := []
  schemas := .ofList schemas
  operations :=
    [{ path := "/pets"
       method := .post
       id := some "addPet"
       summary := none
       description := none
       parameters := [⟨"dryRun", .query, false, none, some (.boolean default)⟩]
       body := some ⟨true, none, [], some (.reference ⟨"Pet", by decide⟩ none)⟩
       responses := [⟨"200", none, [], some (.reference ⟨"pet", by decide⟩ none), .empty⟩] }]
  version := "3.0.0"

def stallSchemas : List (Text × Schema) :=
  [("pet", .object default [] [("tag", .string default default)] none),
    ("Pet", .union .allOf none
      [.reference ⟨"pet", by decide⟩ none,
        .object default [] [("size", .integer default default)] none]),
    ("Tags", .array default default (some (.string default default)))]

/-- The registries are filled in another order, but hold the same. -/
theorem build_permuted_stall :
    ∃ m m', (build (stall stallSchemas) default).result = .ok m ∧
      (build (stall stallSchemas.reverse) default).result = .ok m' ∧
      m.registry.structures.keys ≠ m'.registry.structures.keys ∧
      (∀ name, m.registry.structures.get? name = m'.registry.structures.get? name) ∧
      m.typeMappings = m'.typeMappings := by
  have differ : (build (stall stallSchemas) default).result.toOption.any fun m =>
      (build (stall stallSchemas.reverse) default).result.toOption.any fun m' =>
        m.registry.structures.keys != m'.registry.structures.keys := by decide +kernel
  have perm :
      (stall stallSchemas).schemas.entries.Perm (stall stallSchemas.reverse).schemas.entries := by
    have distinct : (stallSchemas.map Prod.fst).Nodup := by decide +kernel
    have reversed : (stallSchemas.reverse.map Prod.fst).Nodup := by decide +kernel
    simp only [stall, OrderedMap.entries_ofList distinct, OrderedMap.entries_ofList reversed]
    exact (List.reverse_perm _).symm
  have both := build_permuted default perm rfl (by decide +kernel)
  generalize (build (stall stallSchemas) default).result = result at *
  generalize (build (stall stallSchemas.reverse) default).result = result' at *
  cases both with
  | ok same =>
    refine ⟨_, _, rfl, rfl, ?_, same.2.1, same.2.2.2.2⟩
    simpa [Except.toOption] using differ
  | error _ => simp [Except.toOption] at differ

end ApiModel

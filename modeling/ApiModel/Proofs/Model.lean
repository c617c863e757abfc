import ApiModel.Proofs.Decomposition

/-! Models that were built. From the empty registry on, every step of a build keeps the invariant,
so the model has it: members stand in the order of their names, and only references of the document
itself may lead nowhere. -/
namespace ApiModel

open Compile

def Api.Description.allSchemas (d : Api.Description) : List Schema :=
  d.schemas.values ++ d.operations.flatMap operationSchemas

/-- The references that stand anywhere in a description. -/
def Api.Description.Refers (d : Api.Description) (target : Text) : Prop :=
  ∃ schema ∈ d.allSchemas, schema.Refers target

namespace Compile

variable {refs : Text → Prop} {context : Context} {p p' : Progress}

theorem Clean.flatMap {l : List (Text × Schema)} {f : Text × Schema → List Effect}
    (h : ∀ e ∈ l, Clean refs (f e)) : Clean refs (l.flatMap f) := by
  induction l with
  | nil => exact .nil
  | cons entry rest ih =>
    rw [List.flatMap_cons]
    exact (h entry List.mem_cons_self).append
      (ih fun e listed => h e (List.mem_cons_of_mem _ listed))

theorem lowerComponents_advanced (within : context.Within refs) {l : List (Text × Schema)}
    (own : ∀ e ∈ l, e.2.Within refs) {u : Unit} (run : Runs (lowerComponents context l) p u p')
    (sound : p.model.registry.Sound refs) :
    Registry.Advanced refs p.model.registry p'.model.registry ∧
      ∀ e ∈ l, e.2.isReference = false → p'.model.registry.Defines e.1 := by
  obtain ⟨accepted, applied⟩ := lowerComponents_runs run
  have absorbs := Registry.absorbs_applyAll p.model.registry
    (l.flatMap fun e => (lower context e.1 e.2).trace)
  rw [← applied] at absorbs
  constructor
  · refine Clean.advanced (Clean.flatMap ?_) absorbs sound
    intro e listed
    obtain ⟨type, lowered⟩ := accepted e listed
    exact clean_lower within (own e listed) lowered
  · intro e listed inline
    obtain ⟨type, lowered⟩ := accepted e listed
    have named := ((closing_lower within (own e listed) _ _ _ lowered).2 inline).1
    exact absorbs.written
      (named.mono fun _ effect => List.mem_flatMap.2 ⟨e, listed, effect⟩)

theorem addOperation_advanced (within : context.Within refs) {name : Text}
    {operation : Api.Operation} (own : ∀ part ∈ operationSchemas operation, part.Within refs)
    {u : Unit} (run : Runs (addOperation context name operation) p u p')
    (sound : p.model.registry.Sound refs) :
    Registry.Advanced refs p.model.registry p'.model.registry := by
  unfold addOperation at run
  obtain ⟨_, _, read, next⟩ := run.of_bind
  cases read
  have step : ∃ q, q.model.registry = p.model.registry ∧ Runs (do
      let description ← decompose context name operation.method.word operation.path operation
      modify fun p => { p with
        model := { p.model with operations := p.model.operations.insert name description } })
      q u p' := by
    split at next
    · obtain ⟨_, q, reported, last⟩ := next.of_bind
      obtain rfl := reported.of_modify
      refine ⟨_, ?_, last⟩
      rfl
    · exact ⟨p, rfl, next⟩
  obtain ⟨q, same, last⟩ := step
  obtain ⟨description, q', decomposed, kept⟩ := last.of_bind
  obtain rfl := kept.of_modify
  rw [← same] at sound ⊢
  have advanced := decompose_advanced within own decomposed sound
  exact advanced

theorem addOperations_advanced (within : context.Within refs) {operations : List Api.Operation}
    (own : ∀ operation ∈ operations, ∀ part ∈ operationSchemas operation, part.Within refs)
    {u : Unit} (run : Runs (addOperations context operations) p u p')
    (sound : p.model.registry.Sound refs) :
    Registry.Advanced refs p.model.registry p'.model.registry := by
  induction operations generalizing p with
  | nil =>
    obtain ⟨-, rfl⟩ := run.of_pure
    exact sound.advanced
  | cons operation rest ih =>
    have step : ∃ q, Registry.Advanced refs p.model.registry q.model.registry ∧
        Runs (addOperations context rest) q u p' := by
      unfold addOperations at run
      split at run
      · obtain ⟨_, q, reported, next⟩ := run.of_bind
        obtain rfl := reported.of_modify
        refine ⟨_, ?_, next⟩
        exact sound.advanced
      · dsimp only at run
        split at run
        · obtain ⟨_, q, reported, next⟩ := run.of_bind
          obtain rfl := reported.of_modify
          refine ⟨_, ?_, next⟩
          exact sound.advanced
        · obtain ⟨_, q, added, next⟩ := run.of_bind
          exact ⟨q, addOperation_advanced within (own operation List.mem_cons_self) added sound,
            next⟩
    obtain ⟨q, advanced, next⟩ := step
    exact advanced.trans (ih (fun operation listed =>
      own operation (List.mem_cons_of_mem _ listed)) next advanced.sound)

theorem finish_registry {u : Unit} (run : Runs finish p u p') :
    p'.model.registry = p.model.registry := by
  cases run
  rfl

theorem runs_of_build {d : Api.Description} {override : ModelOverride} {model : ServiceModel}
    (built : (build d override).result = .ok model) :
    ∃ p, Runs (buildAll ⟨override, d.schemas⟩ d) (start d.info) () p ∧ p.model = model := by
  unfold build at built
  unfold Runs
  generalize (buildAll ⟨override, d.schemas⟩ d).run.run (start d.info) = outcome at built
  obtain ⟨result, p⟩ := outcome
  cases result with
  | ok u =>
    cases built
    exact ⟨p, rfl, rfl⟩
  | error e => cases built

end Compile

variable {d : Api.Description} {override : ModelOverride} {model : ServiceModel}

theorem sound_of_build (built : (build d override).result = .ok model) :
    model.registry.Sound d.Refers ∧ ∀ name schema, d.schemas.get? name = some schema →
      schema.isReference = false → model.registry.Defines name := by
  obtain ⟨p, run, rfl⟩ := runs_of_build built
  obtain ⟨_, afterComponents, lowered, next⟩ := run.of_bind
  obtain ⟨_, afterOperations, added, finished⟩ := next.of_bind
  have named : ∀ e ∈ d.schemas.entries, e.2.Within d.Refers := fun e listed target inner =>
    ⟨e.2, List.mem_append_left _ (List.mem_map_of_mem listed), inner⟩
  have within : Context.Within d.Refers ⟨override, d.schemas⟩ := fun name schema found =>
    named (name, schema) (OrderedMap.get?_eq_some_iff.1 found)
  obtain ⟨first, defines⟩ :=
    lowerComponents_advanced within named lowered Registry.sound_empty
  have second := addOperations_advanced within
    (fun operation listed part found target inner =>
      ⟨part, List.mem_append_right _ (List.mem_flatMap.2 ⟨operation, listed, found⟩), inner⟩)
    added first.sound
  rw [finish_registry finished]
  refine ⟨second.sound, ?_⟩
  intro name schema found inline
  exact second.grown name (defines (name, schema) (OrderedMap.get?_eq_some_iff.1 found) inline)

namespace Registry

variable {r : Registry} {owner type : Text}

theorem resolves_of_defines {name : Text} (h : r.Defines name) : r.resolves name = true := by
  obtain ⟨entry, found⟩ := defines_iff_lookup.1 h
  simp [resolves, found]

theorem mentioned_of_structureReferences (h : (owner, type) ∈ r.structureReferences) :
    ∃ e, r.Holds e ∧ type ∈ e.mentions := by
  obtain ⟨⟨name, s⟩, listed, given⟩ := List.mem_flatMap.1 h
  obtain ⟨⟨key, member⟩, ordered, same⟩ := List.mem_map.1 given
  cases same
  refine ⟨.structure name s, ?_, ?_⟩
  · exact OrderedMap.get?_eq_some_iff.2 ((perm_sortByKey _).mem_iff.1 listed)
  · have kept := (perm_sortBy _ _).mem_iff.1 ordered
    exact List.mem_map_of_mem (List.mem_map.2 ⟨_, kept, rfl⟩)

theorem mentioned_of_fieldReferences (h : (owner, type) ∈ r.fieldReferences) :
    ∃ e, r.Holds e ∧ type ∈ e.mentions := by
  obtain ⟨⟨name, f⟩, listed, given⟩ := List.mem_flatMap.1 h
  obtain ⟨referred, mentioned, same⟩ := List.mem_map.1 given
  cases same
  exact ⟨.field owner f, OrderedMap.get?_eq_some_iff.2 ((perm_sortByKey _).mem_iff.1 listed),
    mentioned⟩

theorem mentioned_of_dangling (h : (owner, type) ∈ r.dangling) :
    r.resolves type = false ∧ ∃ e, r.Holds e ∧ type ∈ e.mentions := by
  obtain ⟨listed, unresolved⟩ := List.mem_filter.1 h
  refine ⟨by simpa using unresolved, ?_⟩
  rcases List.mem_append.1 listed with listed | listed
  · exact mentioned_of_structureReferences listed
  · exact mentioned_of_fieldReferences listed

theorem Sound.referred {refs : Text → Prop} (sound : Sound refs r)
    (dangling : (owner, type) ∈ r.dangling) : refs type := by
  obtain ⟨unresolved, e, held, mentioned⟩ := mentioned_of_dangling dangling
  rcases sound.known e held type mentioned with given | builtin | defined
  · exact given
  · simp [resolves, builtin] at unresolved
  · rw [resolves_of_defines defined] at unresolved
    cases unresolved

end Registry

/-- Whatever type is missing, the document refers to it by name and does not define it, except by
another reference. Every other named schema can be referred to. -/
theorem referred_of_dangling (built : (build d override).result = .ok model) :
    (∀ owner type, (owner, type) ∈ model.registry.dangling →
      d.Refers type ∧ (d.schemas.get? type = none ∨ ∃ target description,
        d.schemas.get? type = some (.reference target description))) ∧
    ∀ name schema, d.schemas.get? name = some schema → schema.isReference = false →
      model.registry.resolves name = true := by
  obtain ⟨sound, defines⟩ := sound_of_build built
  have resolves : ∀ name schema, d.schemas.get? name = some schema → schema.isReference = false →
      model.registry.resolves name = true := fun name schema found inline =>
    Registry.resolves_of_defines (defines name schema found inline)
  refine ⟨?_, resolves⟩
  intro owner type dangling
  refine ⟨sound.referred dangling, ?_⟩
  obtain ⟨unresolved, -⟩ := Registry.mentioned_of_dangling dangling
  cases found : d.schemas.get? type with
  | none => exact .inl rfl
  | some schema =>
    cases schema with
    | reference target description => exact .inr ⟨target, description, rfl⟩
    | _ =>
      rw [resolves type _ found rfl] at unresolved
      cases unresolved

def itemName : SchemaName := ⟨"Item", by decide⟩

def aliasName : SchemaName := ⟨"Alias", by decide⟩

def shop : Api.Description where
  info := ⟨"Shop", "1", none⟩
  servers := []
  schemas := .ofList
    [("Item", .object default []
        [("size", .integer default default), ("maker", .reference ⟨"Maker", by decide⟩ none)] none),
      ("Alias", .reference itemName none)]
  operations :=
    [{ path := "/items"
       method := .post
       id := some "addItem"
       summary := none
       description := none
       parameters := [⟨"shelf", .query, true, none, some (.string default default)⟩]
       body := some
         ⟨true, none, [],
           some (.object default [] [("item", .reference itemName none)] none)⟩
       responses :=
         [⟨"200", none, [],
            some (.union .oneOf none
              [.reference aliasName none,
                .object default [] [("count", .integer default default)] none]),
            .ofList [("ETag", ⟨none, false, some (.string default default)⟩)]⟩] }]
  version := "3.0.0"

theorem referred_of_dangling_shop :
    ∃ model, (build shop default).result = .ok model ∧
      (("Item.maker" : Text), ("Maker" : Text)) ∈ model.registry.dangling ∧
      (shop.Refers "Maker" ∧ (shop.schemas.get? "Maker" = none ∨ ∃ target description,
        shop.schemas.get? "Maker" = some (.reference target description))) ∧
      model.registry.resolves "Item" = true := by
  have listed : ((build shop default).result.map fun m => m.registry.dangling).toOption =
      some [(("AddItem200Response0.body" : Text), ("Alias" : Text)),
        (("Item.maker" : Text), ("Maker" : Text))] := by decide +kernel
  cases built : (build shop default).result with
  | error e =>
    rw [built] at listed
    cases listed
  | ok model =>
    rw [built] at listed
    have missing : (("Item.maker" : Text), ("Maker" : Text)) ∈ model.registry.dangling := by
      rw [show model.registry.dangling = _ from Option.some.inj listed]
      exact List.mem_cons_of_mem _ List.mem_cons_self
    obtain ⟨referred, resolved⟩ := referred_of_dangling built
    exact ⟨model, rfl, missing, referred _ _ missing, resolved "Item" _ rfl rfl⟩

/-- Every structure of a model lists its members by name, numbered without a gap. -/
theorem positions_of_build (built : (build d override).result = .ok model) {name : Text}
    {s : Structure} (found : model.registry.structures.get? name = some s) :
    s.hasContiguousPositions = true ∧ s.members.keys.Pairwise (· < ·) ∧
      (∀ key member, s.members.get? key = some member →
        member.position = (rank s.members.keys key : Nat)) ∧
      s.orderedMembers = s.members.entries := by
  have ranked : Members.Ranked s.members :=
    (sound_of_build built).1.ranked (.structure name s) found
  exact ⟨Structure.hasContiguousPositions_of_ranked ranked, ranked.ascending,
    fun _ _ given => ranked.position_eq_rank given, Structure.orderedMembers_of_ranked ranked⟩

theorem positions_of_build_shop :
    ∃ model s, (build shop default).result = .ok model ∧
      model.registry.structures.get? "AddItemRequest" = some s ∧
      (s.hasContiguousPositions = true ∧ s.members.keys.Pairwise (· < ·) ∧
        (∀ key member, s.members.get? key = some member →
          member.position = (rank s.members.keys key : Nat)) ∧
        s.orderedMembers = s.members.entries) := by
  have listed : ((build shop default).result.map fun m =>
      (m.registry.structures.get? "AddItemRequest").isSome).toOption = some true := by
    decide +kernel
  cases built : (build shop default).result with
  | error e =>
    rw [built] at listed
    cases listed
  | ok model =>
    rw [built] at listed
    obtain ⟨s, found⟩ := Option.isSome_iff_exists.1 (Option.some.inj listed)
    exact ⟨model, s, rfl, found, positions_of_build built found⟩

end ApiModel

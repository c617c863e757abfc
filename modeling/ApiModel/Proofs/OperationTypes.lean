import ApiModel.Proofs.Concur
import ApiModel.Proofs.Interference

/-! The types that operations mention. Most of them are made by the build; the others are names that
the document gives in place of a whole body. Such a name may stand for nothing, even where all
references between types have been checked, since an operation is not among the types that are
looked at. -/
namespace ApiModel

/-- The names that stand in place of a whole body: the body is a reference, or a branch of it is. -/
inductive Schema.Offers : Schema → Text → Prop where
  | itself {name : SchemaName} {description : Option Text} :
      Offers (.reference name description) name
  | branch {kind : UnionKind} {description : Option Text} {branches : List Schema} {branch : Schema}
      {name : Text} (listed : branch ∈ branches) (inner : Offers branch name) :
      Offers (.union kind description branches) name

/-- The names that stand in place of the bodies of an operation. -/
def Api.Operation.Offers (operation : Api.Operation) (name : Text) : Prop :=
  (∃ target note, operation.body.bind Api.RequestBody.schema = some (.reference target note) ∧
      target.val = name) ∨
    ∃ response ∈ operation.responses, ∃ schema ∈ response.schema, schema.Offers name

def OperationDescription.types (o : OperationDescription) : List Text :=
  o.input.toList ++ o.output.toList ++ o.errors.map OperationError.typeName ++
    o.inputDescription.bodyStructureName.toList ++ o.outputDescription.bodyStructureName.toList

namespace Compile

variable {offered more : Text → Prop} {r r' : Registry} {context : Context} {s : Subject}
  {p p' : Progress}

/-- A type that the document offers or that is defined. -/
def Supplied (offered : Text → Prop) (r : Registry) (type : Text) : Prop :=
  offered type ∨ r.Defines type

theorem Supplied.grown {type : Text} (h : Supplied offered r type)
    (grown : ∀ name, r.Defines name → r'.Defines name) : Supplied offered r' type :=
  h.imp_right (grown type)

theorem Supplied.widen {type : Text} (h : Supplied offered r type)
    (wider : ∀ name, offered name → more name) : Supplied more r type :=
  h.imp_left (wider type)

theorem defines_of_kept (kept : Registry.Kept r r') (name : Text) (defined : r.Defines name) :
    r'.Defines name := by
  rcases defined with field | structure'
  · obtain ⟨f, found⟩ := OrderedMap.mem_keys_iff.1 field
    obtain ⟨g, later, -⟩ := kept.fields name f found
    exact .inl (OrderedMap.mem_keys_iff.2 ⟨g, later⟩)
  · obtain ⟨f, found⟩ := OrderedMap.mem_keys_iff.1 structure'
    obtain ⟨g, later, -⟩ := kept.structures name f found
    exact .inr (OrderedMap.mem_keys_iff.2 ⟨g, later⟩)

theorem Careful.defines {α : Type} {x : Build α} (careful : Careful x) {a : α}
    (run : Runs x p a p') :
    ∀ name, p.model.registry.Defines name → p'.model.registry.Defines name :=
  defines_of_kept (careful.grows run).types

theorem within_anything (context : Context) : context.Within fun _ => True :=
  fun _ _ _ _ _ => trivial

/-! Requests. -/

theorem bodyType_supplied {body : Option Api.RequestBody} {trace : List Effect} {type : Option Text}
    (run : bodyType s body = ⟨trace, .ok type⟩) : ∀ name ∈ type,
      (∃ target note, body.bind Api.RequestBody.schema = some (.reference target note) ∧
        target.val = name) ∨
        Effect.Named trace name := by
  unfold bodyType at run
  split at run
  · obtain ⟨rfl, rfl⟩ := Traced.pure_eq_ok run
    simp
  · rename_i target note found
    obtain ⟨rfl, rfl⟩ := Traced.pure_eq_ok run
    rintro name ⟨⟩
    exact .inl ⟨target, note, found, rfl⟩
  · obtain ⟨name, first, second, lowered, returned, rfl⟩ := Traced.bind_eq_ok run
    obtain ⟨rfl, rfl⟩ := Traced.pure_eq_ok returned
    rintro name ⟨⟩
    have written := ((closing_lower (within_anything _) (fun _ _ => trivial) _ _ _ lowered).2 rfl).2
    exact .inr (written.mono (List.subset_append_left ..))
  · simp [refuse, Traced.fail] at run

theorem assembleInput_supplied {operation : Api.Operation} {body : Option Text}
    {members : InputMembers}
    {input : Input} (run : Runs (assembleInput s operation body members) p input p') :
    body = some input.type ∨ p'.model.registry.Defines input.type := by
  unfold assembleInput at run
  obtain ⟨registry, q, read, next⟩ := run.of_bind
  cases read
  split at next
  · obtain ⟨rfl, rfl⟩ := next.of_pure
    exact .inl rfl
  · obtain ⟨_, q, performed, returned⟩ := next.of_bind
    obtain ⟨rfl, rfl⟩ := returned.of_pure
    obtain ⟨-, absorbs⟩ := perform_absorbs performed
    exact .inr (absorbs.written ⟨_, List.mem_cons_self, rfl⟩)

/-! Responses. -/

theorem bodyTypesFrom_supplied {code : Int} {suffix : Text} {n : Nat} {branches : List Schema}
    {types : List (Text × Text)}
    (each : ∀ branch ∈ branches, ∀ suffix p types p',
      Runs (bodyTypes s code suffix branch) p types p' →
      ∀ type ∈ types, Supplied branch.Offers p'.model.registry type.2)
    (run : Runs (bodyTypesFrom s code suffix n branches) p types p') :
    ∀ type ∈ types, ∃ branch ∈ branches, Supplied branch.Offers p'.model.registry type.2 := by
  induction branches generalizing n p types with
  | nil =>
    rw [bodyTypesFrom] at run
    obtain ⟨rfl, rfl⟩ := run.of_pure
    simp
  | cons branch rest ih =>
    rw [bodyTypesFrom] at run
    obtain ⟨first, q, ofFirst, next⟩ := run.of_bind
    obtain ⟨others, q', ofRest, returned⟩ := next.of_bind
    obtain ⟨rfl, rfl⟩ := returned.of_pure
    intro type listed
    rcases List.mem_append.1 listed with here | there
    · have supplied := each branch List.mem_cons_self _ _ _ _ ofFirst type here
      exact ⟨branch, List.mem_cons_self,
        supplied.grown ((careful_steps.of_bodyTypesFrom _ _ _).defines ofRest)⟩
    · obtain ⟨branch, among, supplied⟩ :=
        ih (fun branch listed => each branch (List.mem_cons_of_mem _ listed)) ofRest type there
      exact ⟨branch, List.mem_cons_of_mem _ among, supplied⟩

theorem bodyTypes_supplied {code : Int} (schema : Schema) :
    ∀ suffix p types p', Runs (bodyTypes s code suffix schema) p types p' →
      ∀ type ∈ types, Supplied schema.Offers p'.model.registry type.2 := by
  induction schema using Schema.sizeInduction with
  | step schema ih =>
    intro suffix p types p' run type listed
    unfold bodyTypes at run
    split at run
    · obtain ⟨rfl, rfl⟩ := run.of_pure
      obtain rfl := List.mem_singleton.1 listed
      exact .inl .itself
    · obtain ⟨branch, among, supplied⟩ := bodyTypesFrom_supplied
        (fun branch listed => ih branch (Schema.sizeOf_branch listed)) run type listed
      exact supplied.widen fun _ => .branch among
    · obtain ⟨_, q, performed, returned⟩ := run.of_bind
      obtain ⟨rfl, rfl⟩ := returned.of_pure
      obtain rfl := List.mem_singleton.1 listed
      obtain ⟨lowered, absorbs⟩ := performChecked_absorbs performed
      have written := (clean_objectBody (within_anything _) (fun _ _ => trivial) lowered).2
      exact .inr (absorbs.written written)
    · exact run.of_throw.elim

def Produced.types (produced : Produced) : List Text :=
  produced.type :: produced.description.bodyStructureName.toList

theorem mergeOutput_supplied {code : Int} {suffix : Text} {body : Option Text}
    {headers : OrderedMap Member} {produced : Produced}
    (run : Runs (mergeOutput s code suffix body headers) p produced p') :
    p'.model.registry.Defines produced.type ∧ produced.description.bodyStructureName = body := by
  unfold mergeOutput at run
  obtain ⟨registry, q, read, next⟩ := run.of_bind
  cases read
  obtain ⟨_, q, performed, returned⟩ := next.of_bind
  obtain ⟨rfl, rfl⟩ := returned.of_pure
  obtain ⟨-, absorbs⟩ := performChecked_absorbs performed
  exact ⟨absorbs.written ⟨_, List.mem_cons_self, rfl⟩, rfl⟩

theorem produceBodies_supplied {code : Int} {headers : OrderedMap Member}
    {bodies : List (Text × Text)}
    {produced : List Produced} (run : Runs (produceBodies s code headers bodies) p produced p')
    (supplied : ∀ body ∈ bodies, Supplied offered p.model.registry body.2) :
    ∀ made ∈ produced, ∀ type ∈ made.types, Supplied offered p'.model.registry type := by
  induction bodies generalizing p produced with
  | nil =>
    obtain ⟨rfl, rfl⟩ := run.of_pure
    simp
  | cons body rest ih =>
    obtain ⟨suffix, own⟩ := body
    obtain ⟨ofBody, ofRest⟩ := List.forall_mem_cons.1 supplied
    unfold produceBodies at run
    have step : ∃ first q, (∀ name, p.model.registry.Defines name → q.model.registry.Defines name) ∧
        (∀ type ∈ first.types, Supplied offered q.model.registry type) ∧ Runs (do
          classify first
          return first :: (← produceBodies s code headers rest)) q produced p' := by
      split at run
      · obtain ⟨first, q, plain, next⟩ := run.of_bind
        obtain ⟨rfl, rfl⟩ := plain.of_pure
        refine ⟨_, _, fun _ defined => defined, ?_, next⟩
        simpa [Produced.types, OutputDescription.plain] using ofBody
      · obtain ⟨first, q, merged, next⟩ := run.of_bind
        have grown := (careful_steps.of_mergeOutput _ _ _ _).defines merged
        obtain ⟨defined, named⟩ := mergeOutput_supplied merged
        refine ⟨first, q, grown, ?_, next⟩
        simpa [Produced.types, named] using ⟨.inr defined, ofBody.grown grown⟩
    obtain ⟨first, q, grown, ofFirst, next⟩ := step
    obtain ⟨_, q', classified, last⟩ := next.of_bind
    obtain ⟨others, q'', ofOthers, returned⟩ := last.of_bind
    obtain ⟨rfl, rfl⟩ := returned.of_pure
    have classes := (careful_classify _).defines classified
    have later := (careful_steps.of_produceBodies _ _).defines ofOthers
    refine List.forall_mem_cons.2 ⟨?_, ih ofOthers ?_⟩
    · exact fun type listed => (ofFirst type listed).grown fun name defined =>
        later name (classes name defined)
    · exact fun body listed => (ofRest body listed).grown fun name defined =>
        classes name (grown name defined)

theorem produceCoded_supplied {code : Int} {response : Api.Response} {produced : List Produced}
    (run : Runs (produceCoded s code response) p produced p') :
    ∀ made ∈ produced, ∀ type ∈ made.types,
      Supplied (fun name => ∃ schema ∈ response.schema, schema.Offers name)
        p'.model.registry type := by
  unfold produceCoded at run
  obtain ⟨headers, q, performed, next⟩ := run.of_bind
  split at next
  · split at next
    · obtain ⟨rfl, rfl⟩ := next.of_pure
      simp
    · obtain ⟨first, q', merged, last⟩ := next.of_bind
      obtain ⟨_, q'', classified, returned⟩ := last.of_bind
      obtain ⟨rfl, rfl⟩ := returned.of_pure
      obtain ⟨defined, named⟩ := mergeOutput_supplied merged
      have kept := (careful_classify _).defines classified _ defined
      simpa [Produced.types, named] using .inr kept
  · rename_i schema found
    obtain ⟨types, q', typed, last⟩ := next.of_bind
    refine produceBodies_supplied last fun body listed => ?_
    exact (bodyTypes_supplied schema _ _ _ _ typed body listed).widen fun _ offers =>
      ⟨schema, found, offers⟩

theorem produceAll_supplied {responses : List Api.Response} {produced : List Produced}
    (run : Runs (produceAll s responses) p produced p') :
    ∀ made ∈ produced, ∀ type ∈ made.types, Supplied
      (fun name => ∃ response ∈ responses, ∃ schema ∈ response.schema, schema.Offers name)
      p'.model.registry type := by
  induction responses generalizing p produced with
  | nil =>
    obtain ⟨rfl, rfl⟩ := run.of_pure
    simp
  | cons response rest ih =>
    obtain ⟨first, q, ofFirst, next⟩ := run.of_bind
    obtain ⟨others, q', ofRest, returned⟩ := next.of_bind
    obtain ⟨rfl, rfl⟩ := returned.of_pure
    intro made listed type mentioned
    rcases List.mem_append.1 listed with here | there
    · unfold produce at ofFirst
      split at ofFirst
      · obtain ⟨_, _, _, returned⟩ := ofFirst.of_bind
        obtain ⟨rfl, -⟩ := returned.of_pure
        cases here
      · split at ofFirst
        · exact ofFirst.of_throw.elim
        · have supplied := produceCoded_supplied ofFirst made here type mentioned
          exact (supplied.grown ((careful_steps.of_produceAll _).defines ofRest)).widen
            fun _ offers => ⟨response, List.mem_cons_self, offers⟩
    · refine (ih ofRest made there type mentioned).widen ?_
      rintro name ⟨response, among, offers⟩
      exact ⟨response, List.mem_cons_of_mem _ among, offers⟩

/-! Operations. -/

/-- Whether nothing but the document tells the bodies of an operation. -/
def Undescribed (override : ModelOverride) (name : Text) : Prop :=
  override.operationInputOverrides.get? name = none ∧
    override.operationOutputOverrides.get? name = none

theorem mem_types_describe {verb url type : Text} {operation : Api.Operation} {input : Input}
    {produced : List Produced} (undescribed : Undescribed s.override s.name)
    (mentioned : type ∈ (describe s verb url operation input produced).types) :
    type = input.type ∨ input.description.bodyStructureName = some type ∨
      ∃ made ∈ produced, type ∈ made.types := by
  have last (made : Produced)
      (found : (produced.filter fun p => isSuccess p.code).getLast? = some made) :
      made ∈ produced := List.mem_of_mem_filter (List.mem_of_getLast? found)
  simp only [OperationDescription.types, describe, undescribed.1, undescribed.2, Option.getD_none,
    List.mem_append, Option.mem_toList, List.mem_map] at mentioned
  rcases mentioned with (((ofInput | ofOutput) | ⟨_, ⟨made, failed, rfl⟩, rfl⟩) | ofBody)
    | ofOutputBody
  · exact .inl (Option.some.inj ofInput).symm
  · obtain ⟨made, found, rfl⟩ := Option.map_eq_some_iff.1 ofOutput
    exact .inr (.inr ⟨made, last made found, List.mem_cons_self⟩)
  · exact .inr (.inr ⟨made, List.mem_of_mem_filter failed, List.mem_cons_self⟩)
  · exact .inr (.inl ofBody)
  · cases found : (produced.filter fun p => isSuccess p.code).getLast? with
    | none => simp [found, OutputDescription.plain] at ofOutputBody
    | some made =>
      simp only [found, Option.map_some, Option.getD_some] at ofOutputBody
      exact .inr (.inr ⟨made, last made found, List.mem_cons_of_mem _ (by simp [ofOutputBody])⟩)

theorem decompose_supplied {name verb url : Text} {operation : Api.Operation}
    {description : OperationDescription} (undescribed : Undescribed context.override name)
    (run : Runs (decompose context name verb url operation) p description p') :
    ∀ type ∈ description.types, Supplied operation.Offers p'.model.registry type := by
  unfold decompose at run
  obtain ⟨body, afterBody, ofBody, next⟩ := run.of_bind
  obtain ⟨members, afterParameters, ofParameters, next⟩ := next.of_bind
  obtain ⟨input, afterInput, assembled, next⟩ := next.of_bind
  obtain ⟨produced, afterResponses, ofResponses, next⟩ := next.of_bind
  obtain ⟨_, _, reported, returned⟩ := next.of_bind
  obtain rfl := reported.of_modify
  obtain ⟨rfl, rfl⟩ := returned.of_pure
  have grown := (careful_steps.of_produceAll _).defines ofResponses
  obtain ⟨inputWritten, -, named⟩ := assembleInput_runs assembled
  have suppliedBody : ∀ name ∈ body, Supplied operation.Offers afterInput.model.registry name := by
    intro type given
    obtain ⟨bodyRun, bodyAbsorbs⟩ := perform_absorbs ofBody
    obtain ⟨-, membersAbsorbs⟩ := perform_absorbs ofParameters
    refine (bodyType_supplied bodyRun type given).imp .inl fun written => ?_
    rw [inputWritten, Registry.defines_applyAll]
    exact .inl ((membersAbsorbs.defines _).2 (.inl (bodyAbsorbs.written written)))
  intro type mentioned
  rcases mem_types_describe (s := ⟨context, name⟩) undescribed mentioned with
    rfl | ofBody | ⟨made, listed, inside⟩
  · rcases assembleInput_supplied assembled with own | defined
    · exact (suppliedBody _ own).grown grown
    · exact .inr (grown _ defined)
  · exact (suppliedBody _ (named ▸ ofBody)).grown grown
  · exact (produceAll_supplied ofResponses made listed type inside).widen fun _ => .inr

theorem addOperation_supplied {name : Text} {operation : Api.Operation} {u : Unit}
    (run : Runs (addOperation context name operation) p u p') :
    ∃ description, p'.model.operations = p.model.operations.insert name description ∧
      (Undescribed context.override name →
        ∀ type ∈ description.types, Supplied operation.Offers p'.model.registry type) := by
  obtain ⟨q, description, q', same, decomposed, kept⟩ := addOperation_decomposes run
  obtain ⟨-, sameOperations, -⟩ := decompose_runs decomposed
  rw [kept, sameOperations, same]
  exact ⟨description, rfl, fun undescribed => decompose_supplied undescribed decomposed⟩

theorem addOperations_supplied {operations : List Api.Operation} {u : Unit}
    (run : Runs (addOperations context operations) p u p') {name : Text}
    {description : OperationDescription} (undescribed : Undescribed context.override name)
    (found : p'.model.operations.get? name = some description) :
    p.model.operations.get? name = some description ∨
      ∃ operation ∈ operations, compiledName? context operation = some name ∧
        ∀ type ∈ description.types, Supplied operation.Offers p'.model.registry type := by
  induction operations generalizing p with
  | nil =>
    obtain ⟨-, rfl⟩ := run.of_pure
    exact .inl found
  | cons operation rest ih =>
    rw [addOperations_cons] at run
    obtain ⟨_, q, first, next⟩ := run.of_bind
    rcases ih next with early | ⟨other, listed, ofOther⟩
    · rcases addOperations_single first with ⟨-, same⟩ | ⟨own, compiled, added⟩
      · rw [same] at early
        exact .inl early
      · obtain ⟨made, inserted, supplied⟩ := addOperation_supplied added
        rw [inserted, OrderedMap.get?_insert] at early
        split at early
        · rename_i here
          subst here
          cases early
          have later := (addOperations_runs next).1
          refine .inr ⟨operation, List.mem_cons_self, compiled, fun type mentioned => ?_⟩
          refine (supplied undescribed type mentioned).grown fun type defined => ?_
          exact defines_of_kept later type (Registry.defines_applyAll.2 (.inl defined))
        · exact .inl early
    · exact .inr ⟨other, List.mem_cons_of_mem _ listed, ofOther⟩

end Compile

/-! From type to type. -/

def TypeEntry.references : TypeEntry → List Text
  | .field f => f.referred
  | .structure s => s.members.values.map Member.valueType

/-- One step from a type to a type that its entry refers to. -/
def Registry.Leads (r : Registry) (type next : Text) : Prop :=
  ∃ entry, r.lookup type = some entry ∧ next ∈ entry.references

theorem Registry.checkReferences_eq_ok_iff {r : Registry} :
    r.checkReferences = .ok () ↔ r.dangling = [] := by
  unfold checkReferences
  split <;> simp_all

theorem Registry.resolves_of_checked {r : Registry} (checked : r.checkReferences = .ok ())
    {type next : Text} (leads : r.Leads type next) : r.resolves next = true := by
  have none := checkReferences_eq_ok_iff.1 checked
  have all : ∀ owner, (owner, next) ∈ r.structureReferences ++ r.fieldReferences →
      r.resolves next = true := by
    intro owner listed
    have kept := List.filter_eq_nil_iff.1 none (owner, next) listed
    simpa using kept
  obtain ⟨entry, found, referred⟩ := leads
  unfold lookup at found
  split at found
  · rename_i f field
    cases found
    refine all type (List.mem_append_right _ (List.mem_flatMap.2 ⟨(type, f), ?_, ?_⟩))
    · exact (perm_sortByKey _).mem_iff.2 (OrderedMap.get?_eq_some_iff.1 field)
    · exact List.mem_map.2 ⟨next, referred, rfl⟩
  · obtain ⟨s, structure', rfl⟩ := Option.map_eq_some_iff.1 found
    obtain ⟨member, value, rfl⟩ := List.mem_map.1 referred
    obtain ⟨⟨key, member⟩, entry, rfl⟩ := List.mem_map.1 value
    refine all (type ++ "." ++ key)
      (List.mem_append_left _ (List.mem_flatMap.2 ⟨(type, s), ?_, ?_⟩))
    · exact (perm_sortByKey _).mem_iff.2 (OrderedMap.get?_eq_some_iff.1 structure')
    · exact List.mem_map.2 ⟨(key, member), (perm_sortBy _ _).mem_iff.2 entry, rfl⟩

open Compile

variable {d : Api.Description} {override : ModelOverride} {model : ServiceModel}

theorem supplied_of_build (built : (build d override).result = .ok model) {name : Text}
    {description : OperationDescription} (described : model.operations.get? name = some description)
    (undescribed : Undescribed override name) :
    ∃ operation ∈ d.operations, compiledName? ⟨override, d.schemas⟩ operation = some name ∧
      ∀ type ∈ description.types, Supplied operation.Offers model.registry type := by
  obtain ⟨last, run, rfl⟩ := runs_of_build built
  obtain ⟨_, afterComponents, lowered, next⟩ := run.of_bind
  obtain ⟨_, afterOperations, added, finished⟩ := next.of_bind
  have same : last.model.operations = afterOperations.model.operations := by
    cases finished
    rfl
  rw [same] at described
  rw [finish_registry finished]
  apply (addOperations_supplied added undescribed described).resolve_left
  rw [lowerComponents_operations lowered]
  exact nofun

/-- In a model whose references were checked, the types of operations and all that they lead to are
there. Only a name that the document gives in place of a whole body may be missing, and then the
document has no schema of that name, or one that is a reference itself. -/
theorem resolves_of_checkReferences (built : (build d override).result = .ok model)
    (checked : model.registry.checkReferences = .ok ()) {name : Text}
    {description : OperationDescription} (described : model.operations.get? name = some description)
    (undescribed : Undescribed override name) :
    ∀ type ∈ description.types, ∀ last, Relation.ReflTransGen model.registry.Leads type last →
      model.registry.resolves last = true ∨
        last = type ∧
          (∃ operation ∈ d.operations, compiledName? ⟨override, d.schemas⟩ operation = some name ∧
            operation.Offers type) ∧
          (d.schemas.get? type = none ∨ ∃ target note,
            d.schemas.get? type = some (.reference target note)) := by
  intro type mentioned last way
  rcases Relation.ReflTransGen.cases_tail way with same | ⟨before, -, leads⟩
  · subst same
    obtain ⟨operation, listed, compiled, supplied⟩ := supplied_of_build built described undescribed
    cases known : model.registry.resolves last with
    | true => exact .inl rfl
    | false =>
      have missing : ¬ model.registry.Defines last := fun defined => by
        rw [Registry.resolves_of_defines defined] at known
        cases known
      have offered := (supplied last mentioned).resolve_right missing
      refine .inr ⟨rfl, ⟨operation, listed, compiled, offered⟩, ?_⟩
      cases found : d.schemas.get? last with
      | none => exact .inl rfl
      | some schema =>
        cases schema with
        | reference target note => exact .inr ⟨target, note, rfl⟩
        | _ => exact absurd ((sound_of_build built).2 last _ found rfl) missing
  · exact .inl (Registry.resolves_of_checked checked leads)

def cellar : Api.Description where
  info := ⟨"Cellar", "1", none⟩
  servers := []
  schemas := .ofList
    [("Item", .object default []
        [("tags", .array default default (some (.string default default)))] none),
      ("Alias", .reference itemName none)]
  operations := [giving "getItem" itemName, giving "getAlias" aliasName]
  version := "3.0.0"
where
  giving (id : Text) (type : SchemaName) : Api.Operation :=
    { path := "/" ++ id
      method := .get
      id := some id
      summary := none
      description := none
      parameters := []
      body := none
      responses := [⟨"200", none, [], some (.reference type none), .empty⟩] }

/-- The model of the cellar: no reference between types is missing, and another name for a type is
no type. -/
theorem build_cellar :
    ∃ model item other, (build cellar default).result = .ok model ∧ model.registry.dangling = [] ∧
      model.operations.get? "getItem" = some item ∧
      item.types = [("GetItemRequest" : Text), "Item"] ∧
      model.operations.get? "getAlias" = some other ∧
      other.types = [("GetAliasRequest" : Text), "Alias"] ∧
      (model.registry.lookup "Item").map TypeEntry.references = some [("ItemTags" : Text)] ∧
      (model.registry.lookup "ItemTags").map TypeEntry.references = some [("ItemTag" : Text)] ∧
      model.registry.resolves "Alias" = false := by
  have told := exists_of_decided (x := (build cellar default).result)
    (p := fun m => m.registry.dangling = [] ∧
      (m.operations.get? "getItem").map OperationDescription.types =
        some [("GetItemRequest" : Text), "Item"] ∧
      (m.operations.get? "getAlias").map OperationDescription.types =
        some [("GetAliasRequest" : Text), "Alias"] ∧
      (m.registry.lookup "Item").map TypeEntry.references = some [("ItemTags" : Text)] ∧
      (m.registry.lookup "ItemTags").map TypeEntry.references = some [("ItemTag" : Text)] ∧
      m.registry.resolves "Alias" = false) (by decide +kernel)
  obtain ⟨model, built, closed, first, second, rest⟩ := told
  obtain ⟨item, ofItem, types⟩ := Option.map_eq_some_iff.1 first
  obtain ⟨other, ofOther, types'⟩ := Option.map_eq_some_iff.1 second
  exact ⟨model, item, other, built, closed, ofItem, types, ofOther, types', rest⟩

theorem resolves_of_checkReferences_cellar :
    ∃ model description, (build cellar default).result = .ok model ∧
      model.registry.checkReferences = .ok () ∧
      model.operations.get? "getItem" = some description ∧ Undescribed default "getItem" ∧
      ("Item" : Text) ∈ description.types ∧
        Relation.ReflTransGen model.registry.Leads "Item" "ItemTag" ∧
      (model.registry.resolves "ItemTag" = true ∨
        ("ItemTag" : Text) = "Item" ∧
          (∃ operation ∈ cellar.operations,
            compiledName? ⟨default, cellar.schemas⟩ operation = some "getItem" ∧
              operation.Offers "Item") ∧
          (cellar.schemas.get? "Item" = none ∨ ∃ target note,
            cellar.schemas.get? "Item" = some (.reference target note))) := by
  obtain ⟨model, item, -, built, closed, described, types, -, -, first, second, -⟩ := build_cellar
  have checked := Registry.checkReferences_eq_ok_iff.2 closed
  have undescribed : Undescribed default "getItem" := ⟨rfl, rfl⟩
  have mentioned : ("Item" : Text) ∈ item.types := by simp [types]
  have way : Relation.ReflTransGen model.registry.Leads "Item" "ItemTag" := by
    obtain ⟨entry, found, refers⟩ := Option.map_eq_some_iff.1 first
    obtain ⟨entry', found', refers'⟩ := Option.map_eq_some_iff.1 second
    refine .tail (.single ⟨entry, found, ?_⟩) ⟨entry', found', ?_⟩
    · rw [refers]
      exact List.mem_singleton_self _
    · rw [refers']
      exact List.mem_singleton_self _
  exact ⟨model, item, built, checked, described, undescribed, mentioned, way,
    resolves_of_checkReferences built checked described undescribed _ mentioned _ way⟩

/-- The output of an operation may be missing although the references have been checked. -/
theorem not_resolves_cellar_alias :
    ∃ model description, (build cellar default).result = .ok model ∧
      model.registry.checkReferences = .ok () ∧
      model.operations.get? "getAlias" = some description ∧ Undescribed default "getAlias" ∧
      ("Alias" : Text) ∈ description.types ∧ model.registry.resolves "Alias" = false := by
  obtain ⟨model, -, other, built, closed, -, -, described, types, -, -, missing⟩ := build_cellar
  refine ⟨model, other, built, Registry.checkReferences_eq_ok_iff.2 closed, described,
    ⟨rfl, rfl⟩, ?_, missing⟩
  simp [types]

end ApiModel

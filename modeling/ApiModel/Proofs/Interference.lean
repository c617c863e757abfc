import ApiModel.Proofs.Commit
import ApiModel.Proofs.Model

/-! Operations and named types. What the inputs of operations write is not checked, and responses
change nothing. So the names that were there before the first operation end up with what those
inputs make of them. -/
namespace ApiModel

open Compile

def Effect.contradicts : Effect → Effect → Bool
  | .field name f, .field other g => name == other && !f.same g
  | .structure name s, .structure other t => name == other && !s.same t
  | _, _ => false

namespace Registry

variable {r r' : Registry} {e : Effect} {es : List Effect}

theorem Kept.apply (h : Kept r r') (e : Effect) : Kept (r.apply e) (r'.apply e) := by
  cases e with
  | field name f => exact ⟨h.fields.insert Field.same_equivalence name f, h.structures⟩
  | «structure» name s => exact ⟨h.fields, h.structures.insert Structure.same_equivalence name s⟩
  | notice n => exact h

theorem Kept.applyAll (h : Kept r r') (es : List Effect) :
    Kept (r.applyAll es) (r'.applyAll es) := by
  induction es generalizing r r' with
  | nil => exact h
  | cons e rest ih => exact ih (h.apply e)

theorem keeps_applyAll (held : r.Holds e) (spared : ∀ e' ∈ es, e.contradicts e' = false) :
    (r.applyAll es).Keeps e := by
  rw [applyAll_eq]
  cases e with
  | field name f =>
    apply OrderedMap.keeps_foldl_insert Field.same_equivalence held
    intro g put
    have agree := spared _ (Effect.mem_fields.1 put)
    simpa [Effect.contradicts] using agree
  | «structure» name s =>
    apply OrderedMap.keeps_foldl_insert Structure.same_equivalence held
    intro t put
    have agree := spared _ (Effect.mem_structures.1 put)
    simpa [Effect.contradicts] using agree
  | notice n => trivial

theorem keeps_iff_of_kept (held : r.Holds e) (later : Kept (r.applyAll es) r') :
    r'.Keeps e ↔ (r.applyAll es).Keeps e := by
  cases e with
  | field name f =>
    apply OrderedMap.keeps_iff_of_kept Field.same_equivalence _ later.fields
    rw [applyAll_eq]
    exact OrderedMap.mem_keys_foldl_insert.2 (.inr (OrderedMap.mem_keys_iff.2 ⟨f, held⟩))
  | «structure» name s =>
    apply OrderedMap.keeps_iff_of_kept Structure.same_equivalence _ later.structures
    rw [applyAll_eq]
    exact OrderedMap.mem_keys_foldl_insert.2 (.inr (OrderedMap.mem_keys_iff.2 ⟨s, held⟩))
  | notice n => exact Iff.rfl

end Registry

namespace Compile

variable {α : Type} {context : Context} {s : Subject} {p p' : Progress} {operation : Api.Operation}
  {name : Text}

/-- What an input is made from: the type of the body and the members of the parameters. -/
def inputParts (s : Subject) (operation : Api.Operation) :
    Lowering (Option Text × InputMembers) := do
  let body ← bodyType s operation.body
  let members ← parameterMembers s 0 operation.parameters .empty
  return (body, members)

/-- The structure that an input is merged to, unless the body is the input itself. -/
def mergedWrite? (s : Subject) (operation : Api.Operation) (r : Registry) :
    Option Text × InputMembers → Option Effect
  | (body, members) =>
    if body.isSome && members.isEmpty then none
    else
      let required := (operation.body.map Api.RequestBody.required).getD false
      let (input, structure') := mergedInput s r body required members
      some (.structure input.type structure')

def inputWrites (s : Subject) (operation : Api.Operation) (r : Registry) : List Effect :=
  let parts := inputParts s operation
  parts.trace ++ (parts.result.toOption.bind
    (mergedWrite? s operation (r.applyAll parts.trace))).toList

def compiledName? (context : Context) (operation : Api.Operation) : Option Text :=
  (operationName? operation).filter fun name => !Filter.ignoresOperation
    context.override.ignoreOperations.members name operation.method.word

def operationWrites (context : Context) : List Api.Operation → Progress → List Effect
  | [], _ => []
  | operation :: rest, p =>
    ((compiledName? context operation).elim [] fun name =>
      inputWrites ⟨context, name⟩ operation p.model.registry) ++
      operationWrites context rest ((addOperations context [operation]).run.run p).2

/-- Unless told otherwise, the description of an operation names the type that its body refers
to. -/
def NamesBody (context : Context) (name : Text) (operation : Api.Operation)
    (description : OperationDescription) : Prop :=
  context.override.operationInputOverrides.get? name = none → ∀ type note,
    operation.body.bind Api.RequestBody.schema = some (.reference type note) →
      description.inputDescription.bodyStructureName = some type

theorem Careful.grows {x : Build α} (careful : Careful x) {a : α} (run : Runs x p a p') :
    p.Grows p' := by
  have grows := careful p
  rw [show x.run.run p = _ from run] at grows
  exact grows

theorem perform_model {work : Lowering α} {a : α} (run : Runs (perform work) p a p') :
    p'.model = { p.model with registry := p.model.registry.applyAll work.trace } := by
  obtain ⟨trace, result⟩ := work
  cases result with
  | ok b =>
    cases run
    rfl
  | error e => cases run

theorem perform_operations {work : Lowering α} {a : α} (run : Runs (perform work) p a p') :
    p'.model.operations = p.model.operations := by
  rw [perform_model run]

theorem lowerComponents_operations {l : List (Text × Schema)} {u : Unit}
    (run : Runs (lowerComponents context l) p u p') : p'.model.operations = p.model.operations := by
  induction l generalizing p with
  | nil =>
    obtain ⟨-, rfl⟩ := run.of_pure
    rfl
  | cons entry rest ih =>
    rw [lowerComponents_cons] at run
    obtain ⟨_, q, first, next⟩ := run.of_bind
    rw [ih next, perform_operations first]

theorem assembleInput_runs {body : Option Text} {members : InputMembers} {input : Input}
    (run : Runs (assembleInput s operation body members) p input p') :
    p'.model.registry = p.model.registry.applyAll
        (mergedWrite? s operation p.model.registry (body, members)).toList ∧
      p'.model.operations = p.model.operations ∧ input.description.bodyStructureName = body := by
  unfold assembleInput at run
  obtain ⟨registry, q, read, next⟩ := run.of_bind
  cases read
  cases body with
  | none =>
    obtain ⟨_, q, performed, returned⟩ := next.of_bind
    obtain ⟨rfl, rfl⟩ := returned.of_pure
    exact ⟨(perform_runs performed).2, perform_operations performed, rfl⟩
  | some type =>
    cases alone : members.isEmpty with
    | true =>
      simp only [alone] at next
      obtain ⟨rfl, rfl⟩ := next.of_pure
      refine ⟨?_, rfl, rfl⟩
      simp [mergedWrite?, alone, Registry.applyAll]
    | false =>
      simp only [alone] at next
      obtain ⟨_, q, performed, returned⟩ := next.of_bind
      obtain ⟨rfl, rfl⟩ := returned.of_pure
      refine ⟨?_, perform_operations performed, rfl⟩
      rw [(perform_runs performed).2]
      simp [mergedWrite?, alone, writeStructure, Traced.emit]

theorem bodyType_reference {body : Option Api.RequestBody} {type : SchemaName} {note : Option Text}
    (h : body.bind Api.RequestBody.schema = some (.reference type note)) :
    bodyType s body = pure (some type.val) := by
  simp only [bodyType, h]

/-- An operation is compiled in four parts: its body and parameters, its input, its responses, and
its description. -/
theorem decompose_parts {verb url : Text} {description : OperationDescription}
    (run : Runs (decompose context name verb url operation) p description p') :
    let s : Subject := ⟨context, name⟩
    ∃ body members input produced afterParts afterInput last,
      inputParts s operation = ⟨(inputParts s operation).trace, .ok (body, members)⟩ ∧
      afterParts.model = { p.model with
        registry := p.model.registry.applyAll (inputParts s operation).trace } ∧
      Runs (assembleInput s operation body members) afterParts input afterInput ∧
      Runs (produceAll s operation.responses) afterInput produced last ∧
      p'.model = last.model ∧ description = describe s verb url operation input produced := by
  unfold decompose at run
  obtain ⟨body, afterBody, ofBody, next⟩ := run.of_bind
  obtain ⟨members, afterParts, ofParameters, next⟩ := next.of_bind
  obtain ⟨input, afterInput, assembled, next⟩ := next.of_bind
  obtain ⟨produced, last, ofResponses, next⟩ := next.of_bind
  obtain ⟨_, _, reported, returned⟩ := next.of_bind
  obtain rfl := reported.of_modify
  obtain ⟨rfl, rfl⟩ := returned.of_pure
  have parts : inputParts ⟨context, name⟩ operation =
      ⟨(bodyType ⟨context, name⟩ operation.body).trace ++
        (parameterMembers ⟨context, name⟩ 0 operation.parameters .empty).trace,
        .ok (body, members)⟩ := by
    unfold inputParts
    rw [(perform_runs ofBody).1, (perform_runs ofParameters).1]
    simp [bind, Traced.andThen, pure]
  refine ⟨body, members, input, produced, afterParts, afterInput, last, ?_, ?_,
    assembled, ofResponses, rfl, rfl⟩
  · rw [parts]
  · rw [perform_model ofParameters, perform_model ofBody, parts, Registry.applyAll_append]

theorem decompose_runs {verb url : Text} {description : OperationDescription}
    (run : Runs (decompose context name verb url operation) p description p') :
    Registry.Kept (p.model.registry.applyAll
        (inputWrites ⟨context, name⟩ operation p.model.registry)) p'.model.registry ∧
      p'.model.operations = p.model.operations ∧
      NamesBody context name operation description := by
  obtain ⟨body, members, input, produced, afterParts, afterInput, last, parts, ofParts, assembled,
    ofResponses, same, rfl⟩ := decompose_parts run
  obtain ⟨inputWritten, sameOperations, named⟩ := assembleInput_runs assembled
  have grows := (careful_steps.of_produceAll _).grows ofResponses
  have written : afterInput.model.registry = p.model.registry.applyAll
      (inputWrites ⟨context, name⟩ operation p.model.registry) := by
    rw [inputWrites, parts, inputWritten, ofParts]
    exact (Registry.applyAll_append ..).symm
  rw [same]
  refine ⟨?_, ?_, ?_⟩
  · rw [← written]
    exact grows.types
  · rw [grows.operations, sameOperations, ofParts]
  · intro unchanged type note referred
    have ofBody : body = some type := by
      unfold inputParts at parts
      rw [bodyType_reference referred] at parts
      obtain ⟨_, first, second, given, next, -⟩ := Traced.bind_eq_ok parts
      obtain ⟨_, third, fourth, -, returned, -⟩ := Traced.bind_eq_ok next
      obtain ⟨-, rfl⟩ := Traced.pure_eq_ok given
      cases (Traced.pure_eq_ok returned).2
      rfl
    simp [describe, Subject.override, unchanged, named, ofBody]

theorem addOperation_decomposes {u : Unit}
    (run : Runs (addOperation context name operation) p u p') :
    ∃ q description q', q.model = p.model ∧
      Runs (decompose context name operation.method.word operation.path operation) q
        description q' ∧
      p'.model = { q'.model with operations := q'.model.operations.insert name description } := by
  unfold addOperation at run
  obtain ⟨_, _, read, next⟩ := run.of_bind
  cases read
  split at next
  · obtain ⟨_, q, reported, last⟩ := next.of_bind
    obtain ⟨description, q', decomposed, kept⟩ := last.of_bind
    obtain rfl := reported.of_modify
    obtain rfl := kept.of_modify
    refine ⟨_, description, q', ?_, decomposed, rfl⟩
    rfl
  · obtain ⟨description, q', decomposed, kept⟩ := next.of_bind
    obtain rfl := kept.of_modify
    exact ⟨p, description, q', rfl, decomposed, rfl⟩

theorem addOperation_runs {u : Unit} (run : Runs (addOperation context name operation) p u p') :
    Registry.Kept (p.model.registry.applyAll
        (inputWrites ⟨context, name⟩ operation p.model.registry)) p'.model.registry ∧
      ∃ description, p'.model.operations = p.model.operations.insert name description ∧
        NamesBody context name operation description := by
  obtain ⟨q, description, q', same, decomposed, kept⟩ := addOperation_decomposes run
  have done := decompose_runs decomposed
  rw [same] at done
  rw [kept, ← done.2.1]
  exact ⟨done.1, description, rfl, done.2.2⟩

theorem addOperations_cons {rest : List Api.Operation} :
    addOperations context (operation :: rest) =
      addOperations context [operation] >>= fun _ => addOperations context rest := by
  simp only [addOperations]
  split
  · simp
  · split <;> simp

theorem addOperations_single {u : Unit} (run : Runs (addOperations context [operation]) p u p') :
    compiledName? context operation = none ∧ p'.model = p.model ∨
      ∃ name, compiledName? context operation = some name ∧
        Runs (addOperation context name operation) p u p' := by
  unfold addOperations at run
  unfold compiledName?
  split at run
  · rename_i unnamed
    obtain ⟨_, q, reported, next⟩ := run.of_bind
    obtain rfl := reported.of_modify
    obtain ⟨-, rfl⟩ := next.of_pure
    rw [unnamed]
    exact .inl ⟨rfl, rfl⟩
  · rename_i name named
    dsimp only at run
    rw [named, Option.filter_some]
    split at run
    · rename_i ignored
      obtain ⟨_, q, reported, next⟩ := run.of_bind
      obtain rfl := reported.of_modify
      obtain ⟨-, rfl⟩ := next.of_pure
      rw [ignored]
      exact .inl ⟨rfl, rfl⟩
    · rename_i kept
      obtain ⟨_, q, added, next⟩ := run.of_bind
      obtain ⟨-, rfl⟩ := next.of_pure
      rw [eq_false_of_ne_true kept]
      exact .inr ⟨name, rfl, added⟩

theorem addOperations_runs {operations : List Api.Operation} {u : Unit}
    (run : Runs (addOperations context operations) p u p') :
    Registry.Kept (p.model.registry.applyAll (operationWrites context operations p))
        p'.model.registry ∧
      ∀ name description, p'.model.operations.get? name = some description →
        p.model.operations.get? name = some description ∨
          ∃ operation ∈ operations, compiledName? context operation = some name ∧
            NamesBody context name operation description := by
  induction operations generalizing p with
  | nil =>
    obtain ⟨-, rfl⟩ := run.of_pure
    exact ⟨.refl _, fun _ _ found => .inl found⟩
  | cons operation rest ih =>
    rw [addOperations_cons] at run
    obtain ⟨_, q, first, next⟩ := run.of_bind
    obtain ⟨later, described⟩ := ih next
    rw [operationWrites, Registry.applyAll_append, show StateT.run _ p = _ from first]
    have widen : ∀ {name description}, (∃ operation ∈ rest,
        compiledName? context operation = some name ∧
          NamesBody context name operation description) →
        ∃ other ∈ operation :: rest, compiledName? context other = some name ∧
          NamesBody context name other description := by
      rintro name description ⟨other, listed, ofOther⟩
      exact ⟨other, List.mem_cons_of_mem _ listed, ofOther⟩
    -- later inputs write over what is kept so far, and keep the same of it
    rcases addOperations_single first with ⟨left, same⟩ | ⟨name, compiled, added⟩
    · rw [left]
      rw [same] at later described
      exact ⟨later,
        fun name description found => (described name description found).imp_right widen⟩
    · obtain ⟨kept, own, inserted, tells⟩ := addOperation_runs added
      rw [compiled]
      refine ⟨(kept.applyAll _).trans later, ?_⟩
      intro other description found
      rcases described other description found with early | later
      · rw [inserted, OrderedMap.get?_insert] at early
        split at early
        · cases early
          exact .inr ⟨operation, List.mem_cons_self, by simp [*], by simp [*]⟩
        · exact .inl early
      · exact .inr (widen later)

end Compile

variable {d : Api.Description} {override : ModelOverride} {model : ServiceModel} {p : Progress}

/-- An entry that was there before the first operation is unchanged in the model exactly if the
unchecked writes of inputs leave it unchanged, and so is each that none of them contradicts. The
types that the bodies of operations refer to are among them. -/
theorem component_kept_iff
    (lowered : Runs (lowerComponents ⟨override, d.schemas⟩ d.schemas.entries) (start d.info) () p)
    (built : (build d override).result = .ok model) :
    let context : Context := ⟨override, d.schemas⟩
    let writes := operationWrites context d.operations p
    (∀ e, p.model.registry.Holds e →
      (model.registry.Keeps e ↔ (p.model.registry.applyAll writes).Keeps e) ∧
        ((∀ e' ∈ writes, e.contradicts e' = false) → model.registry.Keeps e)) ∧
    ∀ name description, model.operations.get? name = some description →
      ∃ operation ∈ d.operations, compiledName? context operation = some name ∧
        ∀ type note, operation.body.bind Api.RequestBody.schema = some (.reference type note) →
          (override.operationInputOverrides.get? name = none →
            description.inputDescription.bodyStructureName = some type) ∧
          ∀ s, p.model.registry.structures.get? type = some s →
            (∀ e' ∈ writes, Effect.contradicts (.structure type s) e' = false) →
            ∃ t, model.registry.structures.get? type = some t ∧
              ∀ key, t.members.get? key = s.members.get? key := by
  obtain ⟨last, run, rfl⟩ := runs_of_build built
  obtain ⟨_, afterComponents, components, next⟩ := run.of_bind
  obtain ⟨_, afterOperations, added, finished⟩ := next.of_bind
  -- a run has one end: the components of this build are those given
  cases lowered.symm.trans components
  obtain ⟨later, described⟩ := addOperations_runs added
  have finish_operations : last.model.operations = afterOperations.model.operations := by
    cases finished
    rfl
  rw [finish_registry finished, finish_operations]
  have kept : ∀ e, p.model.registry.Holds e →
      (∀ e' ∈ operationWrites ⟨override, d.schemas⟩ d.operations p, e.contradicts e' = false) →
      afterOperations.model.registry.Keeps e :=
    fun e held spared => (Registry.keeps_applyAll held spared).trans later
  refine ⟨fun e held => ⟨Registry.keeps_iff_of_kept held later, kept e held⟩, ?_⟩
  intro name description found
  have none : p.model.operations.get? name = none := by
    rw [lowerComponents_operations components]
    rfl
  obtain ⟨operation, listed, compiled, tells⟩ :=
    (described name description found).resolve_left (by simp [none])
  refine ⟨operation, listed, compiled, ?_⟩
  intro type note referred
  refine ⟨fun unchanged => tells unchanged type note referred, ?_⟩
  intro s known spared
  obtain ⟨t, stays, same⟩ := kept (.structure type s) known spared
  exact ⟨t, stays, fun key => (((Structure.same_iff s t).1 same).1 key).symm⟩

def market : Api.Description where
  info := ⟨"Market", "1", none⟩
  servers := []
  schemas := .ofList
    [("AddItemRequest", .object default [] [("name", .string default default)] none),
      ("Item", .object default [] [("size", .integer default default)] none)]
  operations :=
    [{ path := "/items"
       method := .post
       id := some "addItem"
       summary := none
       description := none
       parameters := [⟨"dryRun", .query, false, none, some (.boolean default)⟩]
       body := some ⟨true, none, [], some (.reference ⟨"AddItemRequest", by decide⟩ none)⟩
       responses := [] },
      { path := "/items"
        method := .put
        id := some "setItem"
        summary := none
        description := none
        parameters := [⟨"dryRun", .query, false, none, some (.boolean default)⟩]
        body := some ⟨true, none, [], some (.reference itemName none)⟩
        responses := [] }]
  version := "3.0.0"

def marketTypes : Progress :=
  ((lowerComponents ⟨default, market.schemas⟩ market.schemas.entries).run.run (start market.info)).2

theorem component_kept_iff_market :
    ∃ model s t, (build market default).result = .ok model ∧
      marketTypes.model.registry.structures.get? "Item" = some s ∧
      model.registry.structures.get? "Item" = some t ∧ s.same t = true := by
  have ok : (build market default).result.isOk = true := by decide +kernel
  have spared : (marketTypes.model.registry.structures.get? "Item").any fun s =>
      (operationWrites ⟨default, market.schemas⟩ market.operations marketTypes).all fun e =>
        !Effect.contradicts (.structure "Item" s) e := by decide +kernel
  obtain ⟨s, known, free⟩ := (Option.any_eq_true _ _).1 spared
  cases built : (build market default).result with
  | error e => simp [built, Except.isOk, Except.toBool] at ok
  | ok model =>
    have lowered : Runs (lowerComponents ⟨default, market.schemas⟩ market.schemas.entries)
        (start market.info) () marketTypes := runs_of_isOk (by decide +kernel)
    obtain ⟨t, found, same⟩ := ((component_kept_iff lowered built).1 (.structure "Item" s) known).2
      (by simpa using free)
    exact ⟨model, s, t, rfl, known, found, same⟩

/-- An operation may take over the very type that its body refers to. -/
theorem not_kept_market :
    ∃ model s t,
      Runs (lowerComponents ⟨default, market.schemas⟩ market.schemas.entries) (start market.info) ()
        marketTypes ∧
      (build market default).result = .ok model ∧
      marketTypes.model.registry.structures.get? "AddItemRequest" = some s ∧
      model.registry.structures.get? "AddItemRequest" = some t ∧ s.same t = false ∧
      s.members.keys = [("name" : Text)] ∧ t.members.keys = [("dryRun" : Text), "name"] := by
  have clash : (marketTypes.model.registry.structures.get? "AddItemRequest").any fun s =>
      (build market default).result.toOption.any fun model =>
        (model.registry.structures.get? "AddItemRequest").any fun t =>
          !s.same t && s.members.keys == [("name" : Text)] &&
            t.members.keys == [("dryRun" : Text), "name"] := by
    decide +kernel
  obtain ⟨s, known, clash⟩ := (Option.any_eq_true _ _).1 clash
  cases built : (build market default).result with
  | error e => simp [built, Except.toOption] at clash
  | ok model =>
    simp only [built, Except.toOption, Option.any_some] at clash
    obtain ⟨t, found, clash⟩ := (Option.any_eq_true _ _).1 clash
    simp only [Bool.and_eq_true, Bool.not_eq_true', beq_iff_eq] at clash
    exact ⟨model, s, t, runs_of_isOk (by decide +kernel), rfl, known, found, clash.1.1, clash.1.2,
      clash.2⟩

end ApiModel

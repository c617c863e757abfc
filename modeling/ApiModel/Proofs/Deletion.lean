import ApiModel.Proofs.Lowering
import ApiModel.Proofs.Abreast

/-! Ignore lists. To ignore an operation or a header is the same as to delete it from the
description: nothing else that is built depends on what was ignored, not even a position. -/
namespace ApiModel

def ModelOverride.withoutIgnoreLists (o : ModelOverride) : ModelOverride :=
  { o with
    ignoreOperations := .empty
    ignoreResponseHeaders := .empty
    ignoreRequestHeaders := .empty }

namespace Filter

@[simp] theorem matchesAny_nil (segments : List Text) : matchesAny [] segments = false := rfl

end Filter

/-! What is deleted. -/

namespace Api

variable (o : ModelOverride) (name : Text)

def Parameter.isIgnored (p : Parameter) : Bool :=
  p.place = .header && Filter.ignoresRequestHeader o.ignoreRequestHeaders.members name p.name

def Response.withoutIgnored (response : Response) : Response :=
  { response with
    headers := response.headers.filterKeys fun header =>
      !(Number.integer? response.status).any fun code =>
        Filter.ignoresResponseHeader o.ignoreResponseHeaders.members name code header }

def Operation.isIgnored (operation : Operation) : Bool :=
  operation.id.any fun name =>
    Filter.ignoresOperation o.ignoreOperations.members name operation.method.word

def Operation.withoutHeaders (operation : Operation) : Operation :=
  { operation with
    parameters := operation.parameters.filter fun p => !p.isIgnored o name
    responses := operation.responses.map fun response => response.withoutIgnored o name }

def Operation.withoutIgnored (operation : Operation) : Operation :=
  operation.id.elim operation fun name => operation.withoutHeaders o name

def Description.withoutIgnored (d : Description) : Description :=
  { d with
    operations := (d.operations.filter fun operation => !operation.isIgnored o).map fun operation =>
      operation.withoutIgnored o }

end Api

namespace Compile

open ServiceModel (AlikeBut)

/-! Lowering reads no ignore list. -/

theorem lowerSchema_withoutIgnoreLists {o : ModelOverride} {cross : Crossing} (schema : Schema) :
    ∀ name, lowerSchema o.withoutIgnoreLists cross name schema =
      lowerSchema o cross name schema := by
  apply lowerSchema_congr
  · intro name schema
    rfl
  · intro target _ union enclosing
    rfl

def Context.withoutIgnoreLists (context : Context) : Context :=
  { context with override := context.override.withoutIgnoreLists }

variable {context : Context}

theorem crossing_withoutIgnoreLists (pending : List Text) :
    crossing context.withoutIgnoreLists pending = crossing context pending := by
  induction hn : pending.length using Nat.strongRecOn generalizing pending with
  | ind n ih =>
    funext union enclosing target
    rw [crossing, crossing]
    simp only [Context.withoutIgnoreLists] at *
    split
    · rfl
    · split
      · rename_i waiting
        have shorter : (pending.erase target).length < n := by
          rw [← hn, List.length_erase_of_mem waiting]
          have := List.length_pos_of_mem waiting
          omega
        rw [ih _ shorter _ rfl,
          lowerProperties_congr fun e _ => lowerSchema_withoutIgnoreLists e.2]
      · rfl
    · rfl

theorem cross_withoutIgnoreLists : context.withoutIgnoreLists.cross = context.cross :=
  crossing_withoutIgnoreLists context.components.keys

theorem lower_withoutIgnoreLists : lower context.withoutIgnoreLists = lower context := by
  funext name schema
  rw [lower, cross_withoutIgnoreLists]
  exact lowerSchema_withoutIgnoreLists schema name

theorem lowerObject_withoutIgnoreLists :
    lowerObject context.withoutIgnoreLists = lowerObject context := by
  funext name description required properties
  rw [lowerObject, lowerObject, cross_withoutIgnoreLists]
  simp only [Context.withoutIgnoreLists]
  rw [lowerProperties_congr fun e _ => lowerSchema_withoutIgnoreLists e.2]

theorem lowerSimple_withoutIgnoreLists :
    lowerSimple context.withoutIgnoreLists = lowerSimple context := by
  funext type schema location
  unfold lowerSimple
  rw [lower_withoutIgnoreLists]
  rfl

/-! Inputs. -/

section Inputs

open Api (Parameter)

variable {s : Subject}

def Subject.withoutIgnoreLists (s : Subject) : Subject :=
  { s with context := s.context.withoutIgnoreLists }

theorem nothing_ignored : s.withoutIgnoreLists.override.ignoreRequestHeaders.members = [] ∧
    s.withoutIgnoreLists.override.ignoreResponseHeaders.members = [] := ⟨rfl, rfl⟩

theorem bodyType_parallel (body : Option Api.RequestBody) :
    Parallel Eq (bodyType s body) (bodyType s.withoutIgnoreLists body) := by
  have same : bodyType s.withoutIgnoreLists body = bodyType s body := by
    unfold bodyType
    rw [show lower s.withoutIgnoreLists.context = lower s.context from lower_withoutIgnoreLists]
    rfl
  rw [same]
  exact .refl _

def InputMembers.unplaced (m : InputMembers) : InputMembers :=
  ⟨Members.unplaced m.query, Members.unplaced m.header, Members.unplaced m.path⟩

theorem InputMembers.unplaced_insert (m : InputMembers) (place : Api.Place) (name : Text)
    (member : Member) :
    (m.insert place name member).unplaced = m.unplaced.insert place name member.unplaced := by
  cases place <;>
    simp only [InputMembers.unplaced, InputMembers.insert, Members.unplaced,
      OrderedMap.mapVals_insert]

theorem InputMembers.isEmpty_unplaced (m : InputMembers) : m.unplaced.isEmpty = m.isEmpty := by
  simp only [InputMembers.isEmpty, InputMembers.unplaced, Members.unplaced,
    OrderedMap.isEmpty_mapVals]

theorem parameterMember_parallel (n n' : Nat) (p : Parameter) :
    Parallel (fun a b => a.unplaced = b.unplaced) (parameterMember s n p)
      (parameterMember s.withoutIgnoreLists n' p) := by
  unfold parameterMember
  rw [show lowerSimple s.withoutIgnoreLists.context = lowerSimple s.context from
    lowerSimple_withoutIgnoreLists]
  refine .of_bind (.refl _) ?_
  rintro type _ rfl
  exact .of_pure rfl

theorem parameterMembers_parallel (parameters : List Parameter) : ∀ n n' members members',
    members.unplaced = members'.unplaced →
    Parallel (fun a b => a.unplaced = b.unplaced) (parameterMembers s n parameters members)
      (parameterMembers s.withoutIgnoreLists n'
        (parameters.filter fun p => !p.isIgnored s.override s.name) members') := by
  induction parameters with
  | nil =>
    intro n n' members members' same
    exact .of_pure same
  | cons p rest ih =>
    intro n n' members members' same
    -- an ignored parameter still takes a position, so the two runs count on their own
    by_cases ignored : p.isIgnored s.override s.name = true
    · have place : p.place ≠ .cookie := by
        intro cookie
        simp [Parameter.isIgnored, cookie] at ignored
      rw [List.filter_cons_of_neg (by simpa using ignored), parameterMembers, if_neg place,
        if_pos (by exact ignored)]
      exact .noted _ (ih _ _ _ _ same)
    · rw [List.filter_cons_of_pos (by simpa using ignored), parameterMembers, parameterMembers]
      by_cases cookie : p.place = .cookie
      · rw [if_pos cookie, if_pos cookie]
        exact .of_fail _
      · rw [if_neg cookie, if_neg cookie, if_neg (by exact ignored),
          if_neg (by simp [Filter.ignoresRequestHeader, nothing_ignored])]
        refine .of_bind (parameterMember_parallel n n' p) fun member member' alike => ih _ _ _ _ ?_
        rw [InputMembers.unplaced_insert, InputMembers.unplaced_insert, same, alike]

theorem mergedInput_unplaced {r : Registry} {body : Option Text} {required : Bool}
    {members members' : InputMembers} (same : members.unplaced = members'.unplaced) :
    mergedInput s r body required members =
      mergedInput s.withoutIgnoreLists r body required members' := by
  have merged (ofBody : OrderedMap Member) (m : InputMembers) :
      Members.merge [("body", ofBody), ("query", m.query), ("header", m.header), ("path", m.path)] =
        Members.merge [("body", Members.unplaced ofBody), ("query", m.unplaced.query),
          ("header", m.unplaced.header), ("path", m.unplaced.path)] :=
    (Members.merge_unplaced _).symm
  unfold mergedInput
  simp only [merged _ members, merged _ members', same]
  rfl

theorem assembleInput_abreast {operation operation' : Api.Operation} {body : Option Text}
    {members members' : InputMembers} (sameBody : operation.body = operation'.body)
    (same : members.unplaced = members'.unplaced) :
    Abreast (AlikeBut Eq) Eq (assembleInput s operation body members)
      (assembleInput s.withoutIgnoreLists operation' body members') := by
  unfold assembleInput
  rw [← members.isEmpty_unplaced, same, members'.isEmpty_unplaced, sameBody]
  refine .of_bind .of_currentRegistry ?_
  rintro r _ rfl
  split
  · exact .of_pure rfl
  · dsimp only
    rw [mergedInput_unplaced same]
    exact .of_bind (.perform_parallel (.refl _)) fun _ _ _ => .of_pure rfl

theorem inputOf_abreast (operation : Api.Operation) :
    Abreast (AlikeBut Eq) Eq (inputOf s operation)
      (inputOf s.withoutIgnoreLists (operation.withoutHeaders s.override s.name)) := by
  refine .of_bind (.perform_parallel (bodyType_parallel operation.body)) ?_
  rintro body _ rfl
  refine .of_bind
    (.perform_parallel (parameterMembers_parallel operation.parameters _ _ _ _ rfl)) ?_
  exact fun members members' same => assembleInput_abreast rfl same

end Inputs

/-! Responses. -/

section Responses

open Api (Response)

variable {s : Subject} {code : Int}

theorem headerMembers_parallel (headers : List (Text × Api.Header)) : ∀ n n' members members',
    Members.unplaced members = Members.unplaced members' →
    Parallel (fun a b => Members.unplaced a = Members.unplaced b)
      (headerMembers s code n headers members)
      (headerMembers s.withoutIgnoreLists code n' (headers.filter fun e =>
        !Filter.ignoresResponseHeader s.override.ignoreResponseHeaders.members s.name code e.1)
        members') := by
  induction headers with
  | nil =>
    intro n n' members members' same
    exact .of_pure same
  | cons entry rest ih =>
    obtain ⟨name, header⟩ := entry
    intro n n' members members' same
    by_cases ignored : Filter.ignoresResponseHeader s.override.ignoreResponseHeaders.members s.name
        code name = true
    · rw [List.filter_cons_of_neg (by simpa using ignored), headerMembers, if_pos ignored]
      exact .noted _ (ih _ _ _ _ same)
    · rw [List.filter_cons_of_pos (by simpa using ignored), headerMembers, if_neg ignored,
        headerMembers, if_neg (by simp [Filter.ignoresResponseHeader, nothing_ignored]),
        show lowerSimple s.withoutIgnoreLists.context = lowerSimple s.context from
          lowerSimple_withoutIgnoreLists]
      refine .of_bind (.refl _) ?_
      rintro type _ rfl
      apply ih
      rw [Members.unplaced, Members.unplaced, OrderedMap.mapVals_insert, OrderedMap.mapVals_insert]
      exact congrArg (fun m => OrderedMap.insert m name _) same

theorem mergedOutput_unplaced {r : Registry} {suffix : Text} {body : Option Text}
    {headers headers' : OrderedMap Member}
    (same : Members.unplaced headers = Members.unplaced headers') :
    mergedOutput s r code suffix body headers =
      mergedOutput s.withoutIgnoreLists r code suffix body headers' := by
  have merged (ofBody headers : OrderedMap Member) :
      Members.merge [("body", ofBody), ("header", headers)] =
        Members.merge [("body", Members.unplaced ofBody), ("header", Members.unplaced headers)] :=
    (Members.merge_unplaced _).symm
  unfold mergedOutput
  simp only [merged _ headers, merged _ headers', same]
  rfl

def likeness (s : Subject) : Likeness where
  bodies := Eq
  headers code entries entries' := entries' = entries.filter fun e =>
    !Filter.ignoresResponseHeader s.override.ignoreResponseHeaders.members s.name code e.1
  members m m' := Members.unplaced m = Members.unplaced m'

theorem responsePairs : ResponsePairs s s.withoutIgnoreLists (likeness s)
    (Abreast (AlikeBut Eq) Eq) where
  toSteps := Abreast.operationSteps.toSteps
  name_eq := rfl
  shaped := by
    rintro schema _ rfl
    exact shaped_self schema
  isEmpty_eq := Members.isEmpty_eq_of_unplaced
  of_classify := .of_classify
  of_headers := by
    rintro _ code headers _ f g rfl next
    exact .of_bind (.performChecked_parallel (headerMembers_parallel headers _ _ _ _ rfl)) next
  of_object := by
    rintro notes _ required _ properties _ code suffix ⟨⟩
    unfold bodyStructure
    rw [show lowerObject s.withoutIgnoreLists.context = lowerObject s.context from
      lowerObject_withoutIgnoreLists]
    exact .performChecked_parallel (.refl _)
  of_mergeOutput := by
    intro m m' code suffix body same
    refine .of_bind .of_currentRegistry ?_
    rintro r _ rfl
    rw [mergedOutput_unplaced same]
    exact .of_bind (.performChecked_parallel (.refl _)) fun _ _ _ => .of_pure rfl

theorem likeness_pairs (response : Response) :
    (likeness s).Pairs response (response.withoutIgnored s.override s.name) := by
  refine ⟨rfl, ?_, fun code coded => ?_⟩
  · change Option.Rel Eq response.schema response.schema
    cases response.schema with
    | none => exact .none
    | some schema => exact .some rfl
  · simp [likeness, Response.withoutIgnored, OrderedMap.filterKeys, coded]

end Responses

/-! Operations. -/

section Operations

variable {name : Text}

theorem addOperation_abreast (operation : Api.Operation) :
    Abreast (AlikeBut Eq) Eq (addOperation context name operation)
      (addOperation context.withoutIgnoreLists name
        (operation.withoutHeaders context.override name)) := by
  let s : Subject := ⟨context, name⟩
  refine Abreast.operationSteps.of_addOperation ?_
  refine Abreast.operationSteps.of_decompose (inputOf_abreast (s := s) operation) ?_ rfl
  refine (responsePairs (s := s)).of_produceAll ?_
  exact List.forall₂_map_right_iff.2 (List.forall₂_same.2 fun response _ => likeness_pairs response)

theorem operationName?_eq {operation : Api.Operation} (h : operationName? operation = some name) :
    operation.id = some name :=
  (Option.filter_eq_some_iff.1 h).1

theorem operationName?_withoutIgnored (o : ModelOverride) (operation : Api.Operation) :
    operationName? (operation.withoutIgnored o) = operationName? operation := by
  unfold Api.Operation.withoutIgnored
  cases operation.id <;> rfl

theorem addOperations_abreast (operations : List Api.Operation) :
    Abreast (AlikeBut Eq) Eq (addOperations context operations)
      (addOperations context.withoutIgnoreLists ((operations.filter fun operation =>
        !operation.isIgnored context.override).map fun operation =>
          operation.withoutIgnored context.override)) := by
  induction operations with
  | nil => exact .of_pure rfl
  | cons operation rest ih =>
    rw [addOperations]
    by_cases ignored : operation.isIgnored context.override = true
    · rw [List.filter_cons_of_neg (by simpa using ignored)]
      split
      · exact .reported _ ih
      · rename_i name named
        have id := operationName?_eq named
        dsimp only
        rw [if_pos (by simpa [Api.Operation.isIgnored, id] using ignored)]
        exact .reported _ ih
    · rw [List.filter_cons_of_pos (by simpa using ignored), List.map_cons, addOperations,
        operationName?_withoutIgnored]
      split
      · exact .of_bind (.of_report _ _) fun _ _ _ => ih
      · rename_i name named
        have id := operationName?_eq named
        -- headers are deleted under the name that the operation is compiled with
        have kept : operation.withoutIgnored context.override =
            operation.withoutHeaders context.override name := by
          simp [Api.Operation.withoutIgnored, id]
        dsimp only
        rw [if_neg (by simpa [Api.Operation.isIgnored, id] using ignored),
          if_neg (by exact Bool.false_ne_true), kept]
        exact .of_bind (addOperation_abreast operation) fun _ _ _ => ih

end Operations

end Compile

open Compile
open ServiceModel (AlikeBut)

/-- What is ignored might as well not be there: with and without it, the same model is built, or the
same error is found. -/
theorem build_withoutIgnored (d : Api.Description) (o : ModelOverride) :
    (build (d.withoutIgnored o) o.withoutIgnoreLists).result = (build d o).result := by
  let context : Context := ⟨o, d.schemas⟩
  have abreast : Abreast (AlikeBut Eq) Eq (buildAll context d)
      (buildAll context.withoutIgnoreLists (d.withoutIgnored o)) := by
    refine .of_bind (Abreast.operationSteps.of_lowerComponents ?_) fun _ _ _ => ?_
    · refine List.forall₂_same.2 fun e _ => ?_
      rw [lower_withoutIgnoreLists]
      exact .perform_parallel (.refl _)
    · exact .of_bind (addOperations_abreast _) fun _ _ _ =>
        .of_finish fun _ _ same => congrArg Registry.typeMappings same
  exact (Abreast.outcome_eq abreast (start d.info)).symm

end ApiModel

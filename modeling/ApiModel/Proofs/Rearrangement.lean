import ApiModel.Proofs.Steps

/-! Order that makes no difference. Properties are lowered in the order of their names, and a list
of required names is only asked what it contains. So descriptions whose schemas differ in no other
way are compiled by one and the same program. -/
namespace ApiModel

namespace Schema

/-- Schemas that differ at most in the order of properties and in how the required ones are listed,
at any depth. -/
inductive Rearranged : Schema → Schema → Prop where
  | same (s : Schema) : Rearranged s s
  | array {notes : Notes} {length : LengthRange} {items items' : Schema}
      (parts : Rearranged items items') :
      Rearranged (.array notes length (some items)) (.array notes length (some items'))
  | object {notes : Notes} {required required' : List Text}
      {properties properties' : List (Text × Schema)} {additional additional' : Option Schema}
      (listed : ∀ key, key ∈ required ↔ key ∈ required')
      (keys : (properties.map Prod.fst).Perm (properties'.map Prod.fst))
      (distinct : (properties.map Prod.fst).Nodup)
      (parts : ∀ key s s', (key, s) ∈ properties → (key, s') ∈ properties' → Rearranged s s')
      (open_iff : additional.isSome = additional'.isSome)
      (values : ∀ s s', additional = some s → additional' = some s' → Rearranged s s') :
      Rearranged (.object notes required properties additional)
        (.object notes required' properties' additional')
  | union {kind : UnionKind} {description : Option Text} {branches branches' : List Schema}
      (count : branches.length = branches'.length)
      (parts : ∀ s s', (s, s') ∈ branches.zip branches' → Rearranged s s') :
      Rearranged (.union kind description branches) (.union kind description branches')

namespace Rearranged

variable {s s' : Schema}

theorem kindWord_eq (h : Rearranged s s') : s.kindWord = s'.kindWord := by
  cases h <;> rfl

theorem description_eq (h : Rearranged s s') : s.description = s'.description := by
  cases h <;> rfl

theorem isPrimitive_eq (h : Rearranged s s') : s.isPrimitive = s'.isPrimitive := by
  cases h <;> rfl

theorem isReference_eq (h : Rearranged s s') : s.isReference = s'.isReference := by
  cases h <;> rfl

theorem mapValueType?_eq (h : Rearranged s s') :
    Compile.mapValueType? s = Compile.mapValueType? s' := by
  cases h <;> rfl

end Rearranged

end Schema

theorem perm_of_keys {α : Type} {l l' : List (Text × α)}
    (keys : (l.map Prod.fst).Perm (l'.map Prod.fst)) (distinct : (l.map Prod.fst).Nodup)
    (values : ∀ key a a', (key, a) ∈ l → (key, a') ∈ l' → a = a') : l.Perm l' := by
  have distinct' := keys.nodup_iff.1 distinct
  apply (List.perm_ext_iff_of_nodup distinct.of_map distinct'.of_map).2
  rintro ⟨key, a⟩
  constructor
  · intro listed
    obtain ⟨⟨_, a'⟩, listed', rfl⟩ := List.mem_map.1 (keys.mem_iff.1 (List.mem_map_of_mem listed))
    exact values _ _ _ listed listed' ▸ listed'
  · intro listed'
    obtain ⟨⟨_, a'⟩, listed, rfl⟩ := List.mem_map.1 (keys.mem_iff.2 (List.mem_map_of_mem listed'))
    exact values _ _ _ listed listed' ▸ listed

namespace Compile

/-! Lowering. -/

section Lowering

variable {o : ModelOverride} {cross : Crossing} {s s' : Schema} {enclosing : Text}
  {required required' : List Text} {properties properties' : List (Text × Schema)}

theorem gather_eq_of_perm {parts parts' : List (Text × Lowering Member)} (perm : parts.Perm parts')
    (distinct : (parts.map Prod.fst).Nodup) : gather parts = gather parts' := by
  unfold gather OrderedMap.sortedEntries
  rw [OrderedMap.entries_ofList distinct,
    OrderedMap.entries_ofList ((perm.map Prod.fst).nodup_iff.1 distinct),
    sortByKey_eq_of_perm perm distinct]

theorem lowerProperty_rearranged {key : Text} (listed : key ∈ required ↔ key ∈ required')
    (h : s.Rearranged s')
    (alike : ∀ name, lowerSchema o cross name s = lowerSchema o cross name s') :
    lowerProperty o cross enclosing required key s =
      lowerProperty o cross enclosing required' key s' := by
  have asked : required.contains key = required'.contains key := by
    simp [listed]
  by_cases inline : s.isReference = false
  · rw [lowerProperty_inline _ _ _ _ _ inline,
      lowerProperty_inline _ _ _ _ _ (h.isReference_eq ▸ inline), alike, asked, h.description_eq]
  · cases s <;> simp [Schema.isReference] at inline
    cases h
    rw [lowerProperty, asked, lowerProperty]

theorem gather_lowerProperties_rearranged (listed : ∀ key, key ∈ required ↔ key ∈ required')
    (keys : (properties.map Prod.fst).Perm (properties'.map Prod.fst))
    (distinct : (properties.map Prod.fst).Nodup)
    (parts : ∀ key s s', (key, s) ∈ properties → (key, s') ∈ properties' → s.Rearranged s')
    (alike : ∀ key s s', (key, s) ∈ properties → (key, s') ∈ properties' → ∀ name,
      lowerSchema o cross name s = lowerSchema o cross name s') :
    gather (lowerProperties o cross enclosing required properties) =
      gather (lowerProperties o cross enclosing required' properties') := by
  rw [lowerProperties_eq_map, lowerProperties_eq_map]
  have names (required : List Text) (l : List (Text × Schema)) :
      (l.map fun e => (e.1, lowerProperty o cross enclosing required e.1 e.2)).map Prod.fst =
        l.map Prod.fst := by
    rw [List.map_map]
    rfl
  refine gather_eq_of_perm (perm_of_keys ?_ ?_ ?_) ?_
  · rw [names, names]
    exact keys
  · rw [names]
    exact distinct
  · intro key part part' member member'
    obtain ⟨⟨_, s⟩, there, same⟩ := List.mem_map.1 member
    obtain ⟨⟨_, s'⟩, there', same'⟩ := List.mem_map.1 member'
    cases same
    cases same'
    exact lowerProperty_rearranged (listed _) (parts _ _ _ there there') (alike _ _ _ there there')
  · rw [names]
    exact distinct

theorem lowerBranches_rearranged {name : Text} {branches branches' : List Schema}
    (alike : List.Forall₂ (fun s s' => ∀ n, lowerBranch o cross name n s =
      lowerBranch o cross name n s')
      branches branches') (n : Nat) :
    lowerBranches o cross name n branches = lowerBranches o cross name n branches' := by
  induction alike generalizing n with
  | nil => rfl
  | cons first _ ih => rw [lowerBranches_cons, lowerBranches_cons, first, ih]

/-- Rearranged schemas are lowered alike, on their own and as branches of a union. A branch gives
its properties to the union, so the induction carries both. -/
theorem lowered_alike (h : s.Rearranged s') :
    (∀ name, lowerSchema o cross name s = lowerSchema o cross name s') ∧
      ∀ name n, lowerBranch o cross name n s = lowerBranch o cross name n s' := by
  induction h with
  | same s => exact ⟨fun _ => rfl, fun _ _ => rfl⟩
  | @array notes length items items' parts ih =>
    refine ⟨fun name => ?_, fun _ _ => rfl⟩
    by_cases inline : items.isReference = false
    · rw [lowerSchema_inlineArray _ _ _ _ _ inline,
        lowerSchema_inlineArray _ _ _ _ _ (parts.isReference_eq ▸ inline), ih.1]
    · cases items <;> simp [Schema.isReference] at inline
      cases parts
      rfl
  | @object notes required required' properties properties' additional additional'
        listed keys distinct
      parts open_iff values ih _ =>
    have members (enclosing : Text) :
        gather (lowerProperties o cross enclosing required properties) =
          gather (lowerProperties o cross enclosing required' properties') :=
      gather_lowerProperties_rearranged listed keys distinct parts fun key s s' there there' =>
        (ih key s s' there there').1
    cases additional with
    | none =>
      cases additional' with
      | some _ => cases open_iff
      | none =>
        constructor
        · intro name
          simp only [lowerSchema, members]
        · intro name n
          simp only [lowerBranch, members]
    | some value =>
      cases additional' with
      | none => cases open_iff
      | some value' =>
        have related := values value value' rfl rfl
        refine ⟨fun name => ?_, fun _ _ => rfl⟩
        simp only [lowerSchema, lowerMap, related.mapValueType?_eq, related.kindWord_eq]
  | union count parts ih =>
    refine ⟨fun name => ?_, fun _ _ => rfl⟩
    have branches := List.forall₂_iff_zip.2 ⟨count, fun {a b} there => (ih a b there).2 name⟩
    simp only [lowerSchema, lowerBranches_rearranged branches]

theorem members_of_object {notes : Notes}
    (h : (Schema.object notes required properties none).Rearranged s') :
    ∃ required' properties', s' = .object notes required' properties' none ∧
      ∀ o cross enclosing, gather (lowerProperties o cross enclosing required properties) =
        gather (lowerProperties o cross enclosing required' properties') := by
  cases h with
  | same => exact ⟨required, properties, rfl, fun _ _ _ => rfl⟩
  | @object _ _ required' _ properties' _ additional' listed keys distinct parts open_iff values =>
    cases additional' with
    | some _ => cases open_iff
    | none =>
      refine ⟨required', properties', rfl, fun o cross enclosing => ?_⟩
      exact gather_lowerProperties_rearranged listed keys distinct parts
        fun key s s' there there' =>
        (lowered_alike (parts key s s' there there')).1

theorem isSome_of_object {notes : Notes} {value : Schema}
    (h : (Schema.object notes required properties (some value)).Rearranged s') :
    ∃ required' properties' value', s' = .object notes required' properties' (some value') := by
  cases h with
  | same => exact ⟨_, _, _, rfl⟩
  | @object _ _ _ _ _ _ additional' _ _ _ _ open_iff _ =>
    cases additional' with
    | none => cases open_iff
    | some value' => exact ⟨_, _, _, rfl⟩

theorem branches_of_union {kind : UnionKind} {description : Option Text} {branches : List Schema}
    (h : (Schema.union kind description branches).Rearranged s') :
    ∃ branches', s' = .union kind description branches' ∧
      List.Forall₂ Schema.Rearranged branches branches' := by
  cases h with
  | same => exact ⟨branches, rfl, List.forall₂_same.2 fun s _ => .same s⟩
  | union count parts => exact ⟨_, rfl, List.forall₂_iff_zip.2 ⟨count, fun {a b} => parts a b⟩⟩

theorem shaped_of_rearranged (h : s.Rearranged s') : Shaped Schema.Rearranged s s' := by
  cases s with
  | reference name note =>
    cases h
    exact .reference _ _ _
  | union kind note branches =>
    obtain ⟨branches', rfl, each⟩ := branches_of_union h
    exact .union each
  | object notes required properties additional =>
    cases additional with
    | some value =>
      obtain ⟨_, _, _, rfl⟩ := isSome_of_object h
      exact .refused rfl rfl rfl
    | none =>
      obtain ⟨_, _, rfl, -⟩ := members_of_object h
      exact .object _ _ _ _ _ _
  | _ => cases h <;> exact .refused rfl rfl rfl

end Lowering

/-- Contexts with rearranged schemas under the same names. -/
structure Context.Rearranged (c c' : Context) : Prop where
  override_eq : c.override = c'.override
  names : c.components.keys.Perm c'.components.keys
  schemas : ∀ name, Option.Rel Schema.Rearranged (c.components.get? name) (c'.components.get? name)

section Contexts

variable {c c' : Context} {s s' : Schema}

theorem crossing_rearranged (h : c.Rearranged c') {pending pending' : List Text}
    (perm : pending.Perm pending') : crossing c pending = crossing c' pending' := by
  induction hn : pending.length using Nat.strongRecOn generalizing pending pending' with
  | ind n ih =>
    funext union enclosing target
    have deeper (waiting : target ∈ pending) :
        crossing c (pending.erase target) = crossing c' (pending'.erase target) := by
      refine ih _ ?_ (perm.erase target) rfl
      rw [← hn, List.length_erase_of_mem waiting]
      have := List.length_pos_of_mem waiting
      omega
    rw [crossing, crossing, ← h.override_eq]
    have found := h.schemas target
    generalize c.components.get? target = entry at *
    generalize c'.components.get? target = entry' at *
    cases found with
    | none => rfl
    | @some s s' related =>
      cases s with
      | object notes required properties additional =>
        cases additional with
        | some value =>
          obtain ⟨_, _, _, rfl⟩ := isSome_of_object related
          rfl
        | none =>
          obtain ⟨required', properties', rfl, members⟩ := members_of_object related
          dsimp only
          by_cases waiting : target ∈ pending
          · rw [dif_pos waiting, dif_pos (perm.mem_iff.1 waiting), deeper waiting, members]
          · rw [dif_neg waiting, dif_neg fun there => waiting (perm.mem_iff.2 there)]
      | _ => cases related <;> rfl

theorem cross_rearranged (h : c.Rearranged c') : c.cross = c'.cross :=
  crossing_rearranged h h.names

theorem lower_rearranged (h : c.Rearranged c') (related : s.Rearranged s') (name : Text) :
    lower c name s = lower c' name s' := by
  rw [lower, lower, ← h.override_eq, ← cross_rearranged h]
  exact (lowered_alike related).1 name

theorem lowerObject_rearranged (h : c.Rearranged c') {required required' : List Text}
    {properties properties' : List (Text × Schema)}
    (members : ∀ o cross enclosing, gather (lowerProperties o cross enclosing required properties) =
      gather (lowerProperties o cross enclosing required' properties'))
    (name : Text) (description : Option Text) :
    lowerObject c name description required properties =
      lowerObject c' name description required' properties' := by
  rw [lowerObject, lowerObject, ← h.override_eq, ← cross_rearranged h, members]

theorem lowerSimple_rearranged (h : c.Rearranged c') {schema schema' : Option Schema}
    (related : Option.Rel Schema.Rearranged schema schema') (type location : Text) :
    lowerSimple c type schema location = lowerSimple c' type schema' location := by
  cases related with
  | none => rfl
  | @some s s' related =>
    by_cases inline : s.isReference = false
    · have opened (c : Context) {s : Schema} (inline : s.isReference = false) :
          lowerSimple c type (some s) location =
            if s.isPrimitive then lower c type s
            else refuse (.parameterType s.kindWord) location := by
        cases s with
        | reference name description => simp [Schema.isReference] at inline
        | _ => rfl
      rw [opened c inline, opened c' (related.isReference_eq ▸ inline), related.isPrimitive_eq,
        related.kindWord_eq, lower_rearranged h related]
    · cases s <;> simp [Schema.isReference] at inline
      rename_i name description
      cases related
      have found := h.schemas name
      unfold lowerSimple
      dsimp only
      generalize c.components.get? name = entry at *
      generalize c'.components.get? name = entry' at *
      cases found with
      | none => rfl
      | some target =>
        dsimp only
        rw [target.isPrimitive_eq, target.kindWord_eq]

end Contexts

end Compile

namespace Api

/-! Descriptions with rearranged schemas. Everything else stands in the same order. -/

structure Parameter.Rearranged (p p' : Parameter) : Prop where
  rest : p = { p' with schema := p.schema }
  schema : Option.Rel Schema.Rearranged p.schema p'.schema

structure Header.Rearranged (h h' : Header) : Prop where
  rest : h = { h' with schema := h.schema }
  schema : Option.Rel Schema.Rearranged h.schema h'.schema

structure RequestBody.Rearranged (b b' : RequestBody) : Prop where
  rest : b = { b' with schema := b.schema }
  schema : Option.Rel Schema.Rearranged b.schema b'.schema

structure Response.Rearranged (r r' : Response) : Prop where
  rest : r = { r' with schema := r.schema, headers := r.headers }
  schema : Option.Rel Schema.Rearranged r.schema r'.schema
  headers : List.Forall₂ (fun e e' => e.1 = e'.1 ∧ Header.Rearranged e.2 e'.2)
    r.headers.entries r'.headers.entries

structure Operation.Rearranged (o o' : Operation) : Prop where
  rest : o = { o' with parameters := o.parameters, body := o.body, responses := o.responses }
  parameters : List.Forall₂ Parameter.Rearranged o.parameters o'.parameters
  body : Option.Rel RequestBody.Rearranged o.body o'.body
  responses : List.Forall₂ Response.Rearranged o.responses o'.responses

theorem Operation.Rearranged.refl (o : Operation) : o.Rearranged o := by
  have schemas (schema : Option Schema) : Option.Rel Schema.Rearranged schema schema := by
    cases schema with
    | none => exact .none
    | some s => exact .some (.same s)
  refine ⟨rfl, List.forall₂_same.2 fun p _ => ⟨rfl, schemas p.schema⟩, ?_,
    List.forall₂_same.2 fun r _ => ⟨rfl, schemas r.schema, ?_⟩⟩
  · cases o.body with
    | none => exact .none
    | some body => exact .some ⟨rfl, schemas body.schema⟩
  · exact List.forall₂_same.2 fun e _ => ⟨rfl, rfl, schemas e.2.schema⟩

structure Description.Rearranged (d d' : Description) : Prop where
  info_eq : d.info = d'.info
  schemas : List.Forall₂ (fun e e' => e.1 = e'.1 ∧ Schema.Rearranged e.2 e'.2)
    d.schemas.entries d'.schemas.entries
  operations : List.Forall₂ Operation.Rearranged d.operations d'.operations

end Api

namespace Compile

open Api (Parameter Response)

def rearrangement : Likeness where
  bodies := Schema.Rearranged
  headers _ := List.Forall₂ fun e e' => e.1 = e'.1 ∧ Api.Header.Rearranged e.2 e'.2
  members := Eq

theorem pairs_of_rearranged {response response' : Response}
    (related : response.Rearranged response') : rearrangement.Pairs response response' :=
  ⟨by rw [related.rest], related.schema, fun _ _ => related.headers⟩

variable {c c' : Context} (h : c.Rearranged c')
include h

/-! Inputs. -/

theorem bodyType_rearranged {body body' : Option Api.RequestBody}
    (related : Option.Rel Api.RequestBody.Rearranged body body') (name : Text) :
    bodyType ⟨c, name⟩ body = bodyType ⟨c', name⟩ body' := by
  cases related with
  | none => rfl
  | @some b b' related =>
    obtain ⟨-, schemas⟩ := related
    unfold bodyType
    simp only [Option.bind_some]
    generalize b.schema = schema at *
    generalize b'.schema = schema' at *
    cases schemas with
    | none => rfl
    | @some s s' related =>
      cases s with
      | object notes required properties additional =>
        cases additional with
        | some value =>
          obtain ⟨_, _, _, rfl⟩ := isSome_of_object related
          rfl
        | none =>
          have same := lower_rearranged h related (Text.upperFirst name ++ "RequestBody")
          obtain ⟨required', properties', rfl, -⟩ := members_of_object related
          exact congrArg (some <$> ·) same
      | _ => cases related <;> rfl

theorem parameterMembers_rearranged {parameters parameters' : List Parameter}
    (related : List.Forall₂ Api.Parameter.Rearranged parameters parameters') (name : Text) (n : Nat)
    (members : InputMembers) :
    parameterMembers ⟨c, name⟩ n parameters members =
      parameterMembers ⟨c', name⟩ n parameters' members := by
  induction related generalizing n members with
  | nil => rfl
  | @cons p p' rest rest' first _ ih =>
    obtain ⟨same, schemas⟩ := first
    obtain ⟨_, _, _, _, schema⟩ := p
    obtain ⟨_, _, _, _, schema'⟩ := p'
    cases same
    simp only [parameterMembers, parameterMember, lowerSimple_rearranged h schemas, ih,
      Subject.override, h.override_eq, Subject.lead]
    rfl

omit h in
theorem assembleInput_rearranged (c c' : Context) {operation operation' : Api.Operation}
    (related : Option.Rel Api.RequestBody.Rearranged operation.body operation'.body) (name : Text)
    (body : Option Text) (members : InputMembers) :
    assembleInput ⟨c, name⟩ operation body members =
      assembleInput ⟨c', name⟩ operation' body members := by
  have required : (operation.body.map Api.RequestBody.required).getD false =
      (operation'.body.map Api.RequestBody.required).getD false := by
    generalize operation.body = b at *
    generalize operation'.body = b' at *
    cases related with
    | none => rfl
    | some related => rw [related.rest]; rfl
  unfold assembleInput
  rw [required]
  rfl

/-! Responses. -/

theorem headerMembers_rearranged {headers headers' : List (Text × Api.Header)}
    (related :
      List.Forall₂ (fun e e' => e.1 = e'.1 ∧ Api.Header.Rearranged e.2 e'.2) headers headers')
    (name : Text) (code : Int) (n : Nat) (members : OrderedMap Member) :
    headerMembers ⟨c, name⟩ code n headers members =
      headerMembers ⟨c', name⟩ code n headers' members := by
  induction related generalizing n members with
  | nil => rfl
  | @cons e e' rest rest' first _ ih =>
    obtain ⟨key, header⟩ := e
    obtain ⟨key', header'⟩ := e'
    obtain ⟨rfl, same, schemas⟩ := first
    obtain ⟨_, _, schema⟩ := header
    obtain ⟨_, _, schema'⟩ := header'
    dsimp only at same schemas
    cases same
    simp only [headerMembers, lowerSimple_rearranged h schemas, ih, Subject.override, h.override_eq,
      Subject.lead]
    rfl

theorem responsePairs_rearranged (name : Text) :
    ResponsePairs ⟨c, name⟩ ⟨c', name⟩ rearrangement fun x y => x = y where
  toSteps := Steps.eq
  name_eq := rfl
  shaped := shaped_of_rearranged
  isEmpty_eq := congrArg _
  of_classify _ := rfl
  of_headers := by
    intro _ code headers headers' f g related next
    rw [headerMembers_rearranged h related, funext fun m => next m m rfl]
  of_object := by
    intro notes notes' required required' properties properties' code suffix related
    obtain ⟨_, _, same, members⟩ := members_of_object related
    cases same
    simp only [bodyStructure, lowerObject_rearranged h members, Subject.lead]
  of_mergeOutput := by
    rintro m _ code suffix body rfl
    rfl

/-! Operations. -/

theorem inputOf_rearranged {operation operation' : Api.Operation}
    (related : operation.Rearranged operation') (name : Text) :
    inputOf ⟨c, name⟩ operation = inputOf ⟨c', name⟩ operation' := by
  simp only [inputOf, bodyType_rearranged h related.body,
    parameterMembers_rearranged h related.parameters, assembleInput_rearranged c c' related.body]

theorem decompose_rearranged {name verb url : Text} {operation operation' : Api.Operation}
    (related : operation.Rearranged operation') :
    decompose c name verb url operation = decompose c' name verb url operation' := by
  refine Steps.eq.of_decompose (inputOf_rearranged h related name) ?_ ?_
  · exact (responsePairs_rearranged h name).of_produceAll
      (related.responses.imp fun _ _ => pairs_of_rearranged)
  · funext input produced
    rw [related.rest]
    unfold describe Subject.override
    rw [h.override_eq]

theorem addOperations_rearranged {operations operations' : List Api.Operation}
    (related : List.Forall₂ Api.Operation.Rearranged operations operations') :
    addOperations c operations = addOperations c' operations' := by
  refine Steps.eq.of_addOperations (congrArg _ h.override_eq) (related.imp ?_)
  intro operation operation' related
  have method : operation.method = operation'.method := by rw [related.rest]
  have path : operation.path = operation'.path := by rw [related.rest]
  refine ⟨?_, method, path, fun name => ?_⟩
  · rw [related.rest]
    rfl
  · rw [addOperation, addOperation, decompose_rearranged h related, method, path]

theorem lowerComponents_rearranged {components components' : List (Text × Schema)}
    (related :
      List.Forall₂ (fun e e' => e.1 = e'.1 ∧ Schema.Rearranged e.2 e'.2) components components') :
    lowerComponents c components = lowerComponents c' components' := by
  refine Steps.eq.of_lowerComponents (related.imp fun e e' both => ?_)
  rw [lower_rearranged h both.2, both.1]

end Compile

open Compile

theorem build_rearranged {d d' : Api.Description} (o : ModelOverride) (h : d.Rearranged d') :
    build d o = build d' o := by
  have context : Context.Rearranged ⟨o, d.schemas⟩ ⟨o, d'.schemas⟩ := by
    refine ⟨rfl, ?_, rel_lookup_of_forall₂ h.schemas⟩
    exact List.Perm.of_eq (keys_eq_of_forall₂ h.schemas)
  have program : buildAll ⟨o, d.schemas⟩ d = buildAll ⟨o, d'.schemas⟩ d' := by
    rw [buildAll, buildAll, lowerComponents_rearranged context h.schemas,
      addOperations_rearranged context h.operations]
  rw [build, build, program, h.info_eq]

end ApiModel

import ApiModel.Proofs.Effects
import ApiModel.Proofs.Soundness

/-! Operations keep the invariant of the model. The types of parameters, headers and bodies are
lowered on the spot or are references, and merged structures only take over members. -/
namespace ApiModel.Compile

open Api (Parameter Response)

variable {refs defined : Text → Prop} {context : Context} {s : Subject} {trace : List Effect}
  {r r' : Registry} {p p' : Progress}

/-- Effects that keep to the invariant on their own. -/
structure Clean (refs : Text → Prop) (trace : List Effect) : Prop where
  closed : Closed refs trace
  ranked : ∀ e ∈ trace, e.Ranked

namespace Clean

theorem nil : Clean refs [] := ⟨closed_nil, by simp⟩

theorem append {later : List Effect} (h : Clean refs trace) (h' : Clean refs later) :
    Clean refs (trace ++ later) := by
  refine ⟨h.closed.append h'.closed, ?_⟩
  intro e effect
  rcases List.mem_append.1 effect with effect | effect
  · exact h.ranked e effect
  · exact h'.ranked e effect

theorem notice (n : Notice) : Clean refs [.notice n] := by
  constructor
  · intro e effect type mentioned
    obtain rfl := List.mem_singleton.1 effect
    cases mentioned
  · intro e effect
    obtain rfl := List.mem_singleton.1 effect
    trivial

theorem advanced (clean : Clean refs trace) (absorbs : r.Absorbs trace r')
    (sound : r.Sound refs) : Registry.Advanced refs r r' := by
  apply absorbs.advanced sound clean.ranked
  intro e effect type mentioned
  exact (clean.closed e effect type mentioned).mono fun _ named => absorbs.written named

end Clean

theorem hereditary_ranked : Hereditary fun _ e => e.Ranked where
  ofNotice _ _ := trivial
  ofField _ _ := trivial
  ofContainer _ _ := trivial
  ofStructure _ _ ranked := ranked
  ofElement _ _ below := below
  ofPart _ _ _ below := below
  ofBranch _ _ _ below := below

theorem ranked_lower (context : Context) (name : Text) (schema : Schema) :
    ∀ e ∈ (lower context name schema).trace, e.Ranked :=
  hereditary_ranked.lower context name schema

theorem clean_lower (within : context.Within refs) {name type : Text} {schema : Schema}
    (own : schema.Within refs) (run : lower context name schema = ⟨trace, .ok type⟩) :
    Clean refs trace := by
  refine ⟨(closing_lower within own _ _ _ run).1, ?_⟩
  have ranked := ranked_lower context name schema
  rwa [run] at ranked

theorem not_reference_of_isPrimitive {schema : Schema} (primitive : schema.isPrimitive = true) :
    schema.isReference = false := by
  cases schema with
  | reference target description => simp [Schema.isPrimitive] at primitive
  | _ => rfl

theorem clean_lowerSimple (within : context.Within refs) {name location type : Text}
    {schema : Option Schema} (own : ∀ part ∈ schema, part.Within refs)
    (run : lowerSimple context name schema location = ⟨trace, .ok type⟩) :
    Clean refs trace ∧ Known refs (Effect.Named trace) type := by
  unfold lowerSimple at run
  split at run
  · simp [refuse, Traced.fail] at run
  · split at run
    · simp [Traced.fail] at run
    · split at run
      · obtain ⟨rfl, rfl⟩ := Traced.pure_eq_ok run
        exact ⟨.nil, .inl (own _ rfl _ .itself)⟩
      · simp [refuse, Traced.fail] at run
  · split at run
    · rename_i part _ primitive
      have inline := not_reference_of_isPrimitive primitive
      have written := ((closing_lower within (own part rfl) _ _ _ run).2 inline).2
      exact ⟨clean_lower within (own part rfl) run, .inr (.inr written)⟩
    · simp [refuse, Traced.fail] at run

theorem clean_bodyType (within : s.context.Within refs) {body : Option Api.RequestBody}
    {type : Option Text} (own : ∀ part ∈ body.bind Api.RequestBody.schema, part.Within refs)
    (run : bodyType s body = ⟨trace, .ok type⟩) :
    Clean refs trace ∧ ∀ name ∈ type, Known refs (Effect.Named trace) name := by
  unfold bodyType at run
  split at run
  · obtain ⟨rfl, rfl⟩ := Traced.pure_eq_ok run
    exact ⟨.nil, by simp⟩
  · rename_i found
    obtain ⟨rfl, rfl⟩ := Traced.pure_eq_ok run
    refine ⟨.nil, ?_⟩
    rintro name ⟨⟩
    exact .inl (own _ found _ .itself)
  · rename_i found
    obtain ⟨name, first, second, lowered, returned, rfl⟩ := Traced.bind_eq_ok run
    obtain ⟨rfl, rfl⟩ := Traced.pure_eq_ok returned
    rw [List.append_nil]
    refine ⟨clean_lower within (own _ found) lowered, ?_⟩
    rintro name ⟨⟩
    exact .inr (.inr ((closing_lower within (own _ found) _ _ _ lowered).2 rfl).2)
  · simp [refuse, Traced.fail] at run

/-- Members of known types, wherever their parameters stand. -/
structure InputMembers.AllKnown (refs defined : Text → Prop) (m : InputMembers) : Prop where
  query : MembersKnown refs defined m.query
  header : MembersKnown refs defined m.header
  path : MembersKnown refs defined m.path

theorem InputMembers.AllKnown.insert {m : InputMembers} (h : m.AllKnown refs defined)
    {place : Api.Place} {key : Text} {member : Member}
    (known : Known refs defined member.valueType) :
    (m.insert place key member).AllKnown refs defined := by
  cases place with
  | query => exact ⟨h.query.insert known, h.header, h.path⟩
  | header => exact ⟨h.query, h.header.insert known, h.path⟩
  | path => exact ⟨h.query, h.header, h.path.insert known⟩
  | cookie => exact ⟨h.query, h.header, h.path.insert known⟩

theorem clean_parameterMember (within : s.context.Within refs) {n : Nat} {parameter : Parameter}
    {member : Member} (own : ∀ part ∈ parameter.schema, part.Within refs)
    (run : parameterMember s n parameter = ⟨trace, .ok member⟩) :
    Clean refs trace ∧ Known refs (Effect.Named trace) member.valueType := by
  obtain ⟨type, first, second, lowered, returned, rfl⟩ := Traced.bind_eq_ok run
  obtain ⟨rfl, rfl⟩ := Traced.pure_eq_ok returned
  rw [List.append_nil]
  exact clean_lowerSimple within own lowered

/-- Parameters give members of known types; `defined` is what is known to be defined at the end. -/
theorem clean_parameterMembers (within : s.context.Within refs) {n : Nat}
    {parameters : List Parameter} {members result : InputMembers}
    (own : ∀ parameter ∈ parameters, ∀ part ∈ parameter.schema, part.Within refs)
    (run : parameterMembers s n parameters members = ⟨trace, .ok result⟩)
    (written : ∀ name, Effect.Named trace name → defined name)
    (known : members.AllKnown refs defined) :
    Clean refs trace ∧ result.AllKnown refs defined := by
  induction parameters generalizing n members trace with
  | nil =>
    obtain ⟨rfl, rfl⟩ := Traced.pure_eq_ok run
    exact ⟨.nil, known⟩
  | cons parameter rest ih =>
    have later : ∀ parameter ∈ rest, ∀ part ∈ parameter.schema, part.Within refs :=
      fun parameter listed => own parameter (List.mem_cons_of_mem _ listed)
    unfold parameterMembers at run
    split at run
    · simp [refuse, Traced.fail] at run
    split at run
    · -- an ignored header leaves a notice
      obtain ⟨_, first, second, noted, next, rfl⟩ := Traced.bind_eq_ok run
      obtain rfl := Traced.emit_eq_ok noted
      obtain ⟨clean, all⟩ := ih later next
        (fun name named => written name (named.mono (List.subset_append_right ..))) known
      exact ⟨(Clean.notice _).append clean, all⟩
    · obtain ⟨member, first, second, made, next, rfl⟩ := Traced.bind_eq_ok run
      obtain ⟨cleanFirst, type⟩ := clean_parameterMember within (own _ List.mem_cons_self) made
      have typeKnown := type.mono fun name named =>
        written name (named.mono (List.subset_append_left ..))
      obtain ⟨clean, all⟩ := ih later next
        (fun name named => written name (named.mono (List.subset_append_right ..)))
        (known.insert typeKnown)
      exact ⟨cleanFirst.append clean, all⟩

theorem clean_headerMembers (within : s.context.Within refs) {code : Int} {n : Nat}
    {headers : List (Text × Api.Header)} {members result : OrderedMap Member}
    (own : ∀ header ∈ headers, ∀ part ∈ header.2.schema, part.Within refs)
    (run : headerMembers s code n headers members = ⟨trace, .ok result⟩)
    (written : ∀ name, Effect.Named trace name → defined name)
    (known : MembersKnown refs defined members) :
    Clean refs trace ∧ MembersKnown refs defined result := by
  induction headers generalizing n members trace with
  | nil =>
    obtain ⟨rfl, rfl⟩ := Traced.pure_eq_ok run
    exact ⟨.nil, known⟩
  | cons entry rest ih =>
    obtain ⟨key, header⟩ := entry
    have later : ∀ header ∈ rest, ∀ part ∈ header.2.schema, part.Within refs :=
      fun header listed => own header (List.mem_cons_of_mem _ listed)
    unfold headerMembers at run
    split at run
    · obtain ⟨_, first, second, noted, next, rfl⟩ := Traced.bind_eq_ok run
      obtain rfl := Traced.emit_eq_ok noted
      obtain ⟨clean, all⟩ := ih later next
        (fun name named => written name (named.mono (List.subset_append_right ..))) known
      exact ⟨(Clean.notice _).append clean, all⟩
    · obtain ⟨type, first, second, lowered, next, rfl⟩ := Traced.bind_eq_ok run
      obtain ⟨cleanFirst, typed⟩ :=
        clean_lowerSimple within (own (key, header) List.mem_cons_self) lowered
      have typeKnown := typed.mono fun name named =>
        written name (named.mono (List.subset_append_left ..))
      obtain ⟨clean, all⟩ := ih later next
        (fun name named => written name (named.mono (List.subset_append_right ..)))
        (known.insert typeKnown)
      exact ⟨cleanFirst.append clean, all⟩

theorem bodyMembers_known (sound : r.Sound refs) {body : Option Text} {required : Bool}
    (known : ∀ name ∈ body, Known refs r.Defines name) :
    MembersKnown refs r.Defines (bodyMembers r body required).1 := by
  unfold bodyMembers
  split
  · exact .empty
  · rename_i name
    split
    · rename_i found
      exact sound.members found
    · exact MembersKnown.empty.insert (known name rfl)

theorem mergedInput_known (sound : r.Sound refs) {body : Option Text} {required : Bool}
    {members : InputMembers} (known : ∀ name ∈ body, Known refs r.Defines name)
    (membersKnown : members.AllKnown refs r.Defines) :
    MembersKnown refs r.Defines (mergedInput s r body required members).2.members := by
  apply MembersKnown.merge
  simp only [List.mem_cons, List.not_mem_nil, or_false]
  rintro source (rfl | rfl | rfl | rfl)
  · exact bodyMembers_known sound known
  · exact membersKnown.query
  · exact membersKnown.header
  · exact membersKnown.path

theorem assembleInput_advanced {operation : Api.Operation} {body : Option Text}
    {members : InputMembers} {input : Input}
    (run : Runs (assembleInput s operation body members) p input p')
    (sound : p.model.registry.Sound refs)
    (known : ∀ name ∈ body, Known refs p.model.registry.Defines name)
    (membersKnown : members.AllKnown refs p.model.registry.Defines) :
    Registry.Advanced refs p.model.registry p'.model.registry := by
  unfold assembleInput at run
  obtain ⟨registry, q, read, next⟩ := run.of_bind
  cases read
  split at next
  · obtain ⟨-, rfl⟩ := next.of_pure
    exact sound.advanced
  · obtain ⟨_, q, performed, returned⟩ := next.of_bind
    obtain ⟨-, rfl⟩ := returned.of_pure
    obtain ⟨-, absorbs⟩ := perform_absorbs performed
    exact absorbs.structure_advanced sound (Members.ranked_merge _)
      (mergedInput_known sound known membersKnown)

/-! Responses. -/

theorem clean_objectBody (within : context.Within refs) {name : Text} {notes : Notes}
    {required : List Text} {properties : List (Text × Schema)} {u : Unit}
    (own : (Schema.object notes required properties none).Within refs)
    (run : (do
      let st ← lowerObject context name notes.description required properties
      writeStructure name st) = (⟨trace, .ok u⟩ : Lowering Unit)) :
    Clean refs trace ∧ Effect.Named trace name := by
  obtain ⟨st, first, second, made, written, rfl⟩ := Traced.bind_eq_ok run
  obtain rfl := Traced.emit_eq_ok written
  obtain ⟨members, early, last, gathering, returned, rfl⟩ := Traced.bind_eq_ok made
  obtain ⟨rfl, rfl⟩ := Traced.pure_eq_ok returned
  have gathered := gather_eq_ok gathering
  have inside : ∀ entry ∈ properties, entry.2.Within refs :=
    fun _ listed _ inner => own _ (.property listed inner)
  have part := closed_of_gathered (fun entry listed => closing_lower within (inside entry listed))
    inside gathered
  rw [List.append_nil]
  refine ⟨⟨part.1.concat (forall_mentions part.2 fun _ _ => taken_structureOf), ?_⟩,
    Effect.named_of_eq rfl _ _⟩
  intro e effect
  rcases List.mem_append.1 effect with effect | effect
  · obtain ⟨entry, -, sub, type, lowered, -, arisen⟩ := effect_of_gathered gathered effect
    apply ranked_lower context _ entry.2 e
    rw [lower, lowered]
    exact arisen
  · obtain rfl := List.mem_singleton.1 effect
    exact ranked_of_gathered gathered

/-- What the types of a response's body promise: the invariant is kept, and each of them is
known. -/
def BodiesKnown (refs : Text → Prop) (p p' : Progress) (types : List (Text × Text)) : Prop :=
  Registry.Advanced refs p.model.registry p'.model.registry ∧
    ∀ type ∈ types, Known refs p'.model.registry.Defines type.2

theorem bodyTypesFrom_known {code : Int} {suffix : Text} {n : Nat} {branches : List Schema}
    {types : List (Text × Text)}
    (ih : ∀ branch ∈ branches, ∀ suffix p types p',
      Runs (bodyTypes s code suffix branch) p types p' →
      p.model.registry.Sound refs → BodiesKnown refs p p' types)
    (run : Runs (bodyTypesFrom s code suffix n branches) p types p')
    (sound : p.model.registry.Sound refs) : BodiesKnown refs p p' types := by
  induction branches generalizing n p types with
  | nil =>
    rw [bodyTypesFrom] at run
    obtain ⟨rfl, rfl⟩ := run.of_pure
    exact ⟨sound.advanced, by simp⟩
  | cons branch rest induction =>
    rw [bodyTypesFrom] at run
    obtain ⟨first, q, ofFirst, next⟩ := run.of_bind
    obtain ⟨more, q', ofRest, returned⟩ := next.of_bind
    obtain ⟨rfl, rfl⟩ := returned.of_pure
    obtain ⟨firstAdvanced, firstKnown⟩ := ih branch List.mem_cons_self _ _ _ _ ofFirst sound
    obtain ⟨restAdvanced, restKnown⟩ := induction
      (fun branch listed => ih branch (List.mem_cons_of_mem _ listed)) ofRest firstAdvanced.sound
    refine ⟨firstAdvanced.trans restAdvanced, ?_⟩
    intro type listed
    rcases List.mem_append.1 listed with listed | listed
    · exact (firstKnown type listed).mono restAdvanced.grown
    · exact restKnown type listed

theorem bodyTypes_known (within : s.context.Within refs) {code : Int} (schema : Schema)
    (own : schema.Within refs) :
    ∀ suffix p types p', Runs (bodyTypes s code suffix schema) p types p' →
      p.model.registry.Sound refs → BodiesKnown refs p p' types := by
  induction schema using Schema.sizeInduction with
  | step schema ih =>
    intro suffix p types p' run sound
    unfold bodyTypes at run
    split at run
    · obtain ⟨rfl, rfl⟩ := run.of_pure
      refine ⟨sound.advanced, ?_⟩
      intro type listed
      obtain rfl := List.mem_singleton.1 listed
      exact .inl (own _ .itself)
    · apply bodyTypesFrom_known _ run sound
      intro branch listed
      exact ih branch (Schema.sizeOf_branch listed) fun _ inner => own _ (.branch listed inner)
    · obtain ⟨_, q, performed, returned⟩ := run.of_bind
      obtain ⟨rfl, rfl⟩ := returned.of_pure
      obtain ⟨lowered, absorbs⟩ := performChecked_absorbs performed
      obtain ⟨clean, named⟩ := clean_objectBody within own lowered
      refine ⟨clean.advanced absorbs sound, ?_⟩
      intro type listed
      obtain rfl := List.mem_singleton.1 listed
      exact .inr (.inr (absorbs.written named))
    · exact run.of_throw.elim

theorem mergedOutput_known (sound : r.Sound refs) {code : Int} {suffix : Text}
    {body : Option Text} {headers : OrderedMap Member}
    (known : ∀ name ∈ body, Known refs r.Defines name)
    (headersKnown : MembersKnown refs r.Defines headers) :
    MembersKnown refs r.Defines (mergedOutput s r code suffix body headers).2.members := by
  apply MembersKnown.merge
  simp only [List.mem_cons, List.not_mem_nil, or_false]
  rintro source (rfl | rfl)
  · exact bodyMembers_known sound known
  · exact headersKnown

theorem mergeOutput_advanced {code : Int} {suffix : Text} {body : Option Text}
    {headers : OrderedMap Member} {produced : Produced}
    (run : Runs (mergeOutput s code suffix body headers) p produced p')
    (sound : p.model.registry.Sound refs)
    (known : ∀ name ∈ body, Known refs p.model.registry.Defines name)
    (headersKnown : MembersKnown refs p.model.registry.Defines headers) :
    Registry.Advanced refs p.model.registry p'.model.registry := by
  unfold mergeOutput at run
  obtain ⟨registry, q, read, next⟩ := run.of_bind
  cases read
  obtain ⟨_, q, performed, returned⟩ := next.of_bind
  obtain ⟨-, rfl⟩ := returned.of_pure
  have merged : MembersKnown refs p.model.registry.Defines
      (mergedOutput s p.model.registry code suffix body headers).2.members :=
    mergedOutput_known sound known headersKnown
  obtain ⟨-, absorbs⟩ := performChecked_absorbs performed
  exact absorbs.structure_advanced sound (Members.ranked_merge _) merged

theorem classify_registry {produced : Produced} {u : Unit} (run : Runs (classify produced) p u p') :
    p'.model.registry = p.model.registry := by
  unfold classify at run
  split at run
  · obtain ⟨-, rfl⟩ := run.of_pure
    rfl
  · obtain rfl := run.of_modify
    rfl

theorem produceBodies_advanced {code : Int} {headers : OrderedMap Member}
    {bodies : List (Text × Text)} {produced : List Produced}
    (run : Runs (produceBodies s code headers bodies) p produced p')
    (sound : p.model.registry.Sound refs)
    (known : ∀ type ∈ bodies, Known refs p.model.registry.Defines type.2)
    (headersKnown : MembersKnown refs p.model.registry.Defines headers) :
    Registry.Advanced refs p.model.registry p'.model.registry := by
  induction bodies generalizing p produced with
  | nil =>
    obtain ⟨-, rfl⟩ := run.of_pure
    exact sound.advanced
  | cons body rest ih =>
    obtain ⟨suffix, type⟩ := body
    unfold produceBodies at run
    have step : ∃ first made, Registry.Advanced refs p.model.registry made.model.registry ∧
        Runs (do
          classify first
          return first :: (← produceBodies s code headers rest)) made produced p' := by
      split at run
      · obtain ⟨first, made, plain, next⟩ := run.of_bind
        obtain ⟨-, rfl⟩ := plain.of_pure
        exact ⟨first, made, sound.advanced, next⟩
      · obtain ⟨first, made, merged, next⟩ := run.of_bind
        refine ⟨first, made, mergeOutput_advanced merged sound ?_ headersKnown, next⟩
        rintro name ⟨⟩
        exact known (suffix, type) List.mem_cons_self
    obtain ⟨first, made, advanced, next⟩ := step
    obtain ⟨_, q, classified, last⟩ := next.of_bind
    obtain ⟨more, q', ofRest, returned⟩ := last.of_bind
    obtain ⟨-, rfl⟩ := returned.of_pure
    rw [← classify_registry classified] at advanced
    apply advanced.trans
    apply ih ofRest advanced.sound
    · intro body listed
      exact (known body (List.mem_cons_of_mem _ listed)).mono advanced.grown
    · exact headersKnown.mono advanced.grown

theorem produceCoded_advanced (within : s.context.Within refs) {code : Int} {response : Response}
    {produced : List Produced} (own : ∀ part ∈ response.schema, part.Within refs)
    (headersOwn : ∀ header ∈ response.headers.entries, ∀ part ∈ header.2.schema, part.Within refs)
    (run : Runs (produceCoded s code response) p produced p')
    (sound : p.model.registry.Sound refs) :
    Registry.Advanced refs p.model.registry p'.model.registry := by
  unfold produceCoded at run
  obtain ⟨headers, q, performed, next⟩ := run.of_bind
  obtain ⟨lowered, absorbs⟩ := performChecked_absorbs performed
  obtain ⟨clean, headersKnown⟩ := clean_headerMembers within headersOwn lowered
    (fun _ named => absorbs.written named) .empty
  have advanced := clean.advanced absorbs sound
  apply advanced.trans
  split at next
  · split at next
    · obtain ⟨-, rfl⟩ := next.of_pure
      exact advanced.sound.advanced
    · obtain ⟨first, made, merged, last⟩ := next.of_bind
      obtain ⟨_, q', classified, returned⟩ := last.of_bind
      obtain ⟨-, rfl⟩ := returned.of_pure
      rw [classify_registry classified]
      exact mergeOutput_advanced merged advanced.sound (by simp) headersKnown
  · rename_i schema found
    obtain ⟨types, made, typed, last⟩ := next.of_bind
    obtain ⟨bodiesAdvanced, bodiesKnown⟩ :=
      bodyTypes_known within schema (own schema found) _ _ _ _ typed advanced.sound
    exact bodiesAdvanced.trans (produceBodies_advanced last bodiesAdvanced.sound bodiesKnown
      (headersKnown.mono bodiesAdvanced.grown))

/-- The schemas in a response: of its body and of its headers. -/
def responseSchemas (response : Response) : List Schema :=
  response.schema.toList ++ response.headers.values.filterMap Api.Header.schema

theorem produce_advanced (within : s.context.Within refs) {response : Response}
    {produced : List Produced} (own : ∀ part ∈ responseSchemas response, part.Within refs)
    (run : Runs (produce s response) p produced p') (sound : p.model.registry.Sound refs) :
    Registry.Advanced refs p.model.registry p'.model.registry := by
  unfold produce at run
  split at run
  · obtain ⟨_, q, reported, returned⟩ := run.of_bind
    obtain ⟨-, rfl⟩ := returned.of_pure
    obtain rfl := reported.of_modify
    exact sound.advanced
  · split at run
    · exact run.of_throw.elim
    · refine produceCoded_advanced within ?_ ?_ run sound
      · intro part found
        exact own part (List.mem_append_left _ (Option.mem_toList.2 found))
      · intro header listed part found
        apply own part (List.mem_append_right _ _)
        exact List.mem_filterMap.2 ⟨header.2, List.mem_map_of_mem listed, found⟩

theorem produceAll_advanced (within : s.context.Within refs) {responses : List Response}
    {produced : List Produced}
    (own : ∀ response ∈ responses, ∀ part ∈ responseSchemas response, part.Within refs)
    (run : Runs (produceAll s responses) p produced p') (sound : p.model.registry.Sound refs) :
    Registry.Advanced refs p.model.registry p'.model.registry := by
  induction responses generalizing p produced with
  | nil =>
    obtain ⟨-, rfl⟩ := run.of_pure
    exact sound.advanced
  | cons response rest ih =>
    obtain ⟨first, q, ofFirst, next⟩ := run.of_bind
    obtain ⟨more, q', ofRest, returned⟩ := next.of_bind
    obtain ⟨-, rfl⟩ := returned.of_pure
    have advanced := produce_advanced within (own response List.mem_cons_self) ofFirst sound
    apply advanced.trans
    exact ih (fun response listed => own response (List.mem_cons_of_mem _ listed)) ofRest
      advanced.sound

/-- The schemas in an operation: of its body, its parameters and its responses. -/
def operationSchemas (operation : Api.Operation) : List Schema :=
  (operation.body.bind Api.RequestBody.schema).toList ++
    operation.parameters.filterMap Parameter.schema ++
    operation.responses.flatMap responseSchemas

theorem decompose_advanced (within : context.Within refs) {name verb url : Text}
    {operation : Api.Operation} {description : OperationDescription}
    (own : ∀ part ∈ operationSchemas operation, part.Within refs)
    (run : Runs (decompose context name verb url operation) p description p')
    (sound : p.model.registry.Sound refs) :
    Registry.Advanced refs p.model.registry p'.model.registry := by
  simp only [operationSchemas, List.mem_append, List.mem_filterMap, List.mem_flatMap] at own
  unfold decompose at run
  obtain ⟨body, afterBody, performedBody, next⟩ := run.of_bind
  obtain ⟨members, afterMembers, performedMembers, next⟩ := next.of_bind
  obtain ⟨input, afterInput, assembled, next⟩ := next.of_bind
  obtain ⟨produced, afterResponses, ofResponses, next⟩ := next.of_bind
  obtain ⟨_, q, reported, returned⟩ := next.of_bind
  obtain ⟨-, rfl⟩ := returned.of_pure
  obtain rfl := reported.of_modify
  -- the body and the parameters are lowered straight into the model
  obtain ⟨bodyRun, bodyAbsorbs⟩ := perform_absorbs performedBody
  obtain ⟨membersRun, membersAbsorbs⟩ := perform_absorbs performedMembers
  obtain ⟨bodyClean, bodyKnown⟩ := clean_bodyType within
    (fun part found => own part (.inl (.inl (Option.mem_toList.2 found)))) bodyRun
  obtain ⟨membersClean, membersKnown⟩ := clean_parameterMembers within
    (fun parameter listed part found => own part (.inl (.inr ⟨parameter, listed, found⟩)))
    membersRun (fun _ named => membersAbsorbs.written named) ⟨.empty, .empty, .empty⟩
  have first := bodyClean.advanced bodyAbsorbs sound
  have second := membersClean.advanced membersAbsorbs first.sound
  have third := assembleInput_advanced assembled second.sound
    (fun name found => ((bodyKnown name found).mono fun _ named =>
      bodyAbsorbs.written named).mono second.grown) membersKnown
  have fourth := produceAll_advanced within
    (fun response listed part found => own part (.inr ⟨response, listed, found⟩)) ofResponses
    third.sound
  exact ((first.trans second).trans third).trans fourth

end ApiModel.Compile

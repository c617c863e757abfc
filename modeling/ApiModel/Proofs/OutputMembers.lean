import ApiModel.Proofs.BodyNames

/-! The members of an output and their places in an answer. An output is the body of the last
success itself, or merges it with headers; then its description tells the members of the two apart,
whatever the other responses and the other branches of a union write. -/
namespace ApiModel

/-- Whether there is a body, but no structure for it, so that it is carried by one member. -/
def Registry.Carries (r : Registry) (body : Option Text) : Prop :=
  ∃ own, body = some own ∧ r.structures.get? own = none

/-- How a description tells apart the members of a body and of headers that are merged while the
given types are there. -/
structure OutputDescription.Sorts (d : OutputDescription) (r : Registry) (body : Option Text)
    (headers members : OrderedMap Member) : Prop where
  names : members.keys.Perm (d.bodyFields ++ d.headerFields)
  ascending : d.bodyFields.Pairwise (· < ·) ∧ d.headerFields.Pairwise (· < ·)
  ofBody : ∀ key, key ∈ d.bodyFields ↔ key ∈ (Compile.bodyMembers r body true).1.keys
  ofHeader : ∀ key, key ∈ d.headerFields ↔ key ∈ headers.keys ∧ key ∉ d.bodyFields
  member : ∀ key, (members.get? key).map Member.unplaced =
    (((Compile.bodyMembers r body true).1.get? key).or (headers.get? key)).map Member.unplaced
  named : d.bodyStructureName = body
  payload : d.payloadAsMember = some Compile.payloadMember ↔ r.Carries body
  unpacked : ¬ r.Carries body → d.payloadAsMember = none
  single : r.Carries body → d.bodyFields = [Compile.payloadMember]

theorem OutputDescription.Sorts.of_get? {d : OutputDescription} {r : Registry} {body : Option Text}
    {headers members members' : OrderedMap Member} (h : d.Sorts r body headers members)
    (same : ∀ key, members.get? key = members'.get? key) : d.Sorts r body headers members' := by
  have keys : members.keys.Perm members'.keys :=
    (OrderedMap.perm_entries_iff.2 same).map Prod.fst
  exact { h with
    names := keys.symm.trans h.names
    member := fun key => by rw [← same, h.member] }

namespace Compile

open Api (Response)

variable {s : Subject} {code : Int} {p p' : Progress} {headers : OrderedMap Member}

/-! Merging headers into a body. -/

theorem payload_eq_some_iff {r : Registry} {body : Option Text} {required : Bool} :
    (bodyMembers r body required).2 = some payloadMember ↔ r.Carries body := by
  unfold bodyMembers Registry.Carries
  cases body with
  | none => simp
  | some own => cases known : r.structures.get? own <;> simp [known]

theorem payload_eq_none {r : Registry} {body : Option Text} {required : Bool}
    (structural : ¬ r.Carries body) : (bodyMembers r body required).2 = none := by
  cases carried : (bodyMembers r body required).2 with
  | none => rfl
  | some payload =>
    obtain ⟨rfl, -⟩ := mem_keys_payload carried
    exact absurd (payload_eq_some_iff.1 carried) structural

theorem sorts_mergedOutput (s : Subject) (r : Registry) (code : Int) (suffix : Text)
    (body : Option Text) (headers : OrderedMap Member) :
    let made := mergedOutput s r code suffix body headers
    made.1.description.Sorts r body headers made.2.members := by
  let sources : List (Text × OrderedMap Member) :=
    [("body", (bodyMembers r body true).1), ("header", headers)]
  have ofBody (key : Text) : key ∈ (Members.merge sources).under "body" ↔
      key ∈ (bodyMembers r body true).1.keys := (merge_body_header _ _ key).1
  have ascending := Members.pairwise_under_merge sources
  constructor
  · have labels : (["body", "header"] : List Text).Nodup := by decide
    have names : (Members.merge sources).members.keys.Perm _ := Members.perm_keys_merge labels
    rw [List.map_cons, List.map_singleton, List.flatMap_cons, List.flatMap_singleton] at names
    exact names
  · exact ⟨ascending "body", ascending "header"⟩
  · exact ofBody
  · intro key
    refine (merge_body_header _ _ key).2.1.trans (and_congr_right fun _ => not_congr ?_)
    exact (ofBody key).symm
  · intro key
    refine (Members.get?_merge_unplaced sources key).trans ?_
    simp only [sources, List.findSome?_cons, List.findSome?_nil]
    cases (bodyMembers r body true).1.get? key <;> cases headers.get? key <;> rfl
  · rfl
  · exact payload_eq_some_iff
  · exact payload_eq_none
  · intro carries
    exact under_body_of_payload headers (payload_eq_some_iff.2 carries)

theorem exists_sorts_of_kept {r r' atMerge : Registry} {type : Text} {body : Option Text}
    {d : OutputDescription} (kept : r.Kept r')
    (h : ∃ st, r.structures.get? type = some st ∧ d.Sorts atMerge body headers st.members) :
    ∃ st, r'.structures.get? type = some st ∧ d.Sorts atMerge body headers st.members := by
  obtain ⟨st, known, sorts⟩ := h
  obtain ⟨t, found, same⟩ := kept.structures type st known
  exact ⟨t, found, sorts.of_get? ((Structure.same_iff st t).1 same).1⟩

theorem sorts_of_merge {suffix : Text} {body : Option Text} {m : Produced} {q : Progress} {u : Unit}
    (merged : Runs (mergeOutput s code suffix body headers) p m q)
    (classified : Runs (classify m) q u p') :
    m.code = code ∧ ∃ st, p'.model.registry.structures.get? m.type = some st ∧
      m.description.Sorts p.model.registry body headers st.members := by
  obtain ⟨registry, q', read, next⟩ := merged.of_bind
  cases read
  obtain ⟨_, q', written, returned⟩ := next.of_bind
  obtain ⟨rfl, rfl⟩ := returned.of_pure
  refine ⟨rfl, exists_sorts_of_kept ((careful_classify _).grows classified).types ?_⟩
  exact ⟨_, writeStructure_checked written, sorts_mergedOutput ..⟩

/-! Bodies that are the output themselves. -/

/-- The types of a leaf: the one it refers to, or one of its own that is there with its
properties. -/
def IsLeafType (s : Subject) (code : Int) (r : Registry) (leaf : List Nat × Schema) (type : Text) :
    Prop :=
  (∃ target note, leaf.2 = .reference target note ∧ target.val = type) ∨
    ∃ b : InlineBody, leaf.2 = b.schema ∧ type = bodyName s code leaf.1 ∧
      ∃ st, r.structures.get? type = some st ∧
        ∀ key, key ∈ st.members.keys ↔ key ∈ b.properties.map Prod.fst

theorem IsLeafType.kept {r r' : Registry} {leaf : List Nat × Schema} {type : Text}
    (h : IsLeafType s code r leaf type) (kept : r.Kept r') : IsLeafType s code r' leaf type := by
  rcases h with referred | ⟨b, inline, named, st, known, keys⟩
  · exact .inl referred
  · obtain ⟨t, found, same⟩ := kept.structure_keys known
    exact .inr ⟨b, inline, named, t, found, fun key => (same key).trans (keys key)⟩

theorem InlineBody.registered (b : InlineBody) (path : List Nat) {u : Unit}
    (run : Runs (performChecked (b.lowering s code path)) p u p') :
    ∃ st, p'.model.registry.structures.get? (bodyName s code path) = some st ∧
      ∀ key, key ∈ st.members.keys ↔ key ∈ b.properties.map Prod.fst := by
  obtain ⟨done, committed⟩ := performChecked_runs run
  obtain ⟨st, first, second, lowered, written, traces⟩ := Traced.bind_eq_ok done
  cases written
  obtain ⟨members, third, fourth, gathered, returned, -⟩ := Traced.bind_eq_ok lowered
  obtain ⟨-, rfl⟩ := Traced.pure_eq_ok returned
  refine ⟨structureOf members b.notes.description, ?_, fun key => ?_⟩
  · rw [Registry.commit_eq_ok committed, traces, Registry.applyAll_append]
    exact Registry.holds_update (e := .structure (bodyName s code path) _)
      ((OrderedMap.get?_insert ..).trans (if_pos rfl))
  · exact OrderedMap.mem_keys_ofList.trans (keys_of_gathered (gather_eq_ok gathered))

theorem bodyTypesFrom_isLeafType {branches : List Schema} {path : List Nat}
    (ih : ∀ branch ∈ branches, ∀ path p p' types,
      Runs (bodyTypes s code (pathSuffix path) branch) p types p' →
        ∀ leaf ∈ branch.leaves, IsLeafType s code p'.model.registry (path ++ leaf.1, leaf.2)
          (leafFrom s code path leaf).2) {n : Nat} {types : List (Text × Text)}
    (run : Runs (bodyTypesFrom s code (pathSuffix path) n branches) p types p') :
    ∀ leaf ∈ Schema.leavesFrom n branches,
      IsLeafType s code p'.model.registry (path ++ leaf.1, leaf.2)
        (leafFrom s code path leaf).2 := by
  induction branches generalizing n p types with
  | nil => simp [Schema.leavesFrom]
  | cons branch rest induction =>
    rw [bodyTypesFrom, branchSuffix_pathSuffix] at run
    obtain ⟨first, q, ofBranch, next⟩ := run.of_bind
    obtain ⟨more, q', ofRest, returned⟩ := next.of_bind
    obtain ⟨rfl, rfl⟩ := returned.of_pure
    obtain ⟨here, later⟩ := List.forall_mem_cons.1 ih
    have grows := (careful_steps.of_bodyTypesFrom _ _ _).grows ofRest
    rw [Schema.leavesFrom]
    intro leaf listed
    rcases List.mem_append.1 listed with listed | listed
    · obtain ⟨below, member, rfl⟩ := List.mem_map.1 listed
      have known := (here _ _ _ _ ofBranch below member).kept grows.types
      simpa [leafFrom] using known
    · exact induction later ofRest leaf listed

theorem bodyTypes_isLeafType (schema : Schema) : ∀ path p p' types,
    Runs (bodyTypes s code (pathSuffix path) schema) p types p' →
      ∀ leaf ∈ schema.leaves, IsLeafType s code p'.model.registry (path ++ leaf.1, leaf.2)
        (leafFrom s code path leaf).2 := by
  induction schema using Schema.sizeInduction with
  | step schema ih =>
    intro path p p' types run leaf listed
    unfold bodyTypes at run
    split at run
    · rename_i target note
      obtain rfl := List.mem_singleton.1 listed
      exact .inl ⟨target, note, rfl, rfl⟩
    · rw [Schema.leaves] at listed
      exact bodyTypesFrom_isLeafType
        (fun branch member => ih branch (Schema.sizeOf_branch member)) run
        leaf listed
    · rename_i notes required properties
      obtain rfl := List.mem_singleton.1 listed
      obtain ⟨_, q, written, returned⟩ := run.of_bind
      obtain ⟨-, rfl⟩ := returned.of_pure
      have named : (leafFrom s code path ([], .object notes required properties none)).2 =
          bodyName s code path := by
        simp [leafFrom, leafType, bodyName]
      rw [List.append_nil, named]
      exact .inr ⟨⟨notes, required, properties⟩, rfl, rfl, InlineBody.registered _ path written⟩
    · exact run.of_throw.elim

/-! The last body of a response. -/

def produceBody (s : Subject) (code : Int) (headers : OrderedMap Member) (body : Text × Text) :
    Build Produced := do
  let produced ←
    if headers.isEmpty then pure ⟨code, body.2, .plain⟩
    else mergeOutput s code body.1 (some body.2) headers
  classify produced
  return produced

theorem produceBodies_cons (body : Text × Text) (rest : List (Text × Text)) :
    produceBodies s code headers (body :: rest) = do
      let first ← produceBody s code headers body
      return first :: (← produceBodies s code headers rest) := by
  rw [produceBodies, produceBody]
  split <;> simp only [bind_assoc, pure_bind]

theorem produceBodies_concat {init : List (Text × Text)} {last : Text × Text} {made : List Produced}
    (run : Runs (produceBodies s code headers (init ++ [last])) p made p') :
    ∃ early m q, made = early ++ [m] ∧ Runs (produceBodies s code headers init) p early q ∧
      Runs (produceBody s code headers last) q m p' := by
  induction init generalizing p made with
  | nil =>
    rw [List.nil_append, produceBodies_cons] at run
    obtain ⟨m, q, ofLast, next⟩ := run.of_bind
    obtain ⟨none, q', ofNone, returned⟩ := next.of_bind
    obtain ⟨rfl, rfl⟩ := ofNone.of_pure
    obtain ⟨rfl, rfl⟩ := returned.of_pure
    exact ⟨[], m, p, rfl, rfl, ofLast⟩
  | cons body rest ih =>
    rw [List.cons_append, produceBodies_cons] at run
    obtain ⟨first, q, ofFirst, next⟩ := run.of_bind
    obtain ⟨more, q', ofRest, returned⟩ := next.of_bind
    obtain ⟨rfl, rfl⟩ := returned.of_pure
    obtain ⟨early, m, q'', rfl, before, ofLast⟩ := ih ofRest
    refine ⟨first :: early, m, q'', rfl, ?_, ofLast⟩
    rw [produceBodies_cons]
    exact ofFirst.bind (before.bind rfl)

/-- How a type is described that was made for a body and headers: not at all, if it is the type of
the body itself, which is that of the last leaf, or by its members, if there are headers. -/
inductive Fits (s : Subject) (code : Int) (response : Response) (body : Option Text)
    (headers : OrderedMap Member) (atMerge atEnd : Registry) (type : Text) :
    OutputDescription → Prop where
  | plain {schema : Schema} {leaf : List Nat × Schema} (unheaded : keptHeaders s code response = [])
      (given : response.schema = some schema) (last : schema.leaves.getLast? = some leaf)
      (own : body = some type) (typed : IsLeafType s code atEnd leaf type) :
      Fits s code response body headers atMerge atEnd type .plain
  | merged {d : OutputDescription} (headed : keptHeaders s code response ≠ [])
      (sorted : ∃ st, atEnd.structures.get? type = some st ∧
        d.Sorts atMerge body headers st.members) :
      Fits s code response body headers atMerge atEnd type d

theorem Fits.kept {response : Response} {body : Option Text} {atMerge r r' : Registry} {type : Text}
    {d : OutputDescription} (h : Fits s code response body headers atMerge r type d)
    (kept : r.Kept r') : Fits s code response body headers atMerge r' type d := by
  cases h with
  | plain unheaded given last own typed => exact .plain unheaded given last own (typed.kept kept)
  | merged headed sorted => exact .merged headed (exists_sorts_of_kept kept sorted)

theorem produceBody_fits {response : Response} {schema : Schema} {leaf : List Nat × Schema}
    {m : Produced} (given : response.schema = some schema)
    (last : schema.leaves.getLast? = some leaf)
    (empty : headers.isEmpty = true ↔ keptHeaders s code response = [])
    (typed : IsLeafType s code p.model.registry leaf (leafFrom s code [] leaf).2)
    (run : Runs (produceBody s code headers (leafFrom s code [] leaf)) p m p') :
    m.code = code ∧ Fits s code response (some (leafFrom s code [] leaf).2) headers p.model.registry
      p'.model.registry m.type m.description := by
  unfold produceBody at run
  split at run
  · rename_i unheaded
    obtain ⟨_, q, returned, next⟩ := run.of_bind
    obtain ⟨rfl, rfl⟩ := returned.of_pure
    obtain ⟨_, q', classified, returned⟩ := next.of_bind
    obtain ⟨rfl, rfl⟩ := returned.of_pure
    have kept := ((careful_classify _).grows classified).types
    exact ⟨rfl, .plain (empty.1 unheaded) given last rfl (typed.kept kept)⟩
  · rename_i headed
    obtain ⟨_, q, merged, next⟩ := run.of_bind
    obtain ⟨_, q', classified, returned⟩ := next.of_bind
    obtain ⟨rfl, rfl⟩ := returned.of_pure
    obtain ⟨coded, sorted⟩ := sorts_of_merge merged classified
    exact ⟨coded, .merged (mt empty.2 headed) sorted⟩

/-- A response up to its last body: the type of that body and the headers, still to be merged. -/
def lastBody (s : Subject) (code : Int) (response : Response) :
    Build (Option Text × OrderedMap Member) := do
  let headers ← performChecked (headerMembers s code 0 response.headers.entries .empty)
  match response.schema with
  | none => return (none, headers)
  | some schema =>
    let types ← bodyTypes s code "" schema
    let _ ← produceBodies s code headers types.dropLast
    return (types.getLast?.map Prod.snd, headers)

theorem produceBodies_last {response : Response} {schema : Schema} {types : List (Text × Text)}
    {made : List Produced} {m : Produced} {q : Progress} (given : response.schema = some schema)
    (empty : headers.isEmpty = true ↔ keptHeaders s code response = [])
    (ofBodies : Runs (bodyTypes s code (pathSuffix []) schema) p types q)
    (run : Runs (produceBodies s code headers types) q made p') (last : made.getLast? = some m) :
    m.code = code ∧ ∃ early atMerge,
      Runs (produceBodies s code headers types.dropLast) q early atMerge ∧
      Fits s code response (types.getLast?.map Prod.snd) headers atMerge.model.registry
        p'.model.registry m.type m.description := by
  obtain ⟨ofLeaves, -⟩ := bodyTypes_leaves schema [] _ _ _ ofBodies
  obtain rfl | ⟨init, body, rfl⟩ := types.eq_nil_or_concat'
  · obtain ⟨rfl, -⟩ := run.of_pure
    cases last
  · obtain ⟨early, m', atMerge, rfl, before, ofLast⟩ := produceBodies_concat run
    obtain rfl : m' = m := by simpa using last
    have ends := congrArg List.getLast? ofLeaves
    rw [List.getLast?_concat, List.getLast?_map] at ends
    obtain ⟨leaf, lastLeaf, rfl⟩ := Option.map_eq_some_iff.1 ends.symm
    have typed := bodyTypes_isLeafType schema [] _ _ _ ofBodies leaf (List.mem_of_getLast? lastLeaf)
    have kept := ((careful_steps.of_produceBodies headers init).grows before).types
    rw [List.dropLast_concat, List.getLast?_concat]
    obtain ⟨coded, fits⟩ := produceBody_fits given lastLeaf empty (typed.kept kept) ofLast
    exact ⟨coded, early, atMerge, before, fits⟩

theorem produceCoded_last {response : Response} {made : List Produced} {m : Produced}
    (run : Runs (produceCoded s code response) p made p') (last : made.getLast? = some m) :
    m.code = code ∧ ∃ body headers q, Runs (lastBody s code response) p (body, headers) q ∧
      (∀ key, key ∈ headers.keys ↔ key ∈ keptHeaders s code response) ∧
      Fits s code response body headers q.model.registry p'.model.registry m.type
        m.description := by
  obtain ⟨headers, q, lowered, next⟩ := run.of_bind
  obtain ⟨keys, empty⟩ := headerMembers_kept (performChecked_runs lowered).1
  cases given : response.schema with
  | none =>
    simp only [given] at next
    split at next
    · obtain ⟨rfl, rfl⟩ := next.of_pure
      cases last
    · rename_i headed
      obtain ⟨made, q', merged, next⟩ := next.of_bind
      obtain ⟨_, q'', classified, returned⟩ := next.of_bind
      obtain ⟨rfl, rfl⟩ := returned.of_pure
      cases last
      obtain ⟨coded, sorted⟩ := sorts_of_merge merged classified
      refine ⟨coded, none, headers, q, ?_, keys, .merged (mt empty.2 headed) sorted⟩
      refine lowered.bind ?_
      rw [given]
      rfl
  | some schema =>
    simp only [given] at next
    obtain ⟨types, q', ofBodies, next⟩ := next.of_bind
    obtain ⟨coded, early, atMerge, before, fits⟩ :=
      produceBodies_last given empty ofBodies next last
    refine ⟨coded, types.getLast?.map Prod.snd, headers, atMerge, ?_, keys, fits⟩
    refine lowered.bind ?_
    rw [given]
    exact ofBodies.bind (before.bind rfl)

theorem code_of_mem_ofCoded {response : Response} {product : Product}
    (listed : product ∈ Product.ofCoded s code response) : product.code = code := by
  unfold Product.ofCoded at listed
  cases given : response.schema with
  | none =>
    simp only [given] at listed
    split at listed
    · cases listed
    · rw [List.mem_singleton.1 listed]
  | some schema =>
    simp only [given] at listed
    obtain ⟨leaf, -, rfl⟩ := List.mem_map.1 listed
    rfl

theorem code_of_mem_produced {response : Response} {made : List Produced} {m : Produced}
    (run : Runs (produceCoded s code response) p made p') (listed : m ∈ made) : m.code = code := by
  have codes : List.Forall₂ Eq ((Product.ofCoded s code response).map Product.code)
      (made.map Produced.code) := by
    apply List.rel_map _ (produceCoded_yields run).realized
    intro product m real
    exact real.code.symm
  rw [List.forall₂_eq_eq_eq] at codes
  have member : m.code ∈ (Product.ofCoded s code response).map Product.code := by
    rw [codes]
    exact List.mem_map_of_mem listed
  obtain ⟨product, listed, same⟩ := List.mem_map.1 member
  rw [← same, code_of_mem_ofCoded listed]

theorem produce_last {response : Response} {made : List Produced} {m : Produced}
    (run : Runs (produce s response) p made p')
    (last : (made.filter fun m => isSuccess m.code).getLast? = some m) :
    response.status ≠ "default" ∧ ∃ code, Number.integer? response.status = some code ∧
      Runs (produceCoded s code response) p made p' ∧ made.getLast? = some m := by
  unfold produce at run
  split at run
  · obtain ⟨_, q, reported, returned⟩ := run.of_bind
    obtain ⟨rfl, -⟩ := returned.of_pure
    cases last
  · rename_i coded
    split at run
    · exact run.of_throw.elim
    · rename_i code read
      have success : isSuccess code = true := by
        obtain ⟨listed, success⟩ := List.mem_filter.1 (List.mem_of_getLast? last)
        rwa [code_of_mem_produced run listed] at success
      have all : made.filter (fun m => isSuccess m.code) = made := by
        refine List.filter_eq_self.2 fun m listed => ?_
        rw [code_of_mem_produced run listed, success]
      exact ⟨coded, code, read, run, all ▸ last⟩

theorem produceAll_split {responses : List Response} {made : List Produced} {m : Produced}
    (run : Runs (produceAll s responses) p made p')
    (last : (made.filter fun m => isSuccess m.code).getLast? = some m) :
    ∃ before response after early own q q', responses = before ++ response :: after ∧
      Runs (produceAll s before) p early q ∧ Runs (produce s response) q own q' ∧
      (own.filter fun m => isSuccess m.code).getLast? = some m ∧
      q'.model.registry.Kept p'.model.registry := by
  induction responses generalizing p made with
  | nil =>
    obtain ⟨rfl, -⟩ := run.of_pure
    cases last
  | cons response rest ih =>
    obtain ⟨first, q, ofFirst, next⟩ := run.of_bind
    obtain ⟨more, q', ofRest, returned⟩ := next.of_bind
    obtain ⟨rfl, rfl⟩ := returned.of_pure
    rw [List.filter_append, List.getLast?_append] at last
    -- a success of a later response comes before one of this
    rcases Option.or_eq_some_iff.1 last with later | ⟨-, here⟩
    · obtain ⟨before, found, after, early, own, start, done, rfl, ofBefore, ofFound,
          lastOfFound, kept⟩ :=
        ih ofRest later
      refine ⟨response :: before, found, after, first ++ early, own, start, done, rfl, ?_, ofFound,
        lastOfFound, kept⟩
      exact ofFirst.bind (ofBefore.bind rfl)
    · have kept := ((careful_steps.of_produceAll rest).grows ofRest).types
      exact ⟨[], response, rest, [], first, p, q, rfl, rfl, ofFirst, here, kept⟩

def beforeMerge (s : Subject) (operation : Api.Operation) (before : List Response) (code : Int)
    (response : Response) : Build (Option Text × OrderedMap Member) := do
  let body ← perform (bodyType s operation.body)
  let members ← perform (parameterMembers s 0 operation.parameters .empty)
  let _ ← assembleInput s operation body members
  let _ ← produceAll s before
  lastBody s code response

end Compile

open Compile

/-- The output of an operation is the type of a body or merges a body with headers, and at the end
it is described as what it is. -/
theorem output_described {context : Context} {name verb url : Text} {operation : Api.Operation}
    {p p' : Progress} {description : OperationDescription} {type : Text}
    (run : Runs (decompose context name verb url operation) p description p')
    (undescribed : context.override.operationOutputOverrides.get? name = none)
    (output : description.output = some type) :
    let s : Subject := ⟨context, name⟩
    ∃ (before after : List Api.Response) (response : Api.Response) (code : Int) (body : Option Text)
      (headers : OrderedMap Member) (q : Progress),
      operation.responses = before ++ response :: after ∧ response.status ≠ "default" ∧
      Number.integer? response.status = some code ∧ isSuccess code = true ∧
      Runs (beforeMerge s operation before code response) p (body, headers) q ∧
      (∀ key, key ∈ headers.keys ↔ key ∈ keptHeaders s code response) ∧
      Fits s code response body headers q.model.registry p'.model.registry type
        description.outputDescription := by
  intro s
  unfold decompose at run
  obtain ⟨requestBody, afterBody, ofBody, next⟩ := run.of_bind
  obtain ⟨members, afterParts, ofParameters, next⟩ := next.of_bind
  obtain ⟨input, afterInput, assembled, next⟩ := next.of_bind
  obtain ⟨produced, afterResponses, ofResponses, next⟩ := next.of_bind
  obtain ⟨_, _, reported, returned⟩ := next.of_bind
  obtain rfl := reported.of_modify
  obtain ⟨rfl, rfl⟩ := returned.of_pure
  obtain ⟨m, last, rfl⟩ := Option.map_eq_some_iff.1 output
  obtain ⟨before, response, after, early, own, q, q', split, ofBefore, ofResponse,
      lastOfOwn, kept⟩ :=
    produceAll_split ofResponses last
  obtain ⟨coded, code, read, made, lastOfMade⟩ := produce_last ofResponse lastOfOwn
  obtain ⟨sameCode, body, headers, atMerge, reached, keys, fits⟩ :=
    produceCoded_last made lastOfMade
  have success : isSuccess m.code = true := (List.mem_filter.1 (List.mem_of_getLast? last)).2
  have described : (describe s verb url operation input produced).outputDescription =
      m.description := by
    simp [describe, Subject.override, s, undescribed, last]
  refine ⟨before, after, response, code, body, headers, atMerge, split, coded, read,
    ?_, ?_, keys, ?_⟩
  · rw [← sameCode, success]
  · exact ofBody.bind (ofParameters.bind (assembled.bind (ofBefore.bind reached)))
  · rw [described]
    exact fits.kept kept

def getLabel : Api.Operation where
  path := "/label"
  method := .get
  id := some "getLabel"
  summary := none
  description := none
  parameters := []
  body := none
  responses :=
    [⟨"200", none, [],
      some (.union .oneOf none [.object default [] [] none, .reference ⟨"Label", by decide⟩ none]),
        .ofList [("body", ⟨none, false, some (.boolean default)⟩),
          ("ETag", ⟨none, true, some (.string default default)⟩)]⟩,
      ⟨"404", none, [], some (.reference ⟨"Label", by decide⟩ none), .empty⟩]

def labels : Context := ⟨default, .ofList [("Label", .string default default)]⟩

theorem output_described_label :
    ∃ description p' st,
      Runs (decompose labels "getLabel" "get" "/label" getLabel) ⟨.empty, []⟩ description p' ∧
      description.output = some "GetLabel200Response1" ∧
      description.outputDescription = ⟨["body"], ["ETag"], some "Label", some "body"⟩ ∧
      p'.model.registry.structures.get? "GetLabel200Response1" = some st ∧
      st.members.keys.Perm ["body", "ETag"] := by
  let merged : OutputDescription := ⟨["body"], ["ETag"], some "Label", some "body"⟩
  have told : ((decompose labels "getLabel" "get" "/label" getLabel).run.run
      ⟨.empty, []⟩).1.toOption.map (fun description =>
        (description.output, description.outputDescription)) =
      some (some ("GetLabel200Response1" : Text), merged) := by
    decide +kernel
  obtain ⟨description, run⟩ := exists_runs_of_isOk (p := ⟨.empty, []⟩)
    (x := decompose labels "getLabel" "get" "/label" getLabel) (by decide +kernel)
  rw [show StateT.run _ _ = _ from run] at told
  obtain ⟨output, fields⟩ := Prod.mk.inj (Option.some.inj told)
  obtain ⟨before, after, response, code, body, headers, q, -, -, -, -, -, -, fits⟩ :=
    output_described run rfl output
  generalize described : description.outputDescription = d at fits fields
  cases fits with
  | plain => exact absurd fields (by decide)
  | merged headed sorted =>
    obtain ⟨st, known, sorts⟩ := sorted
    subst fields
    exact ⟨description, _, st, run, output, described, known, sorts.names⟩

end ApiModel

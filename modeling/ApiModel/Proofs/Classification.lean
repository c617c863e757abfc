import ApiModel.Proofs.Interference
import ApiModel.Proofs.JsonScalars
import ApiModel.Proofs.Merging

/-! Successes and failures. The responses of an operation come to a list of types in the order of
the document; the last success among them is the output, the failures are the errors, and nothing
else becomes an error type. -/
namespace ApiModel

namespace Text

theorem ofNat_ne_nil (n : Nat) : ofNat n ≠ [] := by
  rw [ofNat_eq]
  simp [Nat.toDigits_ne_nil]

theorem join_concat (separator last : Text) {texts : List Text} (h : texts ≠ []) :
    join separator (texts ++ [last]) = join separator texts ++ separator ++ last := by
  induction texts with
  | nil => exact absurd rfl h
  | cons text rest ih =>
    cases rest with
    | nil => simp [join]
    | cons next more => simp [join, ← ih (by simp)]

end Text

/-! What the responses of an operation come to. -/

mutual
def Schema.leaves : Schema → List (List Nat × Schema)
  | .union _ _ branches => leavesFrom 0 branches
  | schema => [([], schema)]

def Schema.leavesFrom (n : Nat) : List Schema → List (List Nat × Schema)
  | [] => []
  | branch :: rest =>
    branch.leaves.map (fun leaf => (n :: leaf.1, leaf.2)) ++ leavesFrom (n + 1) rest
end

namespace Compile

open Api (Response)

variable {s : Subject} {code : Int} {p p' : Progress} {trace : List Effect}

def pathSuffix (path : List Nat) : Text := Text.join "_" (path.map Text.ofNat)

/-- The type of a leaf: the one it refers to, or its own. -/
def leafType (s : Subject) (code : Int) : List Nat × Schema → Text
  | (_, .reference name _) => name
  | (path, _) => s.lead ++ Text.ofInt code ++ "Response" ++ pathSuffix path ++ "Body"

def mergedType (s : Subject) (code : Int) (path : List Nat) : Text :=
  s.lead ++ Text.ofInt code ++ "Response" ++ pathSuffix path

def keptHeaders (s : Subject) (code : Int) (response : Response) : List Text :=
  response.headers.keys.filter fun header => !Filter.ignoresResponseHeader
    s.override.ignoreResponseHeaders.members s.name code header

structure Product where
  code : Int
  type : Text
  body : Option Text
  headers : List Text

namespace Product

def Succeeds (product : Product) : Prop := 200 ≤ product.code ∧ product.code ≤ 299

instance (product : Product) : Decidable product.Succeeds :=
  inferInstanceAs (Decidable (_ ∧ _))

/-- The product of a leaf; headers that are kept make it a type of its own. -/
def ofLeaf (s : Subject) (code : Int) (headers : List Text) (leaf : List Nat × Schema) :
    Product :=
  let own := leafType s code leaf
  ⟨code, if headers = [] then own else mergedType s code leaf.1, some own, headers⟩

def ofCoded (s : Subject) (code : Int) (response : Response) : List Product :=
  let headers := keptHeaders s code response
  match response.schema with
  | none => if headers = [] then [] else [⟨code, mergedType s code [], none, headers⟩]
  | some schema => schema.leaves.map (ofLeaf s code headers)

/-- All that a response stands for: nothing, if it is the default. -/
def ofResponse (s : Subject) (response : Response) : List Product :=
  if response.status = "default" then []
  else (Number.integer? response.status).elim [] fun code => ofCoded s code response

end Product

end Compile

/-- How a description tells the members of a type apart that merges a body with headers. -/
structure OutputDescription.Merges (d : OutputDescription) (r : Registry) (type : Text)
    (body : Option Text) (headers : List Text) : Prop where
  named : d.bodyStructureName = body
  ofHeader : ∀ key, key ∈ d.headerFields ↔ key ∈ headers ∧ key ∉ d.bodyFields
  ofNone : body = none → d.payloadAsMember = none ∧ d.bodyFields = []
  ofBody : ∀ own, body = some own → d.payloadAsMember = none →
    ∃ st, r.structures.get? own = some st ∧ ∀ key, key ∈ d.bodyFields ↔ key ∈ st.members.keys
  ofPayload : ∀ payload, d.payloadAsMember = some payload →
    payload = Compile.payloadMember ∧ d.bodyFields = [payload]
  members : ∃ st, r.structures.get? type = some st ∧
    ∀ key, key ∈ st.members.keys ↔ key ∈ d.bodyFields ∨ key ∈ d.headerFields

def Compile.Product.Describes (r : Registry) (product : Compile.Product) (d : OutputDescription) :
    Prop :=
  if product.headers = [] then d = .plain
  else d.Merges r product.type product.body product.headers

/-- A type that is an error of some operation. -/
def ServiceModel.Fails (model : ServiceModel) (type : Text) : Prop :=
  ∃ name description, model.operations.get? name = some description ∧
    ∃ e ∈ description.errors, e.typeName = type

namespace Registry

variable {r r' : Registry} {type : Text} {st : Structure}

theorem Kept.structure_keys (kept : Kept r r') (known : r.structures.get? type = some st) :
    ∃ t, r'.structures.get? type = some t ∧ ∀ key, key ∈ t.members.keys ↔
      key ∈ st.members.keys := by
  obtain ⟨t, found, same⟩ := kept.structures type st known
  refine ⟨t, found, fun key => ?_⟩
  rw [OrderedMap.mem_keys_iff, OrderedMap.mem_keys_iff, ((Structure.same_iff st t).1 same).1 key]

end Registry

theorem OutputDescription.Merges.of_keys {d : OutputDescription} {r : Registry} {type : Text}
    {body : Option Text} {headers headers' : List Text} (h : d.Merges r type body headers)
    (same : ∀ key, key ∈ headers ↔ key ∈ headers') : d.Merges r type body headers' :=
  ⟨h.named, fun key => by rw [h.ofHeader, same], h.ofNone, h.ofBody, h.ofPayload, h.members⟩

theorem OutputDescription.Merges.kept {d : OutputDescription} {r r' : Registry} {type : Text}
    {body : Option Text} {headers : List Text} (h : d.Merges r type body headers)
    (kept : r.Kept r') : d.Merges r' type body headers := by
  refine ⟨h.named, h.ofHeader, h.ofNone, ?_, h.ofPayload, ?_⟩
  · intro own given plain
    obtain ⟨st, known, fields⟩ := h.ofBody own given plain
    obtain ⟨t, found, same⟩ := kept.structure_keys known
    exact ⟨t, found, fun key => by rw [fields, same]⟩
  · obtain ⟨st, known, fields⟩ := h.members
    obtain ⟨t, found, same⟩ := kept.structure_keys known
    exact ⟨t, found, fun key => by rw [same, fields]⟩

namespace Compile

open Api (Response)

variable {s : Subject} {code : Int} {p p' : Progress} {trace : List Effect}

theorem Product.Describes.kept {r r' : Registry} {product : Product} {d : OutputDescription}
    (h : product.Describes r d) (kept : r.Kept r') : product.Describes r' d := by
  unfold Product.Describes at *
  by_cases plain : product.headers = []
  · rw [if_pos plain] at *
    exact h
  · rw [if_neg plain] at *
    exact h.kept kept

/-! Leaves and their types. -/

theorem branchSuffix_pathSuffix (path : List Nat) (n : Nat) :
    branchSuffix (pathSuffix path) n = pathSuffix (path ++ [n]) := by
  unfold pathSuffix
  rw [List.map_append, List.map_cons, List.map_nil]
  cases path with
  | nil => rfl
  | cons first rest =>
    rw [Text.join_concat _ _ (by simp), branchSuffix, if_neg]
    · rfl
    · cases rest <;> simp [Text.join, Text.ofNat_ne_nil]

theorem performChecked_errorTypes {α : Type} {work : Lowering α} {a : α}
    (run : Runs (performChecked work) p a p') : p'.model.errorTypes = p.model.errorTypes := by
  rw [performChecked_frame run]

def leafFrom (s : Subject) (code : Int) (path : List Nat) (leaf : List Nat × Schema) :
    Text × Text :=
  (pathSuffix (path ++ leaf.1), leafType s code (path ++ leaf.1, leaf.2))

theorem bodyTypesFrom_leaves {branches : List Schema} {path : List Nat}
    (ih : ∀ branch ∈ branches, ∀ path p p' types,
      Runs (bodyTypes s code (pathSuffix path) branch) p types p' →
        types = branch.leaves.map (leafFrom s code path) ∧
          p'.model.errorTypes = p.model.errorTypes) {n : Nat} {types : List (Text × Text)}
    (run : Runs (bodyTypesFrom s code (pathSuffix path) n branches) p types p') :
    types = (Schema.leavesFrom n branches).map (leafFrom s code path) ∧
      p'.model.errorTypes = p.model.errorTypes := by
  induction branches generalizing n p types with
  | nil =>
    rw [bodyTypesFrom] at run
    obtain ⟨rfl, rfl⟩ := run.of_pure
    exact ⟨rfl, rfl⟩
  | cons branch rest induction =>
    rw [bodyTypesFrom, branchSuffix_pathSuffix] at run
    obtain ⟨first, q, ofBranch, next⟩ := run.of_bind
    obtain ⟨more, q', ofRest, returned⟩ := next.of_bind
    obtain ⟨rfl, rfl⟩ := returned.of_pure
    obtain ⟨rfl, same⟩ := ih branch List.mem_cons_self _ _ _ _ ofBranch
    obtain ⟨rfl, same'⟩ :=
      induction (fun other listed => ih other (List.mem_cons_of_mem _ listed)) ofRest
    refine ⟨?_, same'.trans same⟩
    rw [Schema.leavesFrom, List.map_append, List.map_map]
    congr 1
    apply List.map_congr_left
    intro leaf _
    simp [leafFrom]

theorem bodyTypes_leaves (schema : Schema) : ∀ path p p' types,
    Runs (bodyTypes s code (pathSuffix path) schema) p types p' →
      types = schema.leaves.map (leafFrom s code path) ∧
        p'.model.errorTypes = p.model.errorTypes := by
  induction schema using Schema.sizeInduction with
  | step schema ih =>
    intro path p p' types run
    unfold bodyTypes at run
    split at run
    · obtain ⟨rfl, rfl⟩ := run.of_pure
      simp [Schema.leaves, leafFrom, leafType]
    · rw [Schema.leaves]
      exact bodyTypesFrom_leaves (fun branch listed => ih branch (Schema.sizeOf_branch listed)) run
    · -- an object of its own is written under a name made from the path
      obtain ⟨_, q, written, returned⟩ := run.of_bind
      obtain ⟨rfl, rfl⟩ := returned.of_pure
      refine ⟨?_, performChecked_errorTypes written⟩
      simp [Schema.leaves, leafFrom, leafType, Text.ofInt]
    · exact run.of_throw.elim

/-! Headers, merged into a body. -/

theorem headerMembers_keys {n : Nat} {headers : List (Text × Api.Header)}
    {members result : OrderedMap Member}
    (run : headerMembers s code n headers members = ⟨trace, .ok result⟩) (key : Text) :
    key ∈ result.keys ↔ key ∈ members.keys ∨
      key ∈ (headers.map Prod.fst).filter fun header => !Filter.ignoresResponseHeader
        s.override.ignoreResponseHeaders.members s.name code header := by
  induction headers generalizing n members trace with
  | nil =>
    obtain ⟨-, rfl⟩ := Traced.pure_eq_ok run
    simp
  | cons e rest ih =>
    obtain ⟨name, header⟩ := e
    unfold headerMembers at run
    split at run
    · rename_i ignored
      obtain ⟨_, first, second, -, next, -⟩ := Traced.bind_eq_ok run
      rw [ih next, List.map_cons, List.filter_cons_of_neg (by simp [ignored])]
    · rename_i kept
      obtain ⟨type, first, second, -, next, -⟩ := Traced.bind_eq_ok run
      rw [ih next, List.map_cons, List.filter_cons_of_pos (by simpa using kept),
        OrderedMap.mem_keys_insert, List.mem_cons]
      tauto

theorem headerMembers_kept {response : Response} {headers : OrderedMap Member}
    (run : headerMembers s code 0 response.headers.entries .empty = ⟨trace, .ok headers⟩) :
    (∀ key, key ∈ headers.keys ↔ key ∈ keptHeaders s code response) ∧
      (headers.isEmpty = true ↔ keptHeaders s code response = []) := by
  have keys : ∀ key, key ∈ headers.keys ↔ key ∈ keptHeaders s code response := by
    intro key
    rw [headerMembers_keys run key]
    simp [keptHeaders, OrderedMap.keys]
  refine ⟨keys, ?_⟩
  have empty : headers.isEmpty = true ↔ headers.keys = [] := by
    simp [OrderedMap.isEmpty, OrderedMap.keys]
  rw [empty, List.eq_nil_iff_forall_not_mem, List.eq_nil_iff_forall_not_mem]
  simp only [keys]

theorem mem_keys_payload {r : Registry} {body : Option Text} {required : Bool} {payload : Text}
    (carried : (bodyMembers r body required).2 = some payload) :
    payload = payloadMember ∧
      ∀ key, key ∈ (bodyMembers r body required).1.keys ↔ key ∈ [payload] := by
  unfold bodyMembers at *
  split at carried
  · cases carried
  · split at carried
    · cases carried
    · cases carried
      exact ⟨rfl, fun key => .rfl⟩

theorem merge_body_header (body headers : OrderedMap Member) (key : Text) :
    let merged := Members.merge [("body", body), ("header", headers)]
    (key ∈ merged.under "body" ↔ key ∈ body.keys) ∧
      (key ∈ merged.under "header" ↔ key ∈ headers.keys ∧ key ∉ body.keys) ∧
      (key ∈ merged.members.keys ↔ key ∈ body.keys ∨ key ∈ headers.keys ∧ key ∉ body.keys) := by
  have labels : ("body" : Text) ≠ "header" := by decide
  simp only [Members.mem_under_merge, Members.mem_keys_merge, Members.owner?_cons,
    Members.owner?_nil, OrderedMap.contains_iff_mem_keys]
  grind

theorem under_body_of_payload {r : Registry} {body : Option Text} {payload : Text}
    (headers : OrderedMap Member) (carried : (bodyMembers r body true).2 = some payload) :
    (Members.merge [("body", (bodyMembers r body true).1), ("header", headers)]).under "body" =
      [payload] := by
  obtain ⟨-, single⟩ := mem_keys_payload carried
  apply List.perm_singleton.1
  apply (List.perm_ext_iff_of_nodup ?_ (List.nodup_singleton payload)).2
  · intro key
    rw [(merge_body_header _ _ key).1, single]
  · exact Text.nodup_of_pairwise_lt (Members.pairwise_under_merge _ "body")

theorem mergedOutput_merges {r r' : Registry} {suffix : Text} {body : Option Text}
    {headers : OrderedMap Member} (kept : r.Kept r')
    (written : r'.structures.get? (mergedOutput s r code suffix body headers).1.type =
      some (mergedOutput s r code suffix body headers).2) :
    (mergedOutput s r code suffix body headers).1.description.Merges r'
      (mergedOutput s r code suffix body headers).1.type body headers.keys := by
  let sources : List (Text × OrderedMap Member) :=
    [("body", (bodyMembers r body true).1), ("header", headers)]
  have bodyFields (key : Text) : key ∈ (Members.merge sources).under "body" ↔
      key ∈ (bodyMembers r body true).1.keys := (merge_body_header _ _ key).1
  have headerFields (key : Text) : key ∈ (Members.merge sources).under "header" ↔
      key ∈ headers.keys ∧ key ∉ (bodyMembers r body true).1.keys := (merge_body_header _ _ key).2.1
  constructor
  · rfl
  · intro key
    refine (headerFields key).trans (and_congr_right fun _ => not_congr ?_)
    exact (bodyFields key).symm
  · rintro rfl
    refine ⟨rfl, List.eq_nil_iff_forall_not_mem.2 ?_⟩
    intro key listed
    simpa [bodyMembers, OrderedMap.keys] using (bodyFields key).1 listed
  · rintro own rfl plain
    cases known : r.structures.get? own with
    | none => simp [mergedOutput, bodyMembers, known] at plain
    | some st =>
      -- the fields were told from the registry before the merge, which keeps the names of the body
      obtain ⟨t, found, same⟩ := kept.structure_keys known
      refine ⟨t, found, fun key => (bodyFields key).trans ?_⟩
      rw [same]
      simp [bodyMembers, known]
  · intro payload carried
    exact ⟨(mem_keys_payload carried).1, under_body_of_payload headers carried⟩
  · refine ⟨_, written, fun key => (merge_body_header _ _ key).2.2.trans ?_⟩
    exact (or_congr (bodyFields key) (headerFields key)).symm

theorem writeStructure_checked {type : Text} {st : Structure} {u : Unit}
    (run : Runs (performChecked (writeStructure type st)) p u p') :
    p'.model.registry.structures.get? type = some st := by
  have new : (Registry.empty.applyAll (writeStructure type st).trace).structures.get? type =
      some st := (OrderedMap.get?_insert ..).trans (if_pos rfl)
  rw [Registry.commit_eq_ok (performChecked_runs run).2, OrderedMap.get?_update, new,
    Option.some_or]

theorem mergeOutput_merges {path : List Nat} {body : Option Text} {headers : OrderedMap Member}
    {produced : Produced}
    (run : Runs (mergeOutput s code (pathSuffix path) body headers) p produced p') :
    produced.code = code ∧ produced.type = mergedType s code path ∧
      produced.description.Merges p'.model.registry (mergedType s code path) body headers.keys ∧
      p'.model.errorTypes = p.model.errorTypes := by
  have kept := ((careful_steps.of_mergeOutput _ _ _ _).grows run).types
  obtain ⟨registry, q, read, next⟩ := run.of_bind
  cases read
  obtain ⟨_, q, written, returned⟩ := next.of_bind
  obtain ⟨rfl, rfl⟩ := returned.of_pure
  exact ⟨rfl, rfl, mergedOutput_merges kept (writeStructure_checked written),
    performChecked_errorTypes written⟩

/-! What each step yields. -/

/-- A produced type that is as expected. -/
structure Produced.Realizes (r : Registry) (product : Product) (made : Produced) : Prop where
  code : made.code = product.code
  type : made.type = product.type
  described : product.Describes r made.description

structure Yields (expected : List Product) (p : Progress) (made : List Produced) (p' : Progress) :
    Prop where
  kept : p.model.registry.Kept p'.model.registry
  realized : List.Forall₂ (Produced.Realizes p'.model.registry) expected made
  errors : ∀ type, type ∈ p'.model.errorTypes ↔ type ∈ p.model.errorTypes ∨
    ∃ m ∈ made, isSuccess m.code = false ∧ m.type = type

namespace Yields

variable {q : Progress} {expected expected' : List Product} {made made' : List Produced}

theorem nothing (kept : p.model.registry.Kept p'.model.registry)
    (same : p'.model.errorTypes = p.model.errorTypes) : Yields [] p [] p' :=
  ⟨kept, .nil, by simp [same]⟩

theorem append (h : Yields expected p made q) (h' : Yields expected' q made' p') :
    Yields (expected ++ expected') p (made ++ made') p' := by
  refine ⟨h.kept.trans h'.kept, ?_, ?_⟩
  · apply List.rel_append
    · exact h.realized.imp fun _ _ real => ⟨real.code, real.type, real.described.kept h'.kept⟩
    · exact h'.realized
  · intro type
    rw [h'.errors, h.errors]
    simp only [List.mem_append, or_and_right, exists_or, or_assoc]

theorem single {product : Product} {m : Produced} {u : Unit}
    (real : Produced.Realizes p.model.registry product m) (run : Runs (classify m) p u p') :
    Yields [product] p [m] p' := by
  unfold classify at run
  split at run
  · rename_i success
    obtain ⟨-, rfl⟩ := run.of_pure
    exact ⟨.refl _, .cons real .nil, by simp [success]⟩
  · rename_i failure
    obtain rfl := run.of_modify
    refine ⟨.refl _, .cons real .nil, fun type => TextSet.mem_insert.trans ?_⟩
    simp only [List.mem_singleton, exists_eq_left, eq_false_of_ne_true failure, true_and]
    rw [or_comm, eq_comm]

end Yields

theorem produceBodies_yields {headers : OrderedMap Member} {kept : List Text}
    (keys : ∀ key, key ∈ headers.keys ↔ key ∈ kept) (none : headers.isEmpty = true ↔ kept = [])
    {leaves : List (List Nat × Schema)} {made : List Produced}
    (run : Runs (produceBodies s code headers (leaves.map (leafFrom s code []))) p made p') :
    Yields (leaves.map (Product.ofLeaf s code kept)) p made p' := by
  induction leaves generalizing p made with
  | nil =>
    obtain ⟨rfl, rfl⟩ := run.of_pure
    exact .nothing (.refl _) rfl
  | cons leaf rest ih =>
    have first : ∃ m q, Produced.Realizes q.model.registry (Product.ofLeaf s code kept leaf) m ∧
        Yields [] p [] q ∧ Runs (do
          classify m
          return m :: (← produceBodies s code headers (rest.map (leafFrom s code []))))
            q made p' := by
      rw [List.map_cons, produceBodies] at run
      split at run
      · rename_i empty
        obtain ⟨m, q, returned, next⟩ := run.of_bind
        obtain ⟨rfl, rfl⟩ := returned.of_pure
        refine ⟨_, q, ⟨rfl, ?_, ?_⟩, .nothing (.refl _) rfl, next⟩
        · simp [Product.ofLeaf, none.1 empty, leafFrom]
        · simp [Product.Describes, Product.ofLeaf, none.1 empty]
      · rename_i some
        obtain ⟨m, q, merged, next⟩ := run.of_bind
        have grows := (careful_steps.of_mergeOutput _ _ _ _).grows merged
        obtain ⟨rfl, type, merges, same⟩ := mergeOutput_merges merged
        have nonempty : kept ≠ [] := fun nil => some (none.2 nil)
        refine ⟨m, q, ⟨rfl, ?_, ?_⟩, .nothing grows.types same, next⟩
        · simpa [Product.ofLeaf, nonempty] using type
        · simpa [Product.Describes, Product.ofLeaf, nonempty, leafFrom] using merges.of_keys keys
    obtain ⟨m, q, real, unchanged, next⟩ := first
    obtain ⟨_, q', classified, next⟩ := next.of_bind
    obtain ⟨more, q'', later, returned⟩ := next.of_bind
    obtain ⟨rfl, rfl⟩ := returned.of_pure
    exact (unchanged.append (.single real classified)).append (ih later)

theorem produceCoded_yields {response : Response} {made : List Produced}
    (run : Runs (produceCoded s code response) p made p') :
    Yields (Product.ofCoded s code response) p made p' := by
  obtain ⟨headers, q, lowered, next⟩ := run.of_bind
  obtain ⟨keys, none⟩ := headerMembers_kept (performChecked_runs lowered).1
  have unchanged : Yields [] p [] q :=
    .nothing ((careful_performChecked _).grows lowered).types (performChecked_errorTypes lowered)
  unfold Product.ofCoded
  cases given : response.schema with
  | none =>
    simp only [given] at next
    split at next
    · rename_i empty
      obtain ⟨rfl, rfl⟩ := next.of_pure
      simpa [none.1 empty] using unchanged
    · rename_i some
      obtain ⟨m, q', merged, next⟩ := next.of_bind
      obtain ⟨_, q'', classified, returned⟩ := next.of_bind
      obtain ⟨rfl, rfl⟩ := returned.of_pure
      have grows := (careful_steps.of_mergeOutput _ _ _ _).grows merged
      have nonempty : keptHeaders s code response ≠ [] := fun nil => some (none.2 nil)
      change Runs (mergeOutput s code (pathSuffix []) .none headers) q m q' at merged
      obtain ⟨rfl, type, merges, same⟩ := mergeOutput_merges merged
      have real : Produced.Realizes q'.model.registry
          ⟨m.code, mergedType s m.code [], .none, keptHeaders s m.code response⟩ m := by
        refine ⟨rfl, type, ?_⟩
        simpa [Product.Describes, nonempty] using merges.of_keys keys
      simpa [nonempty] using
        (unchanged.append (.nothing grows.types same)).append (.single real classified)
  | some schema =>
    simp only [given] at next
    obtain ⟨types, q', ofBodies, next⟩ := next.of_bind
    have grows := (careful_steps.of_bodyTypes _ _).grows ofBodies
    change Runs (bodyTypes s code (pathSuffix []) schema) q types q' at ofBodies
    obtain ⟨rfl, same⟩ := bodyTypes_leaves schema [] _ _ _ ofBodies
    exact (unchanged.append (.nothing grows.types same)).append
      (produceBodies_yields keys none next)

theorem produce_yields {response : Response} {made : List Produced}
    (run : Runs (produce s response) p made p') :
    Yields (Product.ofResponse s response) p made p' := by
  unfold produce at run
  unfold Product.ofResponse
  split at run
  · rename_i default
    obtain ⟨_, q, reported, returned⟩ := run.of_bind
    obtain rfl := reported.of_modify
    obtain ⟨rfl, rfl⟩ := returned.of_pure
    rw [if_pos default]
    exact .nothing (.refl _) rfl
  · rename_i coded
    rw [if_neg coded]
    split at run
    · exact run.of_throw.elim
    · rename_i code read
      rw [read]
      exact produceCoded_yields run

theorem produceAll_yields {responses : List Response} {made : List Produced}
    (run : Runs (produceAll s responses) p made p') :
    Yields (responses.flatMap (Product.ofResponse s)) p made p' := by
  induction responses generalizing p made with
  | nil =>
    obtain ⟨rfl, rfl⟩ := run.of_pure
    exact .nothing (.refl _) rfl
  | cons response rest ih =>
    obtain ⟨first, q, ofFirst, next⟩ := run.of_bind
    obtain ⟨more, q', ofRest, returned⟩ := next.of_bind
    obtain ⟨rfl, rfl⟩ := returned.of_pure
    exact (produce_yields ofFirst).append (ih ofRest)

/-! Whole operations. -/

theorem assembleInput_errorTypes {operation : Api.Operation} {body : Option Text}
    {members : InputMembers} {input : Input}
    (run : Runs (assembleInput s operation body members) p input p') :
    p'.model.errorTypes = p.model.errorTypes := by
  unfold assembleInput at run
  obtain ⟨registry, q, read, next⟩ := run.of_bind
  cases read
  split at next
  · obtain ⟨-, rfl⟩ := next.of_pure
    rfl
  · obtain ⟨_, q, performed, returned⟩ := next.of_bind
    obtain ⟨-, rfl⟩ := returned.of_pure
    rw [perform_model performed]

theorem isSuccess_eq_true_iff {made : Produced} {product : Product}
    (same : made.code = product.code) :
    isSuccess made.code = true ↔ product.Succeeds := by
  simp only [isSuccess, same, Product.Succeeds, Bool.and_eq_true, decide_eq_true_eq]
  omega

theorem forall₂_getLast? {α β : Type} {R : α → β → Prop} {l : List α} {l' : List β}
    (h : List.Forall₂ R l l') : Option.Rel R l.getLast? l'.getLast? := by
  induction h with
  | nil => exact .none
  | cons first rest ih =>
    cases rest with
    | nil => exact .some first
    | cons => simpa using ih

structure Classified (expected : List Product) (r : Registry) (description : OperationDescription) :
    Prop where
  errors : description.errors =
    (expected.filter fun product => ¬ product.Succeeds).map fun product =>
      ⟨product.type, product.code⟩
  output : description.output = ((expected.filter Product.Succeeds).getLast?).map Product.type
  none : expected.filter Product.Succeeds = [] → description.outputDescription = .plain
  last : ∀ product, (expected.filter Product.Succeeds).getLast? = some product →
    product.Describes r description.outputDescription

theorem output_of_rel {r : Registry} {product? : Option Product} {made? : Option Produced}
    (h : Option.Rel (Produced.Realizes r) product? made?) :
    made?.map Produced.type = product?.map Product.type ∧
      (product? = none → (made?.map Produced.description).getD .plain = .plain) ∧
      ∀ product, product? = some product →
        product.Describes r ((made?.map Produced.description).getD .plain) := by
  cases h with
  | none => simp
  | some real => simpa [real.type] using real.described

theorem classified_describe {verb url : Text} {operation : Api.Operation} {input : Input}
    {expected : List Product} {made : List Produced} {r : Registry}
    (undescribed : s.override.operationOutputOverrides.get? s.name = none)
    (realized : List.Forall₂ (Produced.Realizes r) expected made) :
    Classified expected r (describe s verb url operation input made) := by
  have successes : List.Forall₂ (Produced.Realizes r) (expected.filter Product.Succeeds)
      (made.filter fun m => isSuccess m.code) := by
    apply List.rel_filter _ realized
    intro product m real
    simp [isSuccess_eq_true_iff real.code]
  have failures : List.Forall₂ (Produced.Realizes r)
      (expected.filter fun product => ¬ product.Succeeds)
      (made.filter fun m => !isSuccess m.code) := by
    apply List.rel_filter _ realized
    intro product m real
    simp [← isSuccess_eq_true_iff real.code]
  have errors : List.Forall₂ Eq
      ((expected.filter fun product => ¬ product.Succeeds).map fun product =>
        (⟨product.type, product.code⟩ : OperationError))
      ((made.filter fun m => !isSuccess m.code).map fun m => ⟨m.type, m.code⟩) := by
    apply List.rel_map _ failures
    intro product m real
    simp [real.code, real.type]
  rw [List.forall₂_eq_eq_eq] at errors
  obtain ⟨type, plain, described⟩ := output_of_rel (forall₂_getLast? successes)
  constructor
  · exact errors.symm
  · exact type
  · intro none
    simpa [describe, undescribed] using plain (List.getLast?_eq_none_iff.2 none)
  · intro product found
    simpa [describe, undescribed] using described product found

theorem decompose_classified {context : Context} {name verb url : Text} {operation : Api.Operation}
    {description : OperationDescription}
    (run : Runs (decompose context name verb url operation) p description p')
    (undescribed : context.override.operationOutputOverrides.get? name = none) :
    Classified (operation.responses.flatMap (Product.ofResponse ⟨context, name⟩)) p'.model.registry
      description := by
  obtain ⟨body, members, input, produced, afterParts, afterInput, last, parts, ofParts, assembled,
    ofResponses, same, rfl⟩ := decompose_parts run
  have yields := produceAll_yields ofResponses
  rw [same]
  exact classified_describe undescribed yields.realized

theorem decompose_errorTypes {context : Context} {name verb url : Text} {operation : Api.Operation}
    {description : OperationDescription}
    (run : Runs (decompose context name verb url operation) p description p') (type : Text) :
    type ∈ p'.model.errorTypes ↔ type ∈ p.model.errorTypes ∨
      ∃ e ∈ description.errors, e.typeName = type := by
  obtain ⟨body, members, input, produced, afterParts, afterInput, last, parts, ofParts, assembled,
    ofResponses, same, rfl⟩ := decompose_parts run
  have before : afterInput.model.errorTypes = p.model.errorTypes := by
    rw [assembleInput_errorTypes assembled, ofParts]
  rw [same, (produceAll_yields ofResponses).errors, before]
  simp [describe, and_assoc]

theorem addOperations_errorTypes {context : Context} {operations : List Api.Operation} {u : Unit}
    (run : Runs (addOperations context operations) p u p')
    (nodup : (operations.filterMap (compiledName? context)).Nodup)
    (fresh : ∀ name ∈ operations.filterMap (compiledName? context),
      p.model.operations.get? name = none)
    (before : ∀ type, type ∈ p.model.errorTypes ↔ p.model.Fails type) (type : Text) :
    type ∈ p'.model.errorTypes ↔ p'.model.Fails type := by
  induction operations generalizing p with
  | nil =>
    obtain ⟨-, rfl⟩ := run.of_pure
    exact before type
  | cons operation rest ih =>
    rw [addOperations_cons] at run
    obtain ⟨_, q, first, next⟩ := run.of_bind
    rcases addOperations_single first with ⟨left, same⟩ | ⟨name, compiled, added⟩
    · rw [List.filterMap_cons_none left] at nodup fresh
      apply ih next nodup
      · rw [same]
        exact fresh
      · rw [same]
        exact before
    · rw [List.filterMap_cons_some compiled] at nodup fresh
      obtain ⟨start, description, last, sameModel, decomposed, kept⟩ :=
        addOperation_decomposes added
      obtain ⟨-, sameOperations, -⟩ := decompose_runs decomposed
      have unknown := fresh name List.mem_cons_self
      rw [List.nodup_cons] at nodup
      have found (other : Text) : q.model.operations.get? other =
          if other = name then some description else p.model.operations.get? other := by
        rw [kept, OrderedMap.get?_insert, sameOperations, sameModel]
      apply ih next nodup.2
      · intro other listed
        have different : other ≠ name := fun same => nodup.1 (same ▸ listed)
        rw [found, if_neg different]
        exact fresh other (List.mem_cons_of_mem _ listed)
      · intro type
        have sameTypes : q.model.errorTypes = last.model.errorTypes := by rw [kept]
        rw [sameTypes, decompose_errorTypes decomposed, sameModel, before]
        constructor
        · rintro (⟨other, d, known, failing⟩ | failing)
          · -- the name is new, so no earlier description gives way
            have different : other ≠ name := by
              rintro rfl
              simp [unknown] at known
            exact ⟨other, d, by rw [found, if_neg different, known], failing⟩
          · exact ⟨name, description, by rw [found, if_pos rfl], failing⟩
        · rintro ⟨other, d, known, failing⟩
          rw [found] at known
          split at known
          · cases known
            exact .inr failing
          · exact .inl ⟨other, d, known, failing⟩

theorem lowerComponents_errorTypes {context : Context} {l : List (Text × Schema)} {u : Unit}
    (run : Runs (lowerComponents context l) p u p') :
    p'.model.errorTypes = p.model.errorTypes := by
  induction l generalizing p with
  | nil =>
    obtain ⟨-, rfl⟩ := run.of_pure
    rfl
  | cons entry rest ih =>
    rw [lowerComponents_cons] at run
    obtain ⟨_, q, first, next⟩ := run.of_bind
    rw [ih next, perform_model first]

end Compile

open Compile

/-- The responses of an operation give its errors, its output and its error types, so in a model
whose operations have names of their own the error types are the errors of the operations. -/
theorem responses_classified :
    (∀ (context : Context) (name verb url : Text) (operation : Api.Operation) (p p' : Progress)
      (description : OperationDescription),
      Runs (decompose context name verb url operation) p description p' →
      context.override.operationOutputOverrides.get? name = none →
      Classified (operation.responses.flatMap (Product.ofResponse ⟨context, name⟩))
        p'.model.registry description ∧
      ∀ type, type ∈ p'.model.errorTypes ↔ type ∈ p.model.errorTypes ∨
        ∃ e ∈ description.errors, e.typeName = type) ∧
    ∀ (d : Api.Description) (override : ModelOverride) (model : ServiceModel),
      (build d override).result = .ok model →
      (d.operations.filterMap (compiledName? ⟨override, d.schemas⟩)).Nodup →
      ∀ type, type ∈ model.errorTypes ↔ model.Fails type := by
  constructor
  · intro context name verb url operation p p' description run undescribed
    exact ⟨decompose_classified run undescribed, decompose_errorTypes run⟩
  · intro d override model built nodup type
    obtain ⟨last, run, rfl⟩ := runs_of_build built
    obtain ⟨_, afterComponents, components, next⟩ := run.of_bind
    obtain ⟨_, afterOperations, added, finished⟩ := next.of_bind
    have operations : afterComponents.model.operations = .empty :=
      lowerComponents_operations components
    have errors : afterComponents.model.errorTypes = .empty := lowerComponents_errorTypes components
    have none (type : Text) : ¬ type ∈ TextSet.empty := by
      intro listed
      cases listed
    have whole := addOperations_errorTypes added nodup (by simp [operations])
      (by simp [errors, none, ServiceModel.Fails, operations]) type
    cases finished
    exact whole

def getTicket : Api.Operation where
  path := "/ticket"
  method := .get
  id := some "getTicket"
  summary := none
  description := none
  parameters := []
  body := none
  responses :=
    [⟨"200", none, [], some (.reference ⟨"Ticket", by decide⟩ none), .empty⟩,
      ⟨"404", none, [], some (.union .oneOf none [.reference ⟨"Problem", by decide⟩ none,
        .union .anyOf none [.object default [] [] none]]),
        .ofList [("Retry", ⟨none, false, some (.integer default default)⟩)]⟩,
      ⟨"202", none, [], some (.union .oneOf none [.reference ⟨"Problem", by decide⟩ none,
        .reference ⟨"Ticket", by decide⟩ none]), .empty⟩,
      ⟨"500", none, [], none, .ofList [("Retry", ⟨none, false, some (.integer default default)⟩)]⟩,
      ⟨"503", none, [], none, .empty⟩,
      ⟨"default", none, [], some (.reference ⟨"Problem", by decide⟩ none), .empty⟩]

def ticketing : Api.Description where
  info := ⟨"Ticketing", "1", none⟩
  servers := []
  schemas := .ofList
    [("Ticket", .object default [] [("size", .integer default default)] none),
      ("Problem", .object default [] [("code", .integer default default)] none)]
  operations := [getTicket]
  version := "3.0.0"

theorem responses_classified_ticketing :
    (∃ p p' description,
      Runs (decompose ⟨default, ticketing.schemas⟩ "getTicket" "get" "/ticket" getTicket) p
        description p' ∧
      description.errors = [⟨"GetTicket404Response0", 404⟩, ⟨"GetTicket404Response1_0", 404⟩,
        ⟨"GetTicket500Response", 500⟩] ∧
      description.output = some "Ticket" ∧ description.outputDescription = .plain) ∧
    ∃ model, (build ticketing default).result = .ok model ∧
      ∀ type, type ∈ model.errorTypes ↔ model.Fails type := by
  constructor
  · let p := ((lowerComponents ⟨default, ticketing.schemas⟩ ticketing.schemas.entries).run.run
      (start ticketing.info)).2
    obtain ⟨description, run⟩ := exists_runs_of_isOk (p := p)
      (x := decompose ⟨default, ticketing.schemas⟩ "getTicket" "get" "/ticket" getTicket)
      (by decide +kernel)
    obtain ⟨classified, -⟩ := responses_classified.1 _ _ _ _ _ _ _ _ run rfl
    refine ⟨p, _, description, run, ?_, ?_, ?_⟩
    · rw [classified.errors]
      decide +kernel
    · rw [classified.output]
      decide +kernel
    · exact classified.last ⟨202, "Ticket", some "Ticket", []⟩ rfl
  · have ok : (build ticketing default).result.isOk = true := by decide +kernel
    cases built : (build ticketing default).result with
    | error e => simp [built, Except.isOk, Except.toBool] at ok
    | ok model => exact ⟨model, rfl, responses_classified.2 _ _ _ built (by decide +kernel)⟩

end ApiModel

import ApiModel.Proofs.Deletion
import ApiModel.Proofs.Interference
import ApiModel.Proofs.Merging

/-! The members of an input and their places in a request. A name that the body and several
parameters declare belongs to the first of body, query, header and path, and nothing that a response
does later changes that. -/
namespace ApiModel

/-- How a description tells apart the members that four sources declare. -/
structure InputDescription.Sorts (d : InputDescription)
    (body query header path members : OrderedMap Member) : Prop where
  names : members.keys.Perm
    (d.pathFields ++ d.queryFields ++ d.bodyFields ++ d.additionalHeaderFields)
  ascending : ∀ fields ∈ [d.pathFields, d.queryFields, d.bodyFields, d.additionalHeaderFields],
    fields.Pairwise (· < ·)
  ofBody : ∀ key, key ∈ d.bodyFields ↔ key ∈ body.keys
  ofQuery : ∀ key, key ∈ d.queryFields ↔ key ∈ query.keys ∧ key ∉ body.keys
  ofHeader : ∀ key, key ∈ d.additionalHeaderFields ↔
    key ∈ header.keys ∧ key ∉ body.keys ∧ key ∉ query.keys
  ofPath : ∀ key, key ∈ d.pathFields ↔
    key ∈ path.keys ∧ key ∉ body.keys ∧ key ∉ query.keys ∧ key ∉ header.keys
  member : ∀ key, (members.get? key).map Member.unplaced =
    ((body.get? key).or ((query.get? key).or ((header.get? key).or (path.get? key)))).map
      Member.unplaced
  location : d.defaultInputLocation = .query ↔ d.queryFields ≠ []

namespace InputDescription

variable {d : InputDescription} {body query header path members members' : OrderedMap Member}

theorem Sorts.of_sources
    (ascending : ∀ fields ∈ [d.pathFields, d.queryFields, d.bodyFields, d.additionalHeaderFields],
      fields.Pairwise (· < ·))
    (ofBody : ∀ key, key ∈ d.bodyFields ↔ key ∈ body.keys)
    (ofQuery : ∀ key, key ∈ d.queryFields ↔ key ∈ query.keys ∧ key ∉ body.keys)
    (ofHeader : ∀ key, key ∈ d.additionalHeaderFields ↔
      key ∈ header.keys ∧ key ∉ body.keys ∧ key ∉ query.keys)
    (ofPath : ∀ key, key ∈ d.pathFields ↔
      key ∈ path.keys ∧ key ∉ body.keys ∧ key ∉ query.keys ∧ key ∉ header.keys)
    (member : ∀ key, (members.get? key).map Member.unplaced =
      ((body.get? key).or ((query.get? key).or ((header.get? key).or (path.get? key)))).map
        Member.unplaced)
    (location : d.defaultInputLocation = .query ↔ d.queryFields ≠ []) :
    d.Sorts body query header path members := by
  refine ⟨?_, ascending, ofBody, ofQuery, ofHeader, ofPath, member, location⟩
  have nodup : ∀ fields ∈ [d.pathFields, d.queryFields, d.bodyFields, d.additionalHeaderFields],
      fields.Nodup :=
    fun fields listed => Text.nodup_of_pairwise_lt (ascending fields listed)
  simp only [List.forall_mem_cons] at nodup
  apply (List.perm_ext_iff_of_nodup members.nodup ?_).2
  · intro key
    have found := congrArg Option.isSome (member key)
    simp only [Option.isSome_map, Option.isSome_or] at found
    have known (m : OrderedMap Member) : key ∈ m.keys ↔ (m.get? key).isSome = true :=
      OrderedMap.contains_iff_mem_keys.symm
    change key ∈ members.keys ↔ _
    simp only [List.mem_append, ofBody, ofQuery, ofHeader, ofPath, known, found]
    grind
  · simp only [List.nodup_append', List.disjoint_left, ofBody, ofQuery, ofHeader, ofPath]
    grind

theorem Sorts.of_get? (h : d.Sorts body query header path members)
    (same : ∀ key, members.get? key = members'.get? key) :
    d.Sorts body query header path members' := by
  refine .of_sources h.ascending h.ofBody h.ofQuery h.ofHeader h.ofPath ?_ h.location
  intro key
  rw [← same, h.member]

end InputDescription

namespace Compile

open Api (Parameter)

variable {context : Context} {s : Subject} {p p' : Progress} {trace : List Effect}

/-! What the parameters declare. -/

/-- The type of a value without parts: that of a named schema, or its own. -/
def simpleType (own : Text) : Option Schema → Text
  | some (.reference target _) => target
  | _ => own

def declaredMember (s : Subject) (parameter : Parameter) : Member where
  valueType := simpleType
    (s.lead ++ "Request" ++ Text.upperFirst (Naming.safeName parameter.name)) parameter.schema
  position := 0
  required := parameter.required || parameter.place = .path
  locationName := none
  documentation := parameter.description

def declaredEntries (s : Subject) (place : Api.Place) (parameters : List Parameter) :
    List (Text × Member) :=
  (parameters.filter fun parameter =>
    parameter.place = place && !parameter.isIgnored s.override s.name).map fun parameter =>
      (parameter.name, declaredMember s parameter)

/-- The members that the parameters in one place declare; of several with one name the last
counts. -/
def declaredIn (s : Subject) (place : Api.Place) (parameters : List Parameter) :
    OrderedMap Member :=
  .ofList (declaredEntries s place parameters)

def InputMembers.at (members : InputMembers) : Api.Place → OrderedMap Member
  | .query => members.query
  | .header => members.header
  | _ => members.path

theorem InputMembers.at_insert (members : InputMembers) {place other : Api.Place} (name : Text)
    (member : Member) (plain : place ≠ .cookie) (plain' : other ≠ .cookie) :
    (members.insert place name member).at other =
      if place = other then (members.at other).insert name member else members.at other := by
  cases place <;> cases other <;> simp_all [InputMembers.insert, InputMembers.at]

theorem lower_primitive_type {type found : Text} {schema : Schema}
    (primitive : schema.isPrimitive = true)
    (run : lower context type schema = ⟨trace, .ok found⟩) : found = type := by
  rw [lower, lowerSchema_primitive _ _ _ primitive] at run
  obtain ⟨field, first, second, made, next, -⟩ := Traced.bind_eq_ok run
  exact (write_eq_ok rfl next).1

theorem lowerSimple_eq_ok {type location found : Text} {schema : Option Schema}
    (run : lowerSimple context type schema location = ⟨trace, .ok found⟩) :
    found = simpleType type schema := by
  cases schema with
  | none => cases run
  | some schema =>
    cases schema with
    | reference target note =>
      simp only [lowerSimple] at run
      split at run
      · cases run
      · split at run
        · exact (Traced.pure_eq_ok run).2
        · cases run
    | _ =>
      simp only [lowerSimple] at run
      split at run
      · exact lower_primitive_type ‹_› run
      · cases run

theorem parameterMember_unplaced {n : Nat} {parameter : Parameter} {member : Member}
    (run : parameterMember s n parameter = ⟨trace, .ok member⟩) :
    member.unplaced = declaredMember s parameter := by
  obtain ⟨type, first, second, lowered, returned, -⟩ := Traced.bind_eq_ok run
  obtain ⟨-, rfl⟩ := Traced.pure_eq_ok returned
  rw [lowerSimple_eq_ok lowered]
  rfl

theorem parameterMembers_declared {n : Nat} {parameters : List Parameter}
    {members result : InputMembers}
    (run : parameterMembers s n parameters members = ⟨trace, .ok result⟩) :
    (∀ parameter ∈ parameters, parameter.place ≠ .cookie) ∧
      ∀ place, place ≠ .cookie → Members.unplaced (result.at place) =
        (declaredEntries s place parameters).foldl (fun m e => m.insert e.1 e.2)
          (Members.unplaced (members.at place)) := by
  induction parameters generalizing n members trace with
  | nil =>
    obtain ⟨-, rfl⟩ := Traced.pure_eq_ok run
    exact ⟨by simp, fun place plain => rfl⟩
  | cons parameter rest ih =>
    unfold parameterMembers at run
    split at run
    · simp [refuse, Traced.fail] at run
    rename_i plain
    split at run
    · rename_i ignored
      -- an ignored header takes a position, but positions are not compared
      have skipped : parameter.isIgnored s.override s.name = true := ignored
      obtain ⟨_, first, second, noted, next, -⟩ := Traced.bind_eq_ok run
      obtain ⟨later, found⟩ := ih next
      refine ⟨List.forall_mem_cons.2 ⟨plain, later⟩, ?_⟩
      intro place ordinary
      rw [found place ordinary, declaredEntries, declaredEntries,
        List.filter_cons_of_neg (by simp [skipped])]
    · rename_i kept
      have counted : parameter.isIgnored s.override s.name = false := eq_false_of_ne_true kept
      obtain ⟨member, first, second, made, next, -⟩ := Traced.bind_eq_ok run
      obtain ⟨later, found⟩ := ih next
      refine ⟨List.forall_mem_cons.2 ⟨plain, later⟩, ?_⟩
      intro place ordinary
      rw [found place ordinary, InputMembers.at_insert members _ member plain ordinary]
      by_cases here : parameter.place = place
      · rw [if_pos here, declaredEntries, declaredEntries,
          List.filter_cons_of_pos (by simp [here, counted]), List.map_cons, List.foldl_cons,
          Members.unplaced, OrderedMap.mapVals_insert, parameterMember_unplaced made]
        rfl
      · rw [if_neg here, declaredEntries, declaredEntries,
          List.filter_cons_of_neg (by simp [here])]

theorem parameterMembers_eq_ok {parameters : List Parameter} {members : InputMembers}
    (run : parameterMembers s 0 parameters .empty = ⟨trace, .ok members⟩) :
    Members.unplaced members.query = declaredIn s .query parameters ∧
      Members.unplaced members.header = declaredIn s .header parameters ∧
      Members.unplaced members.path = declaredIn s .path parameters := by
  have declared := (parameterMembers_declared run).2
  exact ⟨declared .query (by decide), declared .header (by decide), declared .path (by decide)⟩

theorem isEmpty_eq_false_of_parameter {parameters : List Parameter} {members : InputMembers}
    (run : parameterMembers s 0 parameters .empty = ⟨trace, .ok members⟩) {parameter : Parameter}
    (listed : parameter ∈ parameters) (counted : parameter.isIgnored s.override s.name = false) :
    members.isEmpty = false := by
  obtain ⟨plain, declared⟩ := parameterMembers_declared run
  have ordinary := plain parameter listed
  have named : parameter.name ∈ (Members.unplaced (members.at parameter.place)).keys := by
    rw [declared _ ordinary, OrderedMap.mem_keys_foldl_insert]
    left
    simp only [declaredEntries, List.map_map, List.mem_map, List.mem_filter]
    exact ⟨parameter, ⟨listed, by simp [counted]⟩, rfl⟩
  rw [Members.unplaced, OrderedMap.keys_mapVals] at named
  have nonempty (m : OrderedMap Member) (h : parameter.name ∈ m.keys) : m.isEmpty = false := by
    cases entries : m.entries with
    | nil => simp [OrderedMap.keys, entries] at h
    | cons e rest => simp [OrderedMap.isEmpty, entries]
  cases place : parameter.place <;> simp_all [InputMembers.at, InputMembers.isEmpty]

/-! The input that is made of them. -/

theorem sorts_plainInput {r : Registry} {body : Text} {st : Structure}
    (known : r.structures.get? body = some st) :
    (plainInput r body).description.Sorts st.members .empty .empty .empty st.members := by
  have fields : (plainInput r body).description.bodyFields = st.members.sortedKeys := by
    simp [plainInput, known]
  apply InputDescription.Sorts.of_sources
  · rw [fields]
    have sorted : st.members.sortedKeys.Pairwise (· < ·) := pairwise_sortTexts st.members.nodup
    simpa [plainInput, InputDescription.plain] using sorted
  · intro key
    rw [fields, OrderedMap.sortedKeys, sortTexts, (perm_sortBy _ _).mem_iff]
  all_goals simp [plainInput, InputDescription.plain, OrderedMap.keys]

theorem merge_input (body query header path : OrderedMap Member) (key : Text) :
    let merged := Members.merge
      [("body", body), ("query", query), ("header", header), ("path", path)]
    (key ∈ merged.under "body" ↔ key ∈ body.keys) ∧
      (key ∈ merged.under "query" ↔ key ∈ query.keys ∧ key ∉ body.keys) ∧
      (key ∈ merged.under "header" ↔ key ∈ header.keys ∧ key ∉ body.keys ∧ key ∉ query.keys) ∧
      (key ∈ merged.under "path" ↔
        key ∈ path.keys ∧ key ∉ body.keys ∧ key ∉ query.keys ∧ key ∉ header.keys) := by
  have labels : ("body" : Text) ≠ "query" ∧ ("body" : Text) ≠ "header" ∧ ("body" : Text) ≠ "path" ∧
      ("query" : Text) ≠ "header" ∧ ("query" : Text) ≠ "path" ∧ ("header" : Text) ≠ "path" := by
    decide
  simp only [Members.mem_under_merge, Members.owner?_cons, Members.owner?_nil,
    OrderedMap.contains_iff_mem_keys]
  grind

theorem sorts_mergedInput (s : Subject) (r : Registry) (body : Option Text) (required : Bool)
    (members : InputMembers) :
    let made := mergedInput s r body required members
    made.1.description.Sorts (bodyMembers r body required).1 (Members.unplaced members.query)
      (Members.unplaced members.header) (Members.unplaced members.path) made.2.members := by
  let sources : List (Text × OrderedMap Member) :=
    [("body", (bodyMembers r body required).1), ("query", members.query),
      ("header", members.header), ("path", members.path)]
  have ascending (label : Text) := Members.pairwise_under_merge sources label
  have listed (key : Text) := merge_input (bodyMembers r body required).1 members.query
    members.header members.path key
  simp only [Members.unplaced]
  apply InputDescription.Sorts.of_sources
  · simp only [List.forall_mem_cons]
    exact ⟨ascending "path", ascending "query", ascending "body", ascending "header", by simp⟩
  · exact fun key => (listed key).1
  · intro key
    rw [OrderedMap.keys_mapVals]
    exact (listed key).2.1
  · intro key
    rw [OrderedMap.keys_mapVals, OrderedMap.keys_mapVals]
    exact (listed key).2.2.1
  · intro key
    rw [OrderedMap.keys_mapVals, OrderedMap.keys_mapVals, OrderedMap.keys_mapVals]
    exact (listed key).2.2.2
  · intro key
    have again (m : OrderedMap Member) : ((m.get? key).map Member.unplaced).map Member.unplaced =
        (m.get? key).map Member.unplaced := by
      rw [Option.map_map]
      rfl
    refine (Members.get?_merge_unplaced sources key).trans ?_
    simp only [OrderedMap.get?_mapVals, Option.map_or, again]
    simp only [sources, List.findSome?_cons, List.findSome?_nil]
    cases (bodyMembers r body required).1.get? key <;> cases members.query.get? key <;>
      cases members.header.get? key <;> cases members.path.get? key <;> rfl
  · change (if ((Members.merge sources).under "query").isEmpty then _ else _) = _ ↔
      (Members.merge sources).under "query" ≠ []
    cases (Members.merge sources).under "query" <;> simp

def requiresBody (operation : Api.Operation) : Bool :=
  (operation.body.map Api.RequestBody.required).getD false

theorem assembleInput_merged {operation : Api.Operation} {body : Option Text}
    {members : InputMembers} {input : Input} (split : members.isEmpty = false ∨ body = none)
    (run : Runs (assembleInput s operation body members) p input p') :
    let made := mergedInput s p.model.registry body (requiresBody operation) members
    input = made.1 ∧ p'.model.registry.structures.get? made.1.type = some made.2 := by
  unfold assembleInput at run
  obtain ⟨registry, q, read, next⟩ := run.of_bind
  cases read
  split at next
  · rename_i alone
    simp [alone] at split
  · obtain ⟨_, q, performed, returned⟩ := next.of_bind
    obtain ⟨rfl, rfl⟩ := returned.of_pure
    refine ⟨rfl, ?_⟩
    rw [(perform_runs performed).2]
    exact (OrderedMap.get?_insert ..).trans (if_pos rfl)

theorem assembleInput_plain {operation : Api.Operation} {type : Text}
    {members : InputMembers} {input : Input} (alone : members.isEmpty = true)
    (run : Runs (assembleInput s operation (some type) members) p input p') :
    input = plainInput p.model.registry type ∧ p' = p := by
  unfold assembleInput at run
  obtain ⟨registry, q, read, next⟩ := run.of_bind
  cases read
  simp only [alone] at next
  exact next.of_pure

theorem assembleInput_sorts {operation : Api.Operation} {body : Option Text}
    {members : InputMembers} {input : Input}
    (run : Runs (assembleInput s operation body members) p input p')
    (structural : members.isEmpty = false ∨ body = none ∨
      ∃ type, body = some type ∧ p.model.registry.structures.contains type = true) :
    ∃ st, p'.model.registry.structures.get? input.type = some st ∧
      input.description.Sorts (bodyMembers p.model.registry body (requiresBody operation)).1
        (Members.unplaced members.query) (Members.unplaced members.header)
        (Members.unplaced members.path) st.members := by
  by_cases split : members.isEmpty = false ∨ body = none
  · obtain ⟨rfl, written⟩ := assembleInput_merged split run
    exact ⟨_, written, sorts_mergedInput ..⟩
  · obtain ⟨type, rfl, known⟩ := (or_assoc.2 structural).resolve_left split
    have alone : members.isEmpty = true := by simpa using split
    obtain ⟨st, found⟩ := Option.isSome_iff_exists.1 known
    obtain ⟨rfl, rfl⟩ := assembleInput_plain alone run
    refine ⟨st, found, ?_⟩
    have nothing (m : OrderedMap Member) (h : m.isEmpty = true) : Members.unplaced m = .empty := by
      apply OrderedMap.ext
      simp [Members.unplaced, OrderedMap.mapVals, List.isEmpty_iff.1 h]
    simp only [InputMembers.isEmpty, Bool.and_eq_true] at alone
    rw [nothing _ alone.1.1, nothing _ alone.1.2, nothing _ alone.2]
    simpa [bodyMembers, found] using sorts_plainInput found

theorem bodyType_none {body : Option Api.RequestBody}
    (h : body.bind Api.RequestBody.schema = none) : bodyType s body = pure none := by
  simp only [bodyType, h]

theorem inputParts_eq_ok {operation : Api.Operation} {body : Option Text} {members : InputMembers}
    (parts : inputParts s operation = ⟨trace, .ok (body, members)⟩) :
    (bodyType s operation.body).result = .ok body ∧
      ∃ later, parameterMembers s 0 operation.parameters .empty = ⟨later, .ok members⟩ := by
  obtain ⟨type, first, second, ofBody, next, -⟩ := Traced.bind_eq_ok parts
  obtain ⟨all, third, fourth, ofParameters, returned, -⟩ := Traced.bind_eq_ok next
  cases (Traced.pure_eq_ok returned).2
  rw [ofBody]
  exact ⟨rfl, third, ofParameters⟩

def registryAtInput (s : Subject) (operation : Api.Operation) (p : Progress) : Registry :=
  p.model.registry.applyAll (inputParts s operation).trace

end Compile

open Compile

/-- An input that has parameters, no body or a body with members of its own is registered at the end
with the members of its sources, each in one place. -/
theorem input_members_sorted {context : Context} {name verb url : Text} {operation : Api.Operation}
    {p p' : Progress} {description : OperationDescription}
    (run : Runs (decompose context name verb url operation) p description p')
    (undescribed : context.override.operationInputOverrides.get? name = none) :
    let s : Subject := ⟨context, name⟩
    let r := registryAtInput s operation p
    ∃ body, (bodyType s operation.body).result = .ok body ∧
      ((∃ parameter ∈ operation.parameters, parameter.isIgnored context.override name = false) ∨
        operation.body.bind Api.RequestBody.schema = none ∨
        (∃ type, body = some type ∧ r.structures.contains type = true) →
      ∃ type st, description.input = some type ∧
        p'.model.registry.structures.get? type = some st ∧
        description.inputDescription.Sorts (bodyMembers r body (requiresBody operation)).1
          (declaredIn s .query operation.parameters) (declaredIn s .header operation.parameters)
          (declaredIn s .path operation.parameters) st.members) := by
  intro s r
  obtain ⟨body, members, input, produced, afterParts, afterInput, last, parts, ofParts, assembled,
    ofResponses, same, rfl⟩ := decompose_parts run
  obtain ⟨ofBody, later, ofParameters⟩ := inputParts_eq_ok parts
  refine ⟨body, ofBody, ?_⟩
  intro structural
  have registry : afterParts.model.registry = r := by rw [ofParts]; rfl
  have split : members.isEmpty = false ∨ body = none ∨
      ∃ type, body = some type ∧ afterParts.model.registry.structures.contains type = true := by
    rcases structural with ⟨parameter, listed, counted⟩ | absent | known
    · exact .inl (isEmpty_eq_false_of_parameter ofParameters listed counted)
    · rw [bodyType_none absent] at ofBody
      cases ofBody
      exact .inr (.inl rfl)
    · rw [registry]
      exact .inr (.inr known)
  obtain ⟨st, written, sorts⟩ := assembleInput_sorts assembled split
  obtain ⟨query, header, path⟩ := parameterMembers_eq_ok ofParameters
  -- what the responses write agrees with what is there
  obtain ⟨t, kept, alike⟩ :=
    ((careful_steps.of_produceAll _).grows ofResponses).types.structures input.type st written
  refine ⟨input.type, t, rfl, ?_, ?_⟩
  · rw [same]
    exact kept
  · have described : (describe s verb url operation input produced).inputDescription =
        input.description := by
      simp [describe, Subject.override, s, undescribed]
    rw [described, ← query, ← header, ← path, ← registry]
    exact sorts.of_get? ((Structure.same_iff st t).1 alike).1

def traceName : SchemaName := ⟨"Trace", by decide⟩

/-- An operation whose body and parameters share names; one header is ignored. -/
def sendParcel : Api.Operation where
  path := "/parcels/id"
  method := .post
  id := some "sendParcel"
  summary := none
  description := none
  parameters :=
    [⟨"id", .path, false, none, some (.string default default)⟩,
      ⟨"page", .path, false, none, some (.string default default)⟩,
      ⟨"page", .header, true, none, some (.integer default default)⟩,
      ⟨"trace", .header, false, some "Who asks.", some (.reference traceName none)⟩,
      ⟨"debug", .header, false, none, some (.boolean default)⟩,
      ⟨"size", .query, false, none, some (.boolean default)⟩,
      ⟨"page", .query, false, none, some (.boolean default)⟩]
  body := some ⟨true, none, [], some (.reference ⟨"Parcel", by decide⟩ none)⟩
  responses := [⟨"200", none, [], some (.reference ⟨"Parcel", by decide⟩ none),
    .ofList [("ETag", ⟨none, false, some (.string default default)⟩)]⟩]

def parcels : Context where
  override := { ModelOverride.empty with ignoreRequestHeaders := .ofList ["sendParcel.debug"] }
  components := .ofList [("Trace", .string default default)]

def knownParcel : Progress :=
  let parcel : Structure := ⟨.ofList [("size", ⟨"Size", 0, true, none, none⟩)], none⟩
  ⟨{ ServiceModel.empty with registry := ⟨.empty, .ofList [("Parcel", parcel)]⟩ }, []⟩

theorem input_members_sorted_parcel :
    ∃ description p' type st,
      Runs (decompose parcels "sendParcel" "post" "/parcels/id" sendParcel) knownParcel
        description p' ∧
      description.input = some type ∧ p'.model.registry.structures.get? type = some st ∧
      description.inputDescription =
        ⟨["id"], ["page"], ["size"], none, ["trace"], .query, some "Parcel", none⟩ ∧
      st.members.keys.Perm [("id" : Text), "page", "size", "trace"] := by
  have told : ((decompose parcels "sendParcel" "post" "/parcels/id" sendParcel).run.run
      knownParcel).1.toOption.map OperationDescription.inputDescription =
        some ⟨["id"], ["page"], ["size"], none, ["trace"], .query, some "Parcel", none⟩ := by
    decide +kernel
  obtain ⟨description, run⟩ := exists_runs_of_isOk (p := knownParcel)
    (x := decompose parcels "sendParcel" "post" "/parcels/id" sendParcel) (by decide +kernel)
  rw [show StateT.run _ knownParcel = _ from run] at told
  have fields := Option.some.inj told
  obtain ⟨body, -, sorted⟩ := input_members_sorted run rfl
  obtain ⟨type, st, named, written, sorts⟩ := sorted (.inl ⟨_, List.mem_cons_self, by decide⟩)
  refine ⟨description, _, type, st, run, named, written, fields, ?_⟩
  simpa [fields] using sorts.names

end ApiModel

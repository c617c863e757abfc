import ApiModel.Proofs.BodyNames
import ApiModel.Proofs.ComponentOrder
import ApiModel.Proofs.InputLocations

/-! The order of parameters. It gives positions, the order of writes, and the last word where two
parameters ask for one type. Merging forgets the first two, and no response asks for a name that
begins as those of parameters do, so all that is left of the order is which of two like-named types
stays. -/
namespace ApiModel

namespace Members

/-! Sources up to positions and order. -/

/-- Members that differ at most in their order and in their positions. -/
def SameUnplaced (m n : OrderedMap Member) : Prop :=
  ∀ key, (m.get? key).map Member.unplaced = (n.get? key).map Member.unplaced

theorem SameUnplaced.contains_eq {m n : OrderedMap Member} (h : SameUnplaced m n) (key : Text) :
    m.contains key = n.contains key := by
  have found := congrArg Option.isSome (h key)
  rwa [Option.isSome_map, Option.isSome_map] at found

theorem SameUnplaced.isEmpty_eq {m n : OrderedMap Member} (h : SameUnplaced m n) :
    m.isEmpty = n.isEmpty := by
  have none (m : OrderedMap Member) : m.isEmpty = true ↔ ∀ key, m.contains key = false := by
    simp only [OrderedMap.isEmpty, List.isEmpty_iff, ← Bool.not_eq_true,
      OrderedMap.contains_iff_mem_keys, OrderedMap.keys, List.mem_map]
    rw [List.eq_nil_iff_forall_not_mem]
    grind
  rw [Bool.eq_iff_iff, none, none]
  simp only [h.contains_eq]

theorem renumber_congr {m n : OrderedMap Member} (h : SameUnplaced m n) :
    renumber m = renumber n := by
  have entries : (unplaced m).entries.Perm (unplaced n).entries := by
    apply OrderedMap.perm_entries_iff.2
    intro key
    rw [unplaced, unplaced, OrderedMap.get?_mapVals, OrderedMap.get?_mapVals, h key]
  have sorted : (unplaced m).sortedEntries = (unplaced n).sortedEntries :=
    sortByKey_eq_of_perm entries (unplaced m).nodup
  rw [← renumber_unplaced m, ← renumber_unplaced n]
  apply OrderedMap.ext
  simp only [renumber, sorted]

section Sources

/-- Sources with the same labels and such members. -/
def SameSources : List (Text × OrderedMap Member) → List (Text × OrderedMap Member) → Prop :=
  List.Forall₂ fun s s' => s.1 = s'.1 ∧ SameUnplaced s.2 s'.2

variable {sources sources' : List (Text × OrderedMap Member)}
  (related : SameSources sources sources')

include related

theorem merge_members_congr : (merge sources).members = (merge sources').members := by
  apply renumber_congr
  intro key
  rw [get?_members_foldl, get?_members_foldl]
  simp only [OrderedMap.get?_empty, Option.none_or]
  induction related with
  | nil => rfl
  | @cons s s' _ _ first _ ih =>
    have here := first.2 key
    rw [List.findSome?_cons, List.findSome?_cons]
    cases found : s.2.get? key <;> cases found' : s'.2.get? key <;> simp_all

theorem owner?_congr (key : Text) : owner? sources key = owner? sources' key := by
  induction related with
  | nil => rfl
  | @cons s s' _ _ first _ ih =>
    obtain ⟨label, source⟩ := s
    obtain ⟨_, source'⟩ := s'
    obtain ⟨rfl, same⟩ := first
    rw [owner?_cons, owner?_cons, ih, same.contains_eq key]

theorem merge_under_congr (label : Text) :
    (merge sources).under label = (merge sources').under label := by
  refine Text.eq_of_ascending (pairwise_under_merge _ label) (pairwise_under_merge _ label) ?_
  intro key
  rw [mem_under_merge, mem_under_merge, owner?_congr related]

end Sources

end Members

/-! Fields under some names. -/

namespace Registry

/-- Registries with the same structures, and with the same fields under other than the given
names. -/
structure AlikeOutside (names : Text → Prop) (r r' : Registry) : Prop where
  fields : ∀ name, ¬ names name → r.fields.get? name = r'.fields.get? name
  structures : r.structures = r'.structures

namespace AlikeOutside

variable {names : Text → Prop} {r r' new : Registry}

theorem applyAll (h : AlikeOutside names r r') (es : List Effect) :
    AlikeOutside names (r.applyAll es) (r'.applyAll es) := by
  rw [applyAll_eq, applyAll_eq, h.structures]
  refine ⟨fun name spared => ?_, rfl⟩
  simp only [OrderedMap.get?_foldl_insert, h.fields name spared]

theorem commit (h : AlikeOutside names r r') (spared : ∀ name, new.Defines name → ¬ names name) :
    Alike (AlikeOutside names) (r.commit new) (r'.commit new) := by
  have fields : conflict? Field.same new.fields r.fields =
      conflict? Field.same new.fields r'.fields :=
    conflict?_congr fun name listed => h.fields name (spared name (.inl listed))
  unfold Registry.commit
  rw [fields, h.structures]
  split
  · exact .error _
  · split
    · exact .error _
    · refine .ok ⟨fun name spared => ?_, rfl⟩
      rw [OrderedMap.get?_update, OrderedMap.get?_update, h.fields name spared]

end AlikeOutside

end Registry

namespace Compile

open Api (Parameter)
open Registry (AlikeOutside)
open ServiceModel (AlikeBut)

variable {s : Subject} {names : Text → Prop} {context : Context} {code : Int} {key : Text}
  {parameter : Parameter} {parameters parameters' : List Parameter}
  {members members' : InputMembers}

/-! The names that parameters and responses write. -/

theorem mem_trace_lowerSimple {type location : Text} {schema : Option Schema} {e : Effect}
    (h : e ∈ (lowerSimple context type schema location).trace) :
    (∃ f, e = .field type f) ∨ ∃ n, e = .notice n := by
  have primitive (schema : Schema)
      (h : e ∈ (if schema.isPrimitive then lower context type schema
        else refuse (.parameterType schema.kindWord) location : Lowering Text).trace) :
      (∃ f, e = .field type f) ∨ ∃ n, e = .notice n := by
    split at h
    · rename_i primitive
      rw [lower, lowerSchema_primitive _ _ _ primitive] at h
      rcases Traced.mem_trace_bind h with h | ⟨f, _, h⟩
      · simp [Traced.ofExcept] at h
      rcases mem_trace_write h with h | rfl
      · exact .inl ⟨f, List.mem_singleton.1 h⟩
      · exact .inr ⟨_, rfl⟩
    · simp [refuse, Traced.fail] at h
  cases schema with
  | none => simp [lowerSimple, refuse, Traced.fail] at h
  | some schema =>
    cases schema with
    | reference target note =>
      simp only [lowerSimple] at h
      split at h
      · simp [Traced.fail] at h
      · split at h <;> simp [refuse, Traced.fail] at h
    | _ => exact primitive _ h

/-- The name of the type of a parameter, unless it has that of a named schema. -/
def parameterType (s : Subject) (parameter : Parameter) : Text :=
  s.lead ++ "Request" ++ Text.upperFirst (Naming.safeName parameter.name)

def codedLead (s : Subject) (code : Int) : Text := s.lead ++ Text.ofInt code

theorem isSingular_codedLead (s : Subject) (code : Int) : IsSingular (codedLead s code) := by
  intro last ends
  have there : last ∈ Text.ofInt code := by
    rw [codedLead, List.getLast?_append_of_ne_nil _ (Text.ofInt_ne_nil code)] at ends
    exact List.mem_of_getLast? ends
  have digit := Text.isDigitOr_of_mem_ofInt there
  constructor
  · rintro rfl
    exact absurd digit (by decide)
  · rintro rfl
    exact absurd digit (by decide)

theorem not_request_prefix (coded : codedLead s code <+: key) :
    ¬ s.lead ++ ("Request" : Text) <+: key := by
  intro request
  obtain ⟨c, rest, spelled⟩ := List.exists_cons_of_ne_nil (Text.ofInt_ne_nil code)
  have digit : Text.isDigitOr '-' c = true :=
    Text.isDigitOr_of_mem_ofInt (n := code) (by simp [spelled])
  obtain ⟨more, rfl⟩ := coded
  have start : ("Request" : Text) = .char 'R' :: ("equest" : Text) := rfl
  rw [codedLead, spelled, start, List.append_assoc, List.prefix_append_right_inj, List.cons_append,
    List.cons_prefix_cons] at request
  rw [← request.1] at digit
  exact absurd digit (by decide)

theorem prefix_of_named_headers {n : Nat} {headers : List (Text × Api.Header)}
    {members : OrderedMap Member}
    (h : Effect.Named (headerMembers s code n headers members).trace key) :
    codedLead s code <+: key := by
  induction headers generalizing n members with
  | nil =>
    obtain ⟨e, listed, -⟩ := h
    simp [headerMembers] at listed
  | cons entry rest ih =>
    obtain ⟨e, listed, named⟩ := h
    unfold headerMembers at listed
    split at listed
    · rcases Traced.mem_trace_bind listed with noted | ⟨_, _, later⟩
      · obtain rfl := List.mem_singleton.1 noted
        cases named
      · exact ih ⟨e, later, named⟩
    · rcases Traced.mem_trace_bind listed with here | ⟨_, _, later⟩
      · rcases mem_trace_lowerSimple here with ⟨f, rfl⟩ | ⟨n, rfl⟩
        · cases named
          rw [List.append_assoc]
          exact List.prefix_append _ _
        · cases named
      · exact ih ⟨e, later, named⟩

/-! Responses, from models that differ under the names of requests. -/

section Responses

variable (spared : ∀ code key, codedLead s code <+: key → ¬ names key)

include spared

theorem abreast_performChecked (code : Int) {α : Type} {work : Lowering α}
    (coded : ∀ key, Effect.Named work.trace key → codedLead s code <+: key) :
    Abreast (AlikeBut (AlikeOutside names)) Eq (performChecked work) (performChecked work) := by
  refine .of_performChecked (.refl _) fun r r' alike => alike.commit fun key written => ?_
  exact spared code key (coded key (Registry.defines_scratch.1 written))

theorem abreast_responses :
    ResponseSteps s fun x => Abreast (AlikeBut (AlikeOutside names)) Eq x x := by
  refine Abreast.responseSteps ?_ ?_ ?_
  · exact fun code _ => abreast_performChecked spared code fun _ => prefix_of_named_headers
  · intro code suffix _ _ _
    refine abreast_performChecked spared code fun key => ?_
    apply prefix_of_named_object (isSingular_codedLead s code)
    simp only [List.append_assoc]
    exact (List.prefix_append_right_inj _).2 (List.prefix_append _ _)
  · intro code suffix body headers
    refine .of_bind .of_currentRegistry fun r r' alike => ?_
    have merged : mergedOutput s r code suffix body headers =
        mergedOutput s r' code suffix body headers := by
      unfold mergedOutput bodyMembers
      rw [alike.structures]
    rw [merged]
    refine .of_bind_self (abreast_performChecked spared code fun key => ?_) fun _ => .of_pure rfl
    rintro ⟨e, listed, named⟩
    obtain rfl := List.mem_singleton.1 listed
    cases named
    simp only [List.append_assoc]
    exact (List.prefix_append_right_inj _).2 (List.prefix_append _ _)

end Responses

/-! The parameters one by one. -/

def parameterValue (s : Subject) (parameter : Parameter) : Lowering Text :=
  lowerSimple s.context (parameterType s parameter) parameter.schema
    (s.name ++ "." ++ parameter.name)

def parameterEffects (s : Subject) (parameter : Parameter) : List Effect :=
  if parameter.isIgnored s.override s.name then
    [.notice (.ignoredRequestHeader s.name parameter.name)]
  else (parameterValue s parameter).trace

/-- A parameter that is not turned down. -/
def Acceptable (s : Subject) (parameter : Parameter) : Prop :=
  parameter.place ≠ .cookie ∧
    (parameter.isIgnored s.override s.name = false →
      (parameterValue s parameter).result.isOk = true)

theorem parameterMembers_cons (s : Subject) (n : Nat) (parameter : Parameter)
    (rest : List Parameter) (members : InputMembers) :
    parameterMembers s n (parameter :: rest) members =
      if parameter.place = .cookie then refuse .cookieParameter (s.name ++ "." ++ parameter.name)
      else if parameter.isIgnored s.override s.name then do
        note (.ignoredRequestHeader s.name parameter.name)
        parameterMembers s (n + 1) rest members
      else parameterMember s n parameter >>= fun member =>
        parameterMembers s (n + 1) rest (members.insert parameter.place parameter.name member) := by
  rw [parameterMembers]
  rfl

theorem parameterMember_ok {type : Text} (n : Nat)
    (h : (parameterValue s parameter).result = .ok type) :
    parameterMember s n parameter = ⟨(parameterValue s parameter).trace, .ok
      ⟨type, n, parameter.required || parameter.place = .path, none, parameter.description⟩⟩ := by
  refine (Traced.bind_of_ok h _).trans ?_
  simp

theorem parameterMember_error {e : BuildError} (n : Nat)
    (h : (parameterValue s parameter).result = .error e) :
    parameterMember s n parameter = ⟨(parameterValue s parameter).trace, .error e⟩ :=
  Traced.bind_of_error h _

theorem parameterMembers_cases (s : Subject) (n : Nat) (parameters : List Parameter)
    (members : InputMembers) :
    (∃ result, parameterMembers s n parameters members =
        ⟨parameters.flatMap (parameterEffects s), .ok result⟩ ∧
        ∀ parameter ∈ parameters, Acceptable s parameter) ∨
      (∃ trace e, parameterMembers s n parameters members = ⟨trace, .error e⟩) ∧
        ∃ parameter ∈ parameters, ¬ Acceptable s parameter := by
  induction parameters generalizing n members with
  | nil => exact .inl ⟨members, rfl, by simp⟩
  | cons parameter rest ih =>
    rw [parameterMembers_cons, List.flatMap_cons]
    by_cases cookie : parameter.place = .cookie
    · rw [if_pos cookie]
      exact .inr ⟨⟨_, _, rfl⟩, parameter, List.mem_cons_self, fun h => h.1 cookie⟩
    rw [if_neg cookie]
    by_cases ignored : parameter.isIgnored s.override s.name = true
    · rw [if_pos ignored, parameterEffects, if_pos ignored]
      have fine : Acceptable s parameter := ⟨cookie, by simp [ignored]⟩
      rcases ih (n + 1) members with
        ⟨result, run, accepted⟩ | ⟨⟨trace, e, run⟩, other, listed, failed⟩
      · rw [run]
        exact .inl ⟨result, rfl, List.forall_mem_cons.2 ⟨fine, accepted⟩⟩
      · rw [run]
        exact .inr ⟨⟨_, _, rfl⟩, other, List.mem_cons_of_mem _ listed, failed⟩
    · rw [if_neg ignored, parameterEffects, if_neg ignored]
      cases value : (parameterValue s parameter).result with
      | error e =>
        rw [parameterMember_error n value]
        refine .inr ⟨⟨_, _, rfl⟩, parameter, List.mem_cons_self, fun h => ?_⟩
        have taken := h.2 (eq_false_of_ne_true ignored)
        rw [value] at taken
        cases taken
      | ok type =>
        have fine : Acceptable s parameter := ⟨cookie, fun _ => by rw [value]; rfl⟩
        rw [parameterMember_ok n value, Traced.bind_of_ok rfl]
        rcases ih (n + 1) (members.insert parameter.place parameter.name
            ⟨type, n, parameter.required || parameter.place = .path, none,
              parameter.description⟩) with
          ⟨all, run, accepted⟩ | ⟨⟨trace, e, run⟩, other, listed, failed⟩
        · rw [run]
          exact .inl ⟨all, rfl, List.forall_mem_cons.2 ⟨fine, accepted⟩⟩
        · rw [run]
          exact .inr ⟨⟨_, _, rfl⟩, other, List.mem_cons_of_mem _ listed, failed⟩

/-! The parameters in another order. -/

theorem fields_parameterEffects {e : Text × Field}
    (h : e ∈ Effect.fields (parameterEffects s parameter)) :
    e.1 = parameterType s parameter := by
  obtain ⟨name, f⟩ := e
  have listed := Effect.mem_fields.1 h
  unfold parameterEffects at listed
  split at listed
  · simp at listed
  · rcases mem_trace_lowerSimple listed with ⟨g, same⟩ | ⟨n, same⟩
    · exact (Effect.field.inj same).1
    · cases same

theorem structures_parameterEffects (s : Subject) (parameters : List Parameter) :
    Effect.structures (parameters.flatMap (parameterEffects s)) = [] := by
  rw [List.eq_nil_iff_forall_not_mem]
  rintro ⟨name, structure'⟩ listed
  obtain ⟨parameter, -, written⟩ := List.mem_flatMap.1 (Effect.mem_structures.1 listed)
  unfold parameterEffects at written
  split at written
  · simp at written
  · rcases mem_trace_lowerSimple written with ⟨f, same⟩ | ⟨n, same⟩ <;> cases same

theorem get?_fields_of_elsewhere (r : Registry) (parameters : List Parameter)
    (other : ¬ s.lead ++ ("Request" : Text) <+: key) :
    (r.applyAll (parameters.flatMap (parameterEffects s))).fields.get? key = r.fields.get? key := by
  rw [Registry.applyAll_eq, OrderedMap.get?_foldl_insert, Option.or_eq_right_of_none]
  rw [List.lookup_eq_none_iff]
  intro e listed
  rw [bne_iff_ne]
  rintro rfl
  obtain ⟨parameter, -, written⟩ :=
    List.mem_flatMap.1 (Effect.mem_fields.1 (List.mem_reverse.1 listed))
  apply other
  rw [fields_parameterEffects (Effect.mem_fields.2 written)]
  exact List.prefix_append _ _

theorem apart_parameterEffects {parameter' : Parameter}
    (h : parameterType s parameter ≠ parameterType s parameter') :
    Effect.Apart (parameterEffects s parameter) (parameterEffects s parameter') := by
  constructor
  · intro name here there
    obtain ⟨e, listed, rfl⟩ := List.mem_map.1 here
    obtain ⟨e', listed', same⟩ := List.mem_map.1 there
    apply h
    rw [← fields_parameterEffects listed, ← fields_parameterEffects listed', same]
  · have none := structures_parameterEffects s [parameter]
    rw [List.flatMap_singleton] at none
    rw [none]
    exact List.disjoint_nil_left _

theorem alikeOutside_of_perm (perm : parameters.Perm parameters') (r : Registry) :
    AlikeOutside
      (fun key => ¬ (parameters.map (parameterType s)).Nodup ∧ s.lead ++ ("Request" : Text) <+: key)
      (r.applyAll (parameters.flatMap (parameterEffects s)))
      (r.applyAll (parameters'.flatMap (parameterEffects s))) := by
  constructor
  · intro key spared
    rcases not_and_or.1 spared with distinct | other
    · have apart : parameters.Pairwise fun q q' =>
          Effect.Apart (parameterEffects s q) (parameterEffects s q') :=
        (List.pairwise_map.1 (not_not.1 distinct)).imp apart_parameterEffects
      exact (Registry.sameEntries_of_perm perm apart r).fields key
    · rw [get?_fields_of_elsewhere r parameters other, get?_fields_of_elsewhere r parameters' other]
  · simp only [Registry.applyAll_eq, structures_parameterEffects]

theorem get?_declaredIn_of_perm (perm : parameters.Perm parameters')
    (distinct : (parameters.map fun q => (q.name, q.place)).Nodup) (place : Api.Place)
    (key : Text) :
    (declaredIn s place parameters).get? key = (declaredIn s place parameters').get? key := by
  have entries : (declaredEntries s place parameters).Perm (declaredEntries s place parameters') :=
    (perm.filter _).map _
  have keys : ((declaredEntries s place parameters).map Prod.fst).Nodup := by
    rw [declaredEntries, List.map_map]
    refine List.pairwise_map.2 (((List.pairwise_map.1 distinct).filter _).imp_of_mem ?_)
    intro q q' listed listed' apart same
    simp only [List.mem_filter, Bool.and_eq_true, decide_eq_true_eq] at listed listed'
    exact apart (Prod.ext same (listed.2.1.trans listed'.2.1.symm))
  apply OrderedMap.perm_entries_iff.1
  rw [declaredIn, declaredIn, OrderedMap.entries_ofList keys,
    OrderedMap.entries_ofList ((entries.map Prod.fst).nodup_iff.1 keys)]
  exact entries

/-- Members of an input that differ at most in their order and in their positions. -/
structure InputMembers.SameUnplaced (members members' : InputMembers) : Prop where
  query : Members.SameUnplaced members.query members'.query
  header : Members.SameUnplaced members.header members'.header
  path : Members.SameUnplaced members.path members'.path

theorem sameUnplaced_of_perm (perm : parameters.Perm parameters')
    (distinct : (parameters.map fun q => (q.name, q.place)).Nodup) {trace trace' : List Effect}
    (run : parameterMembers s 0 parameters .empty = ⟨trace, .ok members⟩)
    (run' : parameterMembers s 0 parameters' .empty = ⟨trace', .ok members'⟩) :
    members.SameUnplaced members' := by
  have same (m m' : OrderedMap Member) (place : Api.Place)
      (own : Members.unplaced m = declaredIn s place parameters)
      (own' : Members.unplaced m' = declaredIn s place parameters') :
        Members.SameUnplaced m m' := by
    intro key
    rw [← OrderedMap.get?_mapVals, ← OrderedMap.get?_mapVals]
    change (Members.unplaced m).get? key = (Members.unplaced m').get? key
    rw [own, own', get?_declaredIn_of_perm perm distinct]
  obtain ⟨query, header, path⟩ := parameterMembers_eq_ok run
  obtain ⟨query', header', path'⟩ := parameterMembers_eq_ok run'
  exact ⟨same _ _ .query query query', same _ _ .header header header', same _ _ .path path path'⟩

theorem assembleInput_abreast_of_sameUnplaced (operation : Api.Operation) (body : Option Text)
    (same : members.SameUnplaced members') :
    Abreast (AlikeBut (AlikeOutside names)) Eq (assembleInput s operation body members)
      (assembleInput s operation body members') := by
  refine .of_bind .of_currentRegistry fun r r' alike => ?_
  have empty : members.isEmpty = members'.isEmpty := by
    simp only [InputMembers.isEmpty, same.query.isEmpty_eq, same.header.isEmpty_eq,
      same.path.isEmpty_eq]
  have merged (required : Bool) :
      mergedInput s r body required members = mergedInput s r' body required members' := by
    have related : Members.SameSources
        [("body", (bodyMembers r' body required).1), ("query", members.query),
          ("header", members.header), ("path", members.path)]
        [("body", (bodyMembers r' body required).1), ("query", members'.query),
          ("header", members'.header), ("path", members'.path)] :=
      .cons ⟨rfl, fun _ => rfl⟩
        (.cons ⟨rfl, same.query⟩ (.cons ⟨rfl, same.header⟩ (.cons ⟨rfl, same.path⟩ .nil)))
    have under := Members.merge_under_congr related
    unfold Members.Merged.under at under
    have found : bodyMembers r body required = bodyMembers r' body required := by
      unfold bodyMembers
      rw [alike.structures]
    unfold mergedInput
    rw [found]
    simp only [under, Members.merge_members_congr related]
  rw [empty]
  split
  · apply Abreast.of_pure
    unfold plainInput
    rw [alike.structures]
  · simp only [merged]
    exact .of_bind_self (.of_perform (.refl _) fun _ _ alike => alike.applyAll _) fun _ =>
      .of_pure rfl

theorem abreast_of_sameUnplaced (verb url : Text) (operation : Api.Operation) (body : Option Text)
    (spared : ∀ code key, codedLead s code <+: key → ¬ names key)
    (same : members.SameUnplaced members') :
    let later (members : InputMembers) : Build OperationDescription := do
      let input ← assembleInput s operation body members
      let produced ← produceAll s operation.responses
      let description := describe s verb url operation input produced
      report (.decomposed s.name description.input description.output description.errors.length)
      return description
    Abreast (AlikeBut (AlikeOutside names)) Eq (later members) (later members') := by
  intro later
  refine .of_bind (assembleInput_abreast_of_sameUnplaced operation body same) ?_
  rintro input _ rfl
  refine .of_bind_self ((abreast_responses spared).of_produceAll operation.responses)
    fun produced => ?_
  exact .of_bind_self (.of_report _ _) fun _ => .of_pure rfl

end Compile

open Compile
open Api (Parameter)

/-- The order of parameters is immaterial. Both orders are refused, or both give the same
description and the same structures, and the same fields too if no two parameters ask for one
type. -/
theorem decompose_permuted {context : Context} {name verb url : Text} {operation : Api.Operation}
    {parameters : List Parameter} (perm : operation.parameters.Perm parameters)
    (distinct : (operation.parameters.map fun parameter => (parameter.name, parameter.place)).Nodup)
    (p : Progress) :
    let first := (decompose context name verb url operation).run.run p
    let second := (decompose context name verb url { operation with parameters }).run.run p
    Concur (fun description description' =>
        description = description' ∧
        first.2.model.registry.structures = second.2.model.registry.structures ∧
        first.2.model = { second.2.model with registry := first.2.model.registry } ∧
        ((operation.parameters.map (parameterType ⟨context, name⟩)).Nodup →
          ∀ key, first.2.model.registry.fields.get? key = second.2.model.registry.fields.get? key))
      first.1 second.1 := by
  intro first second
  let s : Subject := ⟨context, name⟩
  let names : Text → Prop := fun key =>
    ¬ (operation.parameters.map (parameterType s)).Nodup ∧ s.lead ++ ("Request" : Text) <+: key
  have spared (code : Int) (key : Text) (coded : codedLead s code <+: key) : ¬ names key :=
    fun named => not_request_prefix coded named.2
  suffices both : Concur (fun description description' => description = description' ∧
      ServiceModel.AlikeBut (Registry.AlikeOutside names) first.2.model second.2.model)
        first.1 second.1 by
    refine both.imp fun _ _ same => ⟨same.1, same.2.types.structures, same.2.rest, ?_⟩
    intro distinct key
    exact same.2.types.fields key fun named => named.1 distinct
  dsimp only [first, second]
  unfold decompose
  cases ofBody : (bodyType s operation.body).result with
  | error e =>
    rw [run_perform_error ofBody, run_perform_error ofBody]
    exact .error e e
  | ok body =>
    rw [run_perform_ok ofBody, run_perform_ok ofBody]
    generalize Progress.mk _ _ = q
    rcases parameterMembers_cases s 0 operation.parameters .empty with
      ⟨members, taken, accepted⟩ | ⟨⟨trace, e, refused⟩, parameter, listed, failed⟩
    · rcases parameterMembers_cases s 0 parameters .empty with
        ⟨members', taken', -⟩ | ⟨-, parameter, listed, failed⟩
      · rw [run_perform_ok (congrArg Traced.result taken),
          run_perform_ok (congrArg Traced.result taken')]
        have same := sameUnplaced_of_perm perm distinct taken taken'
        refine (abreast_of_sameUnplaced verb url operation body spared same _ _ ?_).concur
        refine ⟨?_, rfl⟩
        rw [taken, taken']
        exact alikeOutside_of_perm perm _
      · exact absurd (accepted parameter (perm.mem_iff.2 listed)) failed
    · rcases parameterMembers_cases s 0 parameters .empty with
        ⟨members', -, accepted⟩ | ⟨⟨trace', e', refused'⟩, -⟩
      · exact absurd (accepted parameter (perm.mem_iff.1 listed)) failed
      · rw [run_perform_error (congrArg Traced.result refused),
          run_perform_error (congrArg Traced.result refused')]
        exact .error e e'

def trackParcel : Api.Operation :=
  { sendParcel with
    parameters :=
      [⟨"id", .path, false, none, some (.string default default)⟩,
        ⟨"page", .query, false, none, some (.integer default default)⟩,
        ⟨"trace", .header, false, some "Who asks.", some (.reference traceName none)⟩,
        ⟨"debug", .header, false, none, some (.boolean default)⟩,
        ⟨"size", .query, false, none, some (.boolean default)⟩] }

def trackParcelBackward : Api.Operation :=
  { trackParcel with parameters := trackParcel.parameters.reverse }

/-- The fields are written in another order, but are the same. -/
theorem decompose_permuted_parcel :
    ∃ description p p',
      Runs (decompose parcels "trackParcel" "post" "/parcels/id" trackParcel) knownParcel
        description p ∧
      Runs (decompose parcels "trackParcel" "post" "/parcels/id" trackParcelBackward) knownParcel
        description p' ∧
      p.model.registry.fields.keys ≠ p'.model.registry.fields.keys ∧
      (∀ key, p.model.registry.fields.get? key = p'.model.registry.fields.get? key) ∧
      p.model.registry.structures = p'.model.registry.structures := by
  have both := @decompose_permuted parcels "trackParcel" "post" "/parcels/id" trackParcel _
    (List.reverse_perm _).symm (by decide +kernel) knownParcel
  have taken : ((decompose parcels "trackParcel" "post" "/parcels/id" trackParcel).run.run
      knownParcel).1.isOk = true := by decide +kernel
  have differ : ((decompose parcels "trackParcel" "post" "/parcels/id" trackParcel).run.run
      knownParcel).2.model.registry.fields.keys ≠
        ((decompose parcels "trackParcel" "post" "/parcels/id" trackParcelBackward).run.run
          knownParcel).2.model.registry.fields.keys := by decide +kernel
  have types : (trackParcel.parameters.map (parameterType ⟨parcels, "trackParcel"⟩)).Nodup := by
    decide +kernel
  dsimp only at both
  rw [← trackParcelBackward] at both
  unfold Runs
  generalize (decompose parcels "trackParcel" "post" "/parcels/id" trackParcel).run.run
    knownParcel = first at *
  generalize (decompose parcels "trackParcel" "post" "/parcels/id" trackParcelBackward).run.run
    knownParcel = second at *
  obtain ⟨result, p⟩ := first
  obtain ⟨result', p'⟩ := second
  dsimp only at *
  cases both with
  | ok same =>
    obtain ⟨rfl, structures, -, fields⟩ := same
    exact ⟨_, p, p', rfl, rfl, differ, fields types, structures⟩
  | error _ => cases taken

end ApiModel

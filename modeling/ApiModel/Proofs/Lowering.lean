import ApiModel.Compile.Lowering
import ApiModel.Proofs.Positions

/-! How lowering runs: what a run that succeeds has done, constructor by constructor of the schema,
and where the effects of any run come from. Later proofs use these facts and do not open the
definitions. -/
namespace ApiModel

namespace Traced

variable {τ ε α β : Type} {x : Traced τ ε α} {f : α → Traced τ ε β}

theorem bind_eq_ok {trace : List τ} {b : β} (h : x >>= f = ⟨trace, .ok b⟩) :
    ∃ a first second, x = ⟨first, .ok a⟩ ∧ f a = ⟨second, .ok b⟩ ∧ trace = first ++ second := by
  obtain ⟨first, result⟩ := x
  cases result with
  | error e => simp [bind, andThen] at h
  | ok a =>
    simp only [bind, andThen, Traced.mk.injEq] at h
    refine ⟨a, first, (f a).trace, rfl, ?_, h.1.symm⟩
    rw [← h.2]

theorem pure_eq_ok {trace : List τ} {a b : α} (h : (pure a : Traced τ ε α) = ⟨trace, .ok b⟩) :
    trace = [] ∧ b = a := by
  injection h with emptied same
  injection same with same
  exact ⟨emptied.symm, same.symm⟩

theorem emit_eq_ok {entry : τ} {trace : List τ} {u : Unit}
    (h : (emit entry : Traced τ ε Unit) = ⟨trace, .ok u⟩) : trace = [entry] := by
  injection h with only
  exact only.symm

theorem mem_trace_bind {entry : τ} (h : entry ∈ (x >>= f).trace) :
    entry ∈ x.trace ∨ ∃ a, x.result = .ok a ∧ entry ∈ (f a).trace := by
  obtain ⟨first, result⟩ := x
  cases result with
  | error e => exact .inl h
  | ok a =>
    simp only [bind, andThen, List.mem_append] at h
    rcases h with h | h
    · exact .inl h
    · exact .inr ⟨a, rfl, h⟩

end Traced

namespace Schema

theorem sizeOf_property {notes : Notes} {required : List Text} {properties : List (Text × Schema)}
    {additional : Option Schema} {entry : Text × Schema} (h : entry ∈ properties) :
    sizeOf entry.2 < sizeOf (object notes required properties additional) := by
  have inList := List.sizeOf_lt_of_mem h
  obtain ⟨key, schema⟩ := entry
  simp only [Prod.mk.sizeOf_spec, object.sizeOf_spec] at *
  omega

theorem sizeOf_items {notes : Notes} {length : LengthRange} {items : Schema} :
    sizeOf items < sizeOf (array notes length (some items)) := by
  simp only [array.sizeOf_spec, Option.some.sizeOf_spec]
  omega

theorem sizeOf_branch {kind : UnionKind} {description : Option Text} {branches : List Schema}
    {branch : Schema} (h : branch ∈ branches) :
    sizeOf branch < sizeOf (union kind description branches) := by
  have inList := List.sizeOf_lt_of_mem h
  simp only [union.sizeOf_spec]
  omega

theorem sizeOf_branchProperty {kind : UnionKind} {description : Option Text}
    {branches : List Schema} {notes : Notes} {required : List Text}
    {properties : List (Text × Schema)} {additional : Option Schema} {entry : Text × Schema}
    (branch : object notes required properties additional ∈ branches) (h : entry ∈ properties) :
    sizeOf entry.2 < sizeOf (union kind description branches) :=
  Nat.lt_trans (sizeOf_property h) (sizeOf_branch branch)

/-- What holds of a schema whenever it holds of all smaller ones holds of every schema. Branches of
a union give their own properties, so the induction has to reach two levels down. -/
theorem sizeInduction {P : Schema → Prop}
    (step : ∀ schema, (∀ part, sizeOf part < sizeOf schema → P part) → P schema)
    (schema : Schema) : P schema :=
  (measure (sizeOf : Schema → Nat)).wf.induction schema step

def isReference : Schema → Bool
  | reference _ _ => true
  | _ => false

/-- The names in place of whole branches of the unions inside a schema. References are not
followed. -/
inductive Unites : Schema → Text → Prop where
  | named {kind : UnionKind} {description note : Option Text} {branches : List Schema}
      {target : SchemaName} (listed : .reference target note ∈ branches) :
      Unites (.union kind description branches) target
  | branch {kind : UnionKind} {description : Option Text} {branches : List Schema}
      {branch : Schema} {target : Text} (listed : branch ∈ branches)
        (inner : Unites branch target) :
      Unites (.union kind description branches) target
  | property {notes : Notes} {required : List Text} {properties : List (Text × Schema)}
      {additional : Option Schema} {entry : Text × Schema} {target : Text}
      (listed : entry ∈ properties) (inner : Unites entry.2 target) :
      Unites (.object notes required properties additional) target
  | items {notes : Notes} {length : LengthRange} {items : Schema} {target : Text}
      (inner : Unites items target) : Unites (.array notes length (some items)) target

end Schema

namespace Compile

variable {override : ModelOverride} {cross : Crossing} {name enclosing : Text}

def lowerProperty (override : ModelOverride) (cross : Crossing) (enclosing : Text)
    (required : List Text) (key : Text) : Schema → Lowering Member
  | .reference name description =>
    pure (newMember name (required.contains key) description)
  | schema => do
    let type ← lowerSchema override cross (Naming.partName enclosing key) schema
    return newMember type (required.contains key) schema.description

theorem lowerProperties_eq_map (override : ModelOverride) (cross : Crossing) (enclosing : Text)
    (required : List Text) (properties : List (Text × Schema)) :
    lowerProperties override cross enclosing required properties =
      properties.map fun e => (e.1, lowerProperty override cross enclosing required e.1 e.2) := by
  induction properties with
  | nil => simp [lowerProperties]
  | cons entry rest ih =>
    obtain ⟨key, schema⟩ := entry
    cases schema <;> simp [lowerProperties, lowerProperty, ih]

theorem lowerProperty_inline (override : ModelOverride) (cross : Crossing) (enclosing : Text)
    (required : List Text) (key : Text) {schema : Schema} (inline : schema.isReference = false) :
    lowerProperty override cross enclosing required key schema = (do
      let type ← lowerSchema override cross (Naming.partName enclosing key) schema
      return newMember type (required.contains key) schema.description) := by
  cases schema with
  | reference target description => simp [Schema.isReference] at inline
  | _ => rfl

def lowerBranch (override : ModelOverride) (cross : Crossing) (name : Text) (n : Nat) :
    Schema → Lowering (List (Text × Member))
  | .reference target _ => cross name (name ++ toString n) target
  | .object _ required properties none =>
    gather (lowerProperties override cross (name ++ toString n) required properties)
  | branch => refuse (.unionBranch branch.kindWord) name

theorem lowerBranches_cons (override : ModelOverride) (cross : Crossing) (name : Text) (n : Nat)
    (branch : Schema) (rest : List Schema) :
    lowerBranches override cross name n (branch :: rest) = (do
      let first ← lowerBranch override cross name n branch
      let more ← lowerBranches override cross name (n + 1) rest
      return first ++ more) := by
  cases branch with
  | object notes required properties additional =>
    cases additional with
    | none => simp [lowerBranches, lowerBranch]
    | some values => simp [lowerBranches, lowerBranch, refuse]; rfl
  | _ => simp [lowerBranches, lowerBranch, refuse] <;> rfl

theorem result_of_eq {α : Type} {work : Lowering α} {a : α} (h : work.result = .ok a) :
    work = ⟨work.trace, .ok a⟩ := by
  rw [← h]

/-! Gathering the members of several parts. -/

section Gathering

variable {parts : List (Text × Lowering Member)} {members : List (Text × Member)}
  {trace : List Effect}

/-- A part that was lowered on the way to a trace, with what it gave. -/
def Done (trace : List Effect) (work : Lowering Member) (member : Member) : Prop :=
  work.result = .ok member ∧ work.trace ⊆ trace

theorem Done.mono {work : Lowering Member} {member : Member} {trace longer : List Effect}
    (h : Done trace work member) (contained : trace ⊆ longer) : Done longer work member :=
  ⟨h.1, List.Subset.trans h.2 contained⟩

theorem inOrder_eq_ok (h : inOrder parts = ⟨trace, .ok members⟩) :
    members.map Prod.fst = parts.map Prod.fst ∧
      (∀ key member, (key, member) ∈ members →
        ∃ work, (key, work) ∈ parts ∧ Done trace work member) ∧
      ∀ e ∈ trace, ∃ key work member,
        (key, work) ∈ parts ∧ Done trace work member ∧ e ∈ work.trace := by
  induction parts generalizing members trace with
  | nil =>
    obtain ⟨rfl, rfl⟩ := Traced.pure_eq_ok h
    simp
  | cons part rest ih =>
    obtain ⟨key, work⟩ := part
    obtain ⟨member, first, others, done, next, rfl⟩ := Traced.bind_eq_ok h
    obtain ⟨more, second, last, restDone, returned, rfl⟩ := Traced.bind_eq_ok next
    obtain ⟨rfl, rfl⟩ := Traced.pure_eq_ok returned
    obtain ⟨names, made, traced⟩ := ih restDone
    have atFirst : Done (first ++ (second ++ [])) work member := ⟨by rw [done], by simp [done]⟩
    have later : second ⊆ first ++ (second ++ []) := by simp
    refine ⟨by simp [names], ?_, ?_⟩
    · intro key' member' listed
      rcases List.mem_cons.1 listed with same | listed
      · cases same
        exact ⟨work, List.mem_cons_self, atFirst⟩
      · obtain ⟨work', partListed, finished⟩ := made key' member' listed
        exact ⟨work', List.mem_cons_of_mem _ partListed, finished.mono later⟩
    · intro e effect
      rcases List.mem_append.1 effect with effect | effect
      · exact ⟨key, work, member, List.mem_cons_self, atFirst, by rw [done]; exact effect⟩
      · rw [List.append_nil] at effect
        obtain ⟨key', work', member', partListed, finished, effect⟩ := traced e effect
        exact ⟨key', work', member', List.mem_cons_of_mem _ partListed, finished.mono later, effect⟩

theorem trace_inOrder (h : inOrder parts = ⟨trace, .ok members⟩) :
    trace = parts.flatMap fun part => part.2.trace := by
  induction parts generalizing members trace with
  | nil => exact (Traced.pure_eq_ok h).1
  | cons part rest ih =>
    obtain ⟨member, first, others, done, next, rfl⟩ := Traced.bind_eq_ok h
    obtain ⟨more, second, last, restDone, returned, rfl⟩ := Traced.bind_eq_ok next
    obtain ⟨rfl, -⟩ := Traced.pure_eq_ok returned
    rw [List.append_nil, List.flatMap_cons, done, ih restDone]

theorem mem_trace_inOrder {e : Effect} (h : e ∈ (inOrder parts).trace) :
    ∃ p ∈ parts, e ∈ p.2.trace := by
  induction parts with
  | nil => simp [inOrder] at h
  | cons part rest ih =>
    obtain ⟨key, work⟩ := part
    rcases Traced.mem_trace_bind h with h | ⟨_, _, h⟩
    · exact ⟨(key, work), List.mem_cons_self, h⟩
    rcases Traced.mem_trace_bind h with h | ⟨_, _, h⟩
    · obtain ⟨p, member, effect⟩ := ih h
      exact ⟨p, List.mem_cons_of_mem _ member, effect⟩
    · simp at h

theorem mem_trace_gather {e : Effect} (h : e ∈ (gather parts).trace) :
    ∃ p ∈ parts, e ∈ p.2.trace := by
  rcases Traced.mem_trace_bind h with h | ⟨_, _, h⟩
  · obtain ⟨p, member, effect⟩ := mem_trace_inOrder h
    have listed : p ∈ (OrderedMap.ofList parts).entries :=
      (perm_sortByKey _).mem_iff.1 member
    exact ⟨p, OrderedMap.mem_of_get?_ofList (OrderedMap.get?_eq_some_iff.2 listed), effect⟩
  · simp at h

/-- What a successful gathering returns: members whose names ascend and that are numbered by their
order, one for each name, made by the last part with that name. The parts are lowered in the order
of their names. -/
structure Gathered (parts : List (Text × Lowering Member)) (trace : List Effect)
    (members : List (Text × Member)) : Prop where
  ascending : (members.map Prod.fst).Pairwise (· < ·)
  numbered : Members.numberFrom 0 members = members
  keys : ∀ key, key ∈ members.map Prod.fst ↔ key ∈ parts.map Prod.fst
  made : ∀ key member, (key, member) ∈ members → ∃ work original,
    (OrderedMap.ofList parts).get? key = some work ∧ Done trace work original ∧
      member = { original with position := member.position }
  traced : ∀ e ∈ trace, ∃ key work member,
    (OrderedMap.ofList parts).get? key = some work ∧ Done trace work member ∧ e ∈ work.trace
  consecutive : trace = (OrderedMap.ofList parts).sortedEntries.flatMap fun part => part.2.trace

theorem gather_eq_ok (h : gather parts = ⟨trace, .ok members⟩) : Gathered parts trace members := by
  obtain ⟨plain, first, last, done, returned, rfl⟩ := Traced.bind_eq_ok h
  obtain ⟨rfl, rfl⟩ := Traced.pure_eq_ok returned
  obtain ⟨names, made, traced⟩ := inOrder_eq_ok done
  have found {key : Text} {work : Lowering Member}
      (listed : (key, work) ∈ (OrderedMap.ofList parts).sortedEntries) :
      (OrderedMap.ofList parts).get? key = some work :=
    OrderedMap.get?_eq_some_iff.2 ((perm_sortByKey _).mem_iff.1 listed)
  rw [List.append_nil]
  constructor
  · rw [Members.keys_numberFrom, names]
    exact pairwise_keys_sortByKey (OrderedMap.ofList parts).nodup
  · exact Members.numberFrom_numberFrom 0 plain
  · intro key
    rw [Members.keys_numberFrom, names, ← OrderedMap.mem_keys_ofList (l := parts)]
    exact ((perm_sortByKey (OrderedMap.ofList parts).entries).map Prod.fst).mem_iff
  · intro key member listed
    obtain ⟨original, plainListed, same⟩ := Members.mem_numberFrom listed
    obtain ⟨work, partListed, finished⟩ := made key original plainListed
    exact ⟨work, original, found partListed, finished, same⟩
  · intro e effect
    obtain ⟨key, work, member, partListed, finished, effect⟩ := traced e effect
    exact ⟨key, work, member, found partListed, finished, effect⟩
  · exact trace_inOrder done

theorem ranked_of_gathered {documentation : Option Text} (h : Gathered parts trace members) :
    Members.Ranked (structureOf members documentation).members := by
  unfold structureOf
  dsimp only
  rw [← h.numbered]
  exact Members.ranked_ofList h.ascending

end Gathering

/-! The members of an object's properties. -/

section Properties

variable {required : List Text} {properties : List (Text × Schema)} {key : Text}
  {schema : Schema} {members : List (Text × Member)} {member : Member} {trace : List Effect}

/-- How a part got its type: a reference is used by its name, anything else was lowered under the
given name on the way to a trace. -/
inductive Typed (override : ModelOverride) (cross : Crossing) (trace : List Effect) (name : Text) :
    Schema → Text → Prop where
  | named {target : SchemaName} {description : Option Text} :
      Typed override cross trace name (.reference target description) target
  | lowered {schema : Schema} {type : Text} {sub : List Effect}
      (inline : schema.isReference = false)
      (run : lowerSchema override cross name schema = ⟨sub, .ok type⟩) (traced : sub ⊆ trace) :
      Typed override cross trace name schema type

theorem typed_of_done
    (done : Done trace (lowerProperty override cross enclosing required key schema) member) :
    Typed override cross trace (Naming.partName enclosing key) schema member.valueType ∧
      member.required = required.contains key ∧ member.documentation = schema.description := by
  obtain ⟨result, contained⟩ := done
  have run := result_of_eq result
  by_cases inline : schema.isReference = false
  · rw [lowerProperty_inline override cross enclosing required key inline] at run contained
    obtain ⟨type, first, last, lowered, returned, whole⟩ := Traced.bind_eq_ok run
    obtain ⟨-, rfl⟩ := Traced.pure_eq_ok returned
    refine ⟨.lowered inline lowered ?_, rfl, rfl⟩
    rw [whole] at contained
    exact List.Subset.trans (List.subset_append_left first last) contained
  · cases schema <;> simp [Schema.isReference] at inline
    obtain ⟨-, rfl⟩ := Traced.pure_eq_ok run
    exact ⟨.named, rfl, rfl⟩

theorem member_of_gathered
    (gathered : Gathered (lowerProperties override cross enclosing required properties)
      trace members) (listed : (key, member) ∈ members) :
    ∃ schema, (OrderedMap.ofList properties).get? key = some schema ∧
      Typed override cross trace (Naming.partName enclosing key) schema member.valueType ∧
      member.required = required.contains key ∧ member.documentation = schema.description := by
  obtain ⟨work, original, known, done, same⟩ := gathered.made key member listed
  rw [lowerProperties_eq_map, OrderedMap.get?_ofList_map fun key schema =>
    lowerProperty override cross enclosing required key schema] at known
  obtain ⟨schema, declared, rfl⟩ := Option.map_eq_some_iff.1 known
  have typed := typed_of_done done
  rw [same]
  exact ⟨schema, declared, typed⟩

theorem effect_of_gathered
    (gathered : Gathered (lowerProperties override cross enclosing required properties)
      trace members) {e : Effect} (effect : e ∈ trace) :
    ∃ entry ∈ properties, ∃ sub type,
      lowerSchema override cross (Naming.partName enclosing entry.1) entry.2 = ⟨sub, .ok type⟩ ∧
        sub ⊆ trace ∧ e ∈ sub := by
  obtain ⟨key, work, member, known, done, effect⟩ := gathered.traced e effect
  rw [lowerProperties_eq_map, OrderedMap.get?_ofList_map fun key schema =>
    lowerProperty override cross enclosing required key schema] at known
  obtain ⟨schema, declared, rfl⟩ := Option.map_eq_some_iff.1 known
  refine ⟨(key, schema), OrderedMap.mem_of_get?_ofList declared, ?_⟩
  by_cases inline : schema.isReference = false
  · obtain ⟨result, contained⟩ := done
    have run := result_of_eq result
    rw [lowerProperty_inline override cross enclosing required key inline] at run contained effect
    obtain ⟨type, first, last, lowered, returned, whole⟩ := Traced.bind_eq_ok run
    obtain ⟨rfl, -⟩ := Traced.pure_eq_ok returned
    rw [whole, List.append_nil] at contained effect
    exact ⟨first, type, lowered, contained, effect⟩
  · cases schema <;> simp [Schema.isReference] at inline
    simp [lowerProperty] at effect

theorem keys_of_gathered
    (gathered : Gathered (lowerProperties override cross enclosing required properties)
      trace members) : key ∈ members.map Prod.fst ↔ key ∈ properties.map Prod.fst := by
  rw [gathered.keys, lowerProperties_eq_map]
  simp

end Properties

/-! Branches of a union. -/

/-- What a successful run over the branches of a union has done, branch by branch from a number
on. -/
inductive LoweredBranches (override : ModelOverride) (cross : Crossing) (name : Text) :
    Nat → List Schema → List Effect → List (Text × Member) → Prop where
  | nil {n : Nat} : LoweredBranches override cross name n [] [] []
  | named {n : Nat} {target : SchemaName} {description : Option Text} {rest : List Schema}
      {first more : List (Text × Member)} {early later : List Effect}
      (crossed : cross name (name ++ toString n) target = ⟨early, .ok first⟩)
      (others : LoweredBranches override cross name (n + 1) rest later more) :
      LoweredBranches override cross name n (.reference target description :: rest)
        (early ++ later) (first ++ more)
  | inline {n : Nat} {notes : Notes} {required : List Text} {properties : List (Text × Schema)}
      {rest : List Schema} {first more : List (Text × Member)} {early later : List Effect}
      (gathered : Gathered
        (lowerProperties override cross (name ++ toString n) required properties) early first)
      (others : LoweredBranches override cross name (n + 1) rest later more) :
      LoweredBranches override cross name n (.object notes required properties none :: rest)
        (early ++ later) (first ++ more)

theorem loweredBranches_of_eq_ok {n : Nat} {branches : List Schema} {trace : List Effect}
    {members : List (Text × Member)}
    (h : lowerBranches override cross name n branches = ⟨trace, .ok members⟩) :
    LoweredBranches override cross name n branches trace members := by
  induction branches generalizing n trace members with
  | nil =>
    rw [lowerBranches] at h
    obtain ⟨rfl, rfl⟩ := Traced.pure_eq_ok h
    exact .nil
  | cons branch rest ih =>
    rw [lowerBranches_cons] at h
    obtain ⟨first, early, later, ofFirst, next, rfl⟩ := Traced.bind_eq_ok h
    obtain ⟨more, middle, last, ofRest, returned, rfl⟩ := Traced.bind_eq_ok next
    obtain ⟨rfl, rfl⟩ := Traced.pure_eq_ok returned
    rw [List.append_nil]
    -- only objects and references get past their kind
    unfold lowerBranch at ofFirst
    split at ofFirst
    · exact .named ofFirst (ih ofRest)
    · exact .inline (gather_eq_ok ofFirst) (ih ofRest)
    · simp [refuse, Traced.fail] at ofFirst

/-- What a successful run of lowering has done, by the shape of the schema: the name that it
returned and what it traced. -/
inductive Lowered (override : ModelOverride) (cross : Crossing) (name : Text) :
    Schema → Text → List Effect → Prop where
  | primitive {schema : Schema} {field : Field} {notice : Notice}
      (found : primitiveField? override schema = some field) :
      Lowered override cross name schema name [.field name field, .notice notice]
  | map {notes : Notes} {required : List Text} {properties : List (Text × Schema)}
      {values : Schema} {type : Text} {notice : Notice} (found : mapValueType? values = some type) :
      Lowered override cross name (.object notes required properties (some values)) name
        [.field name (.map "String" type .unbounded), .notice notice]
  | object {notes : Notes} {required : List Text} {properties : List (Text × Schema)}
      {members : List (Text × Member)} {trace : List Effect} {notice : Notice}
      (gathered :
        Gathered (lowerProperties override cross name required properties) trace members) :
      Lowered override cross name (.object notes required properties none) name
        (trace ++ [.structure name (structureOf members notes.description), .notice notice])
  | listOfNamed {notes : Notes} {length : LengthRange} {element : SchemaName}
      {description : Option Text} {notice : Notice} :
      Lowered override cross name (.array notes length (some (.reference element description)))
        name [.field name (.list element length), .notice notice]
  | list {notes : Notes} {length : LengthRange} {items : Schema} {element : Text}
      {trace : List Effect} {notice : Notice} (inline : items.isReference = false)
      (lowered : lowerSchema override cross (Naming.listNames name).element items =
        ⟨trace, .ok element⟩) :
      Lowered override cross name (.array notes length (some items))
        (Naming.listNames name).container
        (trace ++ [.field (Naming.listNames name).container (.list element length),
          .notice notice])
  | union {kind : UnionKind} {description : Option Text} {branches : List Schema}
      {members : List (Text × Member)} {trace : List Effect} {notice : Notice}
      (lowered : LoweredBranches override cross name 1 branches trace members) :
      Lowered override cross name (.union kind description branches) name
        (trace ++ [.structure name ⟨Members.renumber (.ofList members), description⟩,
          .notice notice])
  | reference {target : SchemaName} {description : Option Text} {notice : Notice} :
      Lowered override cross name (.reference target description) name [.notice notice]

theorem write_eq_ok {write : Lowering Unit} {effect : Effect} (emitted : write = .emit effect)
    {notice : Notice} {result type : Text} {trace : List Effect}
    (h : (do write; note notice; return result) = (⟨trace, .ok type⟩ : Lowering Text)) :
    type = result ∧ trace = [effect, .notice notice] := by
  subst emitted
  obtain ⟨_, first, second, written, next, rfl⟩ := Traced.bind_eq_ok h
  obtain ⟨_, third, last, noted, returned, rfl⟩ := Traced.bind_eq_ok next
  obtain ⟨rfl, rfl⟩ := Traced.pure_eq_ok returned
  obtain rfl := Traced.emit_eq_ok written
  obtain rfl := Traced.emit_eq_ok noted
  exact ⟨rfl, rfl⟩

theorem lowerMap_eq_emit {values : Schema} {u : Unit} {trace : List Effect}
    (h : lowerMap name values = ⟨trace, .ok u⟩) :
    ∃ type, mapValueType? values = some type ∧
      lowerMap name values = .emit (.field name (.map "String" type .unbounded)) := by
  unfold lowerMap at *
  cases found : mapValueType? values with
  | none => simp [found, refuse, Traced.fail] at h
  | some type => exact ⟨type, rfl, rfl⟩

theorem lowerSchema_primitive (override : ModelOverride) (cross : Crossing) (name : Text)
    {schema : Schema} (primitive : schema.isPrimitive = true) :
    lowerSchema override cross name schema = (do
      let field ← .ofExcept (primitiveField override name schema)
      writeField name field
      note (.lowered schema.kindWord name)
      return name) := by
  cases schema with
  | boolean notes => rfl
  | integer notes range => rfl
  | number notes range => rfl
  | string notes facets => rfl
  | _ => simp [Schema.isPrimitive] at primitive

theorem lowerSchema_primitive_eq_ok {schema : Schema} {type : Text} {trace : List Effect}
    (primitive : schema.isPrimitive = true)
    (h : lowerSchema override cross name schema = ⟨trace, .ok type⟩) :
    Lowered override cross name schema type trace := by
  rw [lowerSchema_primitive override cross name primitive] at h
  obtain ⟨field, first, second, found, next, rfl⟩ := Traced.bind_eq_ok h
  obtain ⟨rfl, rfl⟩ := write_eq_ok rfl next
  unfold primitiveField at found
  cases made : primitiveField? override schema with
  | none => simp [made, Traced.ofExcept] at found
  | some made' =>
    simp only [made, Traced.ofExcept, Traced.mk.injEq, Except.ok.injEq] at found
    obtain ⟨rfl, rfl⟩ := found
    exact .primitive made

theorem lowerSchema_inlineArray (override : ModelOverride) (cross : Crossing) (name : Text)
    (notes : Notes) (length : LengthRange) {items : Schema} (inline : items.isReference = false) :
    lowerSchema override cross name (.array notes length (some items)) = (do
      let element ← lowerSchema override cross (Naming.listNames name).element items
      writeField (Naming.listNames name).container (.list element length)
      note (.lowered "array" (Naming.listNames name).container)
      return (Naming.listNames name).container) := by
  cases items with
  | reference target description => simp [Schema.isReference] at inline
  | _ => simp only [lowerSchema]

section Congruence

variable {o o' : ModelOverride} {cross' : Crossing}

theorem lowerProperties_congr {required : List Text} {properties : List (Text × Schema)}
    (h : ∀ e ∈ properties, ∀ name, lowerSchema o cross name e.2 = lowerSchema o' cross' name e.2) :
    lowerProperties o cross enclosing required properties =
      lowerProperties o' cross' enclosing required properties := by
  rw [lowerProperties_eq_map, lowerProperties_eq_map]
  apply List.map_congr_left
  intro e listed
  congr 1
  unfold lowerProperty
  split
  · rfl
  · rw [h e listed]

theorem lowerBranches_congr {branches : List Schema}
    (h : ∀ branch ∈ branches, ∀ n,
      lowerBranch o cross name n branch = lowerBranch o' cross' name n branch) (n : Nat) :
    lowerBranches o cross name n branches = lowerBranches o' cross' name n branches := by
  induction branches generalizing n with
  | nil => simp only [lowerBranches]
  | cons branch rest ih =>
    rw [lowerBranches_cons, lowerBranches_cons, h branch List.mem_cons_self,
      ih fun other listed => h other (List.mem_cons_of_mem _ listed)]

/-- Lowering asks of an override what its primitive parts become, and of the way into named schemas
what stands behind its unions; it depends on nothing else. -/
theorem lowerSchema_congr
    (fields : ∀ name schema, primitiveField o name schema = primitiveField o' name schema)
    (schema : Schema) :
    (∀ target, schema.Unites target → ∀ union enclosing,
      cross union enclosing target = cross' union enclosing target) →
    ∀ name, lowerSchema o cross name schema = lowerSchema o' cross' name schema := by
  induction schema using Schema.sizeInduction with
  | step schema ih =>
    intro crossed name
    have primitive (leaf : schema.isPrimitive = true) :
        lowerSchema o cross name schema = lowerSchema o' cross' name schema := by
      rw [lowerSchema_primitive _ _ _ leaf, lowerSchema_primitive _ _ _ leaf, fields]
    cases schema with
    | object notes required properties additional =>
      cases additional with
      | some values => simp only [lowerSchema]
      | none =>
        simp only [lowerSchema]
        rw [lowerProperties_congr fun e listed => ih e.2 (Schema.sizeOf_property listed)
          fun target inner => crossed target (.property listed inner)]
    | array notes length items =>
      cases items with
      | none => simp only [lowerSchema]
      | some items =>
        by_cases inline : items.isReference = false
        · rw [lowerSchema_inlineArray _ _ _ _ _ inline, lowerSchema_inlineArray _ _ _ _ _ inline,
            ih items Schema.sizeOf_items fun target inner => crossed target (.items inner)]
        · cases items <;> simp [Schema.isReference] at inline
          simp only [lowerSchema]
    | union kind description branches =>
      simp only [lowerSchema]
      rw [lowerBranches_congr]
      intro branch listed n
      unfold lowerBranch
      split
      · exact crossed _ (.named listed) _ _
      · exact congrArg gather (lowerProperties_congr fun e found =>
          ih e.2 (Schema.sizeOf_branchProperty listed found) fun target inner =>
            crossed target (.branch listed (.property found inner)))
      · rfl
    | boolean notes => exact primitive rfl
    | integer notes range => exact primitive rfl
    | number notes range => exact primitive rfl
    | string notes facets => exact primitive rfl
    | _ => simp only [lowerSchema]

end Congruence

theorem lowered_of_eq_ok {schema : Schema} {type : Text} {trace : List Effect}
    (h : lowerSchema override cross name schema = ⟨trace, .ok type⟩) :
    Lowered override cross name schema type trace := by
  cases schema with
  | boolean notes => exact lowerSchema_primitive_eq_ok rfl h
  | integer notes range => exact lowerSchema_primitive_eq_ok rfl h
  | number notes range => exact lowerSchema_primitive_eq_ok rfl h
  | string notes facets => exact lowerSchema_primitive_eq_ok rfl h
  | object notes required properties additional =>
    cases additional with
    | none =>
      rw [lowerSchema] at h
      obtain ⟨members, first, second, done, next, rfl⟩ := Traced.bind_eq_ok h
      obtain ⟨rfl, rfl⟩ := write_eq_ok rfl next
      exact .object (gather_eq_ok done)
    | some values =>
      rw [lowerSchema] at h
      obtain ⟨_, first, second, done, -⟩ := Traced.bind_eq_ok h
      obtain ⟨value, found, emitted⟩ := lowerMap_eq_emit done
      obtain ⟨rfl, rfl⟩ := write_eq_ok emitted h
      exact .map found
  | array notes length items =>
    cases items with
    | none => simp [lowerSchema, refuse, Traced.fail] at h
    | some items =>
      by_cases inline : items.isReference = false
      · rw [lowerSchema_inlineArray override cross name notes length inline] at h
        obtain ⟨element, first, second, done, next, rfl⟩ := Traced.bind_eq_ok h
        obtain ⟨rfl, rfl⟩ := write_eq_ok rfl next
        exact .list inline done
      · cases items <;> simp [Schema.isReference] at inline
        rw [lowerSchema] at h
        obtain ⟨rfl, rfl⟩ := write_eq_ok rfl h
        exact .listOfNamed
  | union kind description branches =>
    rw [lowerSchema] at h
    obtain ⟨members, first, second, done, next, rfl⟩ := Traced.bind_eq_ok h
    obtain ⟨rfl, rfl⟩ := write_eq_ok rfl next
    exact .union (loweredBranches_of_eq_ok done)
  | reference target description =>
    rw [lowerSchema] at h
    obtain ⟨_, first, second, noted, returned, rfl⟩ := Traced.bind_eq_ok h
    obtain ⟨rfl, rfl⟩ := Traced.pure_eq_ok returned
    obtain rfl := Traced.emit_eq_ok noted
    exact .reference
  | negation description => simp [lowerSchema, refuse, Traced.fail] at h
  | fragment notes => simp [lowerSchema, refuse, Traced.fail] at h

theorem crossing_eq_ok {context : Context} {pending : List Text} {target : Text}
    {members : List (Text × Member)} {trace : List Effect}
    (h : crossing context pending name enclosing target = ⟨trace, .ok members⟩) :
    ∃ notes required properties,
      context.components.get? target = some (.object notes required properties none) ∧
      target ∈ pending ∧ Gathered (lowerProperties context.override
        (crossing context (pending.erase target)) enclosing required properties) trace members := by
  rw [crossing] at h
  split at h
  · simp [Traced.fail] at h
  · rename_i notes required properties found
    split at h
    · rename_i waiting
      exact ⟨notes, required, properties, found, waiting, gather_eq_ok h⟩
    · simp [Traced.fail] at h
  · simp [refuse, Traced.fail] at h

theorem crossing_induction {context : Context} {P : Crossing → Prop}
    (step : ∀ pending, (∀ target ∈ pending, P (crossing context (pending.erase target))) →
      P (crossing context pending)) (pending : List Text) : P (crossing context pending) := by
  induction hn : pending.length using Nat.strongRecOn generalizing pending with
  | ind n ih =>
    apply step
    intro target waiting
    refine ih _ ?_ _ rfl
    rw [← hn, List.length_erase_of_mem waiting]
    have := List.length_pos_of_mem waiting
    omega

end Compile

end ApiModel

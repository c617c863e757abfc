import ApiModel.Proofs.UnionExpansion

/-! The schemas that can be lowered. They are told by their shape alone: neither the name under
which a schema is lowered, nor an override, nor what is registered already makes a difference. -/
namespace ApiModel.Compile

open Relation (ReflTransGen)

def namedProperties? (components : OrderedMap Schema) (target : Text) :
    Option (List (Text × Schema)) :=
  match components.get? target with
  | some (.object _ _ properties none) => some properties
  | _ => none

def branchProperties? (components : OrderedMap Schema) : Schema → Option (List (Text × Schema))
  | .object _ _ properties none => some properties
  | .reference target _ => namedProperties? components target
  | _ => none

/-- The shapes that can be lowered. A reference is never followed, except where it is a branch of a
union; the properties of an object count as far as they are not declared again. -/
inductive Supported (components : OrderedMap Schema) : Schema → Prop where
  | boolean {notes : Notes} : Supported components (.boolean notes)
  | integer {notes : Notes} {range : NumericRange} : Supported components (.integer notes range)
  | number {notes : Notes} {range : NumericRange} : Supported components (.number notes range)
  | string {notes : Notes} {facets : TextFacets} : Supported components (.string notes facets)
  | reference {target : SchemaName} {description : Option Text} :
      Supported components (.reference target description)
  | map {notes : Notes} {required : List Text} {properties : List (Text × Schema)} {values : Schema}
      (simple : (∃ notes facets, values = .string notes facets) ∨ values.isReference = true) :
      Supported components (.object notes required properties (some values))
  | object {notes : Notes} {required : List Text} {properties : List (Text × Schema)}
      (parts : ∀ key schema, (OrderedMap.ofList properties).get? key = some schema →
        Supported components schema) :
      Supported components (.object notes required properties none)
  | array {notes : Notes} {length : LengthRange} {items : Schema}
      (elements : Supported components items) :
      Supported components (.array notes length (some items))
  | union {kind : UnionKind} {description : Option Text} {branches : List Schema}
      (plain : ∀ branch ∈ branches, (branchProperties? components branch).isSome = true)
      (parts : ∀ branch ∈ branches, ∀ properties,
        branchProperties? components branch = some properties →
        ∀ key schema, (OrderedMap.ofList properties).get? key = some schema →
          Supported components schema) :
      Supported components (.union kind description branches)

/-- A name that may be a branch of a union. -/
def Unitable (components : OrderedMap Schema) (target : Text) : Prop :=
  ∃ properties, namedProperties? components target = some properties ∧
    ∀ key schema, (OrderedMap.ofList properties).get? key = some schema →
      Supported components schema

variable {context : Context} {components : OrderedMap Schema} {override : ModelOverride}
  {cross : Crossing} {name enclosing : Text}

theorem namedProperties?_eq_some_iff {target : Text} {properties : List (Text × Schema)} :
    namedProperties? components target = some properties ↔
      ∃ notes required, components.get? target = some (.object notes required properties none) := by
  unfold namedProperties?
  split
  · rename_i notes required own found
    simp [found]
  · rename_i other
    constructor
    · intro h
      cases h
    · rintro ⟨notes, required, found⟩
      exact absurd found (other notes required properties)

/-! What was lowered is supported. -/

theorem supported_of_gathered {required : List Text} {properties : List (Text × Schema)}
    {members : List (Text × Member)} {trace : List Effect}
    (gathered :
      Gathered (lowerProperties override cross enclosing required properties) trace members)
    (each : ∀ entry ∈ properties, ∀ name type sub,
      lowerSchema override cross name entry.2 = ⟨sub, .ok type⟩ → Supported components entry.2)
    (key : Text) (schema : Schema)
    (declared : (OrderedMap.ofList properties).get? key = some schema) :
    Supported components schema := by
  have listed := OrderedMap.mem_of_get?_ofList declared
  have named := (keys_of_gathered gathered).2 (List.mem_map_of_mem listed)
  obtain ⟨⟨_, member⟩, there, rfl⟩ := List.mem_map.1 named
  obtain ⟨other, declared', typed, -⟩ := member_of_gathered gathered there
  obtain rfl : other = schema := Option.some.inj (declared'.symm.trans declared)
  generalize member.valueType = type at typed
  cases typed with
  | named => exact .reference
  | lowered inline run traced => exact each _ listed _ _ _ run

theorem branches_of_lowered {n : Nat} {branches : List Schema} {trace : List Effect}
    {members : List (Text × Member)}
    (lowered : LoweredBranches override cross name n branches trace members)
    (crossed : ∀ union enclosing target early first,
      cross union enclosing target = ⟨early, .ok first⟩ → Unitable components target)
    (each : ∀ notes required properties, .object notes required properties none ∈ branches →
      ∀ entry ∈ properties, ∀ name type sub,
        lowerSchema override cross name entry.2 = ⟨sub, .ok type⟩ → Supported components entry.2) :
    ∀ branch ∈ branches, ∃ properties, branchProperties? components branch = some properties ∧
      ∀ key schema, (OrderedMap.ofList properties).get? key = some schema →
        Supported components schema := by
  induction lowered with
  | nil => simp
  | named crossing others ih =>
    refine List.forall_mem_cons.2 ⟨crossed _ _ _ _ _ crossing, ih ?_⟩
    exact fun notes required properties listed =>
      each notes required properties (List.mem_cons_of_mem _ listed)
  | inline gathered others ih =>
    refine List.forall_mem_cons.2 ⟨⟨_, rfl, ?_⟩, ih ?_⟩
    · exact supported_of_gathered gathered (each _ _ _ List.mem_cons_self)
    · exact fun notes required properties listed =>
        each notes required properties (List.mem_cons_of_mem _ listed)

theorem supported_of_lowerSchema
    (crossed : ∀ union enclosing target early first,
      cross union enclosing target = ⟨early, .ok first⟩ → Unitable components target)
    (schema : Schema) : ∀ name type trace,
      lowerSchema override cross name schema = ⟨trace, .ok type⟩ → Supported components schema := by
  induction schema using Schema.sizeInduction with
  | step schema ih =>
    intro name type trace run
    cases lowered_of_eq_ok run with
    | primitive found =>
      cases schema with
      | boolean notes => exact .boolean
      | integer notes range => exact .integer
      | number notes range => exact .number
      | string notes facets => exact .string
      | _ => cases found
    | @map _ _ _ values _ _ found =>
      refine .map ?_
      cases values with
      | string notes facets => exact .inl ⟨notes, facets, rfl⟩
      | reference target note => exact .inr rfl
      | _ => cases found
    | object gathered =>
      exact .object (supported_of_gathered gathered fun entry listed =>
        ih entry.2 (Schema.sizeOf_property listed))
    | listOfNamed => exact .array .reference
    | list inline lowered => exact .array (ih _ Schema.sizeOf_items _ _ _ lowered)
    | union lowered =>
      have each :=
        branches_of_lowered lowered crossed fun notes required properties branch entry listed =>
        ih entry.2 (Schema.sizeOf_branchProperty branch listed)
      refine .union ?_ ?_
      · intro branch listed
        obtain ⟨properties, found, -⟩ := each branch listed
        rw [found]
        rfl
      · intro branch listed properties found
        obtain ⟨own, same, parts⟩ := each branch listed
        obtain rfl : own = properties := Option.some.inj (same.symm.trans found)
        exact parts
    | reference => exact .reference

theorem unitable_of_cross {pending : List Text} : ∀ union enclosing target early first,
    crossing context pending union enclosing target = ⟨early, .ok first⟩ →
      Unitable context.components target := by
  refine crossing_induction (P := fun cross => ∀ union enclosing target early first,
    cross union enclosing target = ⟨early, .ok first⟩ →
      Unitable context.components target) ?_ pending
  intro pending ih union enclosing target early first run
  obtain ⟨notes, required, properties, found, waiting, gathered⟩ := crossing_eq_ok run
  refine ⟨properties, namedProperties?_eq_some_iff.2 ⟨notes, required, found⟩, ?_⟩
  exact supported_of_gathered gathered fun entry _ =>
    supported_of_lowerSchema (ih target waiting) entry.2

/-! What is supported is lowered. -/

theorem ne_error_of_supported
    (crossed : ∀ target, Unitable components target → ∀ union enclosing e,
      (cross union enclosing target).result ≠ .error e)
    (schema : Schema) : Supported components schema → ∀ name e,
      (lowerSchema override cross name schema).result ≠ .error e := by
  induction schema using Schema.sizeInduction with
  | step schema ih =>
    intro supported name e failed
    cases refused_of_error failed with
    | mapValue unknown =>
      cases supported with
      | map simple =>
        rcases simple with ⟨notes, facets, rfl⟩ | named
        · cases unknown
        · rename_i values
          cases values <;> simp_all [Schema.isReference, mapValueType?]
    | noItems => cases supported
    | negation => cases supported
    | fragment => cases supported
    | branch listed inline other =>
      cases supported with
      | union plain parts =>
        have some := plain _ listed
        rename_i branch
        cases branch with
        | object notes required properties additional =>
          cases additional with
          | none => cases other
          | some values => cases some
        | reference target note => cases inline
        | _ => cases some
    | element failed =>
      cases supported with
      | array elements => exact ih _ Schema.sizeOf_items elements _ e failed
    | property declared failed =>
      cases supported with
      | object parts =>
        have listed := OrderedMap.mem_of_get?_ofList declared
        exact ih _ (Schema.sizeOf_property listed) (parts _ _ declared) _ e failed
    | inlineBranch listed declared failed =>
      cases supported with
      | union plain parts =>
        have member := OrderedMap.mem_of_get?_ofList declared
        exact ih _ (Schema.sizeOf_branchProperty listed member)
          (parts _ listed _ rfl _ _ declared) _ e
          failed
    | namedBranch listed failed =>
      cases supported with
      | union plain parts =>
        obtain ⟨properties, found⟩ := Option.isSome_iff_exists.1 (plain _ listed)
        exact crossed _ ⟨properties, found, parts _ listed _ found⟩ _ _ e failed

theorem error_of_crossOnce {next : Crossing} {union target : Text} {e : BuildError}
    (failed : (crossOnce context next union enclosing target).result = .error e) :
    (context.components.get? target = none ∧ e = .unknownType target (some union)) ∨
      (namedProperties? context.components target = none ∧
        ∃ construct, e = .unsupported construct union) ∨
      ∃ properties key schema, namedProperties? context.components target = some properties ∧
        (OrderedMap.ofList properties).get? key = some schema ∧
        (lowerSchema context.override next (Naming.partName enclosing key) schema).result =
          .error e := by
  unfold crossOnce at failed
  unfold namedProperties?
  split at failed
  · rename_i missing
    cases failed
    exact .inl ⟨missing, rfl⟩
  · rename_i notes required properties found
    obtain ⟨key, schema, declared, failed⟩ := error_of_properties failed
    exact .inr (.inr ⟨properties, key, schema, by rw [found], declared, failed⟩)
  · rename_i schema other found
    cases failed
    refine .inr (.inl ⟨?_, _, rfl⟩)
    rw [found]
    cases schema with
    | object notes required properties additional =>
      cases additional with
      | none => exact absurd rfl (other notes required properties)
      | some values => rfl
    | _ => rfl

def openWay : Crossing := fun _ _ _ => pure []

-- Behind the last name that is unrolled all ways are open, so only the shapes before it count.
theorem unrolled_ne_error_of_unitable (n : Nat) :
    ∀ target, Unitable context.components target → ∀ union enclosing e,
      (unrolled context openWay n union enclosing target).result ≠ .error e := by
  induction n with
  | zero =>
    intro target _ union enclosing e failed
    cases failed
  | succ n ih =>
    rintro target ⟨properties, found, parts⟩ union enclosing e failed
    obtain ⟨notes, required, known⟩ := namedProperties?_eq_some_iff.1 found
    rcases error_of_crossOnce failed with ⟨missing, -⟩ | ⟨other, -⟩ |
      ⟨own, key, schema, same, declared, failed⟩
    · rw [missing] at known
      cases known
    · rw [other] at found
      cases found
    · obtain rfl : own = properties := Option.some.inj (same.symm.trans found)
      exact ne_error_of_supported ih schema (parts key schema declared) _ e failed

/-! Errors. -/

/-- A missing name that stands as a branch of a union, reached from the given names through the
unions of named schemas. -/
def Lacks (components : OrderedMap Schema) (names : Text → Prop) (target : Text) : Prop :=
  components.get? target = none ∧ ∃ first, names first ∧
    ReflTransGen (Expands components) first target

/-- The errors of a schema whose unions name the given schemas. -/
def Explains (components : OrderedMap Schema) (names : Text → Prop) (e : BuildError) : Prop :=
  (∃ construct location, e = .unsupported construct location) ∨
    ∃ target union, e = .unknownType target (some union) ∧ Lacks components names target

theorem Explains.mono {names more : Text → Prop} {e : BuildError} (h : Explains components names e)
    (wider : ∀ target, names target → more target) : Explains components more e := by
  rcases h with unsupported | ⟨target, union, rfl, missing, first, named, path⟩
  · exact .inl unsupported
  · exact .inr ⟨target, union, rfl, missing, first, wider first named, path⟩

theorem explains_lowerSchema
    (crossed : ∀ target union enclosing e, (cross union enclosing target).result = .error e →
      Explains components (· = target) e)
    (schema : Schema) : ∀ name e, (lowerSchema override cross name schema).result = .error e →
      Explains components schema.Unites e := by
  induction schema using Schema.sizeInduction with
  | step schema ih =>
    intro name e failed
    cases refused_of_error failed with
    | mapValue unknown => exact .inl ⟨_, _, rfl⟩
    | noItems => exact .inl ⟨_, _, rfl⟩
    | negation => exact .inl ⟨_, _, rfl⟩
    | fragment => exact .inl ⟨_, _, rfl⟩
    | branch listed inline other => exact .inl ⟨_, _, rfl⟩
    | element failed => exact (ih _ Schema.sizeOf_items _ e failed).mono fun _ => .items
    | property declared failed =>
      have listed := OrderedMap.mem_of_get?_ofList declared
      exact (ih _ (Schema.sizeOf_property listed) _ e failed).mono fun _ => .property listed
    | inlineBranch branch declared failed =>
      have listed := OrderedMap.mem_of_get?_ofList declared
      refine (ih _ (Schema.sizeOf_branchProperty branch listed) _ e failed).mono fun _ inner => ?_
      exact .branch branch (.property listed inner)
    | namedBranch listed failed =>
      refine (crossed _ _ _ e failed).mono ?_
      rintro _ rfl
      exact .named listed

theorem explains_unrolled (n : Nat) : ∀ target union enclosing e,
    (unrolled context openWay n union enclosing target).result = .error e →
      Explains context.components (· = target) e := by
  induction n with
  | zero =>
    intro target union enclosing e failed
    cases failed
  | succ n ih =>
    intro target union enclosing e failed
    rcases error_of_crossOnce failed with ⟨missing, rfl⟩ | ⟨-, construct, rfl⟩ |
      ⟨properties, key, schema, found, declared, failed⟩
    · exact .inr ⟨target, union, rfl, missing, target, rfl, .refl⟩
    · exact .inl ⟨construct, union, rfl⟩
    · obtain ⟨notes, required, known⟩ := namedProperties?_eq_some_iff.1 found
      have listed := OrderedMap.mem_of_get?_ofList declared
      rcases explains_lowerSchema ih schema _ e failed with
        unsupported | ⟨missing, union, rfl, unknown, first, named, path⟩
      · exact .inl unsupported
      · have step : Expands context.components target first := ⟨_, known, .property listed named⟩
        exact .inr ⟨missing, union, rfl, unknown, target, rfl, .head step path⟩

end ApiModel.Compile

namespace ApiModel

open Compile

/-- If no name expands to itself, a schema is lowered exactly if it is supported, under any name,
with any override and into any model. All other schemas are refused as unsupported, or because a
branch of a union names a schema that is not there. -/
theorem lower_isOk_iff_supported {components : OrderedMap Schema} (acyclic : Acyclic components)
    (schema : Schema) (override : ModelOverride) (name : Text) (p : Progress) :
    let outcome := ((perform (lower ⟨override, components⟩ name schema)).run.run p).1
    ((∃ type, outcome = .ok type) ↔ Supported components schema) ∧
      ∀ e, outcome = .error e →
        (∃ construct location, e = .unsupported construct location) ∨
          ∃ target union, e = .unknownType target (some union) ∧
            Lacks components schema.Unites target := by
  intro outcome
  have same : outcome = (lower ⟨override, components⟩ name schema).result :=
    congrArg Prod.fst (perform_run _ p)
  have unrolls : lower ⟨override, components⟩ name schema = lowerSchema override
      (unrolled ⟨override, components⟩ openWay (components.size + 1)) name schema := by
    rw [lower, cross_eq_unrolled acyclic openWay (Nat.lt_succ_self _)]
  rw [same]
  refine ⟨⟨?_, ?_⟩, ?_⟩
  · rintro ⟨type, done⟩
    exact supported_of_lowerSchema unitable_of_cross schema _ _ _ (result_of_eq done)
  · intro supported
    rw [unrolls]
    cases done : (lowerSchema override _ name schema).result with
    | ok type => exact ⟨type, rfl⟩
    | error e =>
      exact absurd done
        (ne_error_of_supported (unrolled_ne_error_of_unitable _) schema supported name e)
  · intro e failed
    rw [unrolls] at failed
    exact explains_lowerSchema (explains_unrolled _) schema name e failed

def replies : Schema :=
  .array default default (some (.union .oneOf none [.reference ⟨"Reply", by decide⟩ none]))

theorem lower_isOk_iff_supported_thread :
    Acyclic thread ∧
      Supported thread
        (.union .anyOf none [.reference ⟨"Comment", by decide⟩ none, .object default []
        [("tags", .array default default (some (.string default default)))] none]) ∧
      ¬ Supported thread replies ∧ Lacks thread replies.Unites "Reply" := by
  have told := lower_isOk_iff_supported acyclic_thread
  have failed : ((perform (lower ⟨default, thread⟩ "Replies" replies)).run.run ⟨.empty, []⟩).1 =
      .error (.unknownType "Reply" (some "Replie")) := by
    decide +kernel
  obtain ⟨accepted, refused⟩ := told replies default "Replies" ⟨.empty, []⟩
  refine ⟨acyclic_thread, ?_, ?_, ?_⟩
  · refine (told _ default "Note" ⟨.empty, []⟩).1.1 ⟨"Note", ?_⟩
    decide +kernel
  · intro supported
    obtain ⟨type, done⟩ := accepted.2 supported
    rw [failed] at done
    cases done
  · rcases refused _ failed with ⟨construct, location, same⟩ | ⟨target, union, same, lacks⟩
    · cases same
    · cases same
      exact lacks

end ApiModel

import ApiModel.Proofs.Lowering
import ApiModel.Proofs.Registry

/-! The types of a registry as pictures of schemas. A type represents a schema if it says the same,
part by part. Lowering returns a type that represents its schema, unless one part of the schema
takes the name of another. -/
namespace ApiModel

open Compile

structure Declaration where
  schema : Schema
  required : Bool

def declarations (required : List Text) (properties : List (Text × Schema)) :
    List (Text × Declaration) :=
  properties.map fun e => (e.1, ⟨e.2, required.contains e.1⟩)

/-- The properties that a branch of a union declares; a reference is read through the named
schemas. -/
def branchDeclarations (components : OrderedMap Schema) : Schema → List (Text × Declaration)
  | .object _ required properties none => declarations required properties
  | .reference name _ =>
    match components.get? name with
    | some (.object _ required properties none) => declarations required properties
    | _ => []
  | _ => []

/-- The properties that a union declares: of several declarations with one key the last counts. -/
def unionDeclarations (components : OrderedMap Schema) (branches : List Schema) :
    List (Text × Declaration) :=
  branches.flatMap (branchDeclarations components)

/-- A structure has a member for every declared key and no other; marks, documentation and position
of each are those of its declaration. -/
structure Structure.Declares (s : Structure) (declared : OrderedMap Declaration) : Prop where
  keys : ∀ key, key ∈ s.members.keys ↔ key ∈ declared.keys
  required : ∀ key member declaration, s.members.get? key = some member →
    declared.get? key = some declaration → member.required = declaration.required
  documentation : ∀ key member declaration, s.members.get? key = some member →
    declared.get? key = some declaration → member.documentation = declaration.schema.description
  position : ∀ key member, s.members.get? key = some member →
    member.position = (rank s.members.keys key : Nat)

/-- A type of the registry that says what a schema says. A reference is represented by the name it
holds, whatever that name stands for. -/
inductive Represents (context : Context) (r : Registry) : Text → Schema → Prop where
  | primitive {type : Text} {schema : Schema} {field : Field}
      (made : primitiveField? context.override schema = some field)
      (found : r.fields.get? type = some field) : Represents context r type schema
  | map {type value : Text} {notes : Notes} {required : List Text}
      {properties : List (Text × Schema)} {values : Schema}
        (made : mapValueType? values = some value)
      (found : r.fields.get? type = some (.map "String" value .unbounded)) :
      Represents context r type (.object notes required properties (some values))
  | object {type : Text} {notes : Notes} {required : List Text}
      {properties : List (Text × Schema)} {s : Structure}
      (found : r.structures.get? type = some s)
      (declares : s.Declares (.ofList (declarations required properties)))
      (types : ∀ key member declaration, s.members.get? key = some member →
        (OrderedMap.ofList (declarations required properties)).get? key = some declaration →
        Represents context r member.valueType declaration.schema) :
      Represents context r type (.object notes required properties none)
  | list {type element : Text} {notes : Notes} {length : LengthRange} {items : Schema}
      (found : r.fields.get? type = some (.list element length))
      (elements : Represents context r element items) :
      Represents context r type (.array notes length (some items))
  | union {type : Text} {kind : UnionKind} {description : Option Text} {branches : List Schema}
      {s : Structure} (found : r.structures.get? type = some s)
      (declares : s.Declares (.ofList (unionDeclarations context.components branches)))
      (types : ∀ key member declaration, s.members.get? key = some member →
        (OrderedMap.ofList (unionDeclarations context.components branches)).get? key =
          some declaration →
        Represents context r member.valueType declaration.schema) :
      Represents context r type (.union kind description branches)
  | reference {type : Text} {name : SchemaName} {description : Option Text} (named : type = name) :
      Represents context r type (.reference name description)

variable {context : Context} {r : Registry} {cross : Crossing}

/-- A member that says what a declaration says, its position aside. -/
structure Depicts (context : Context) (r : Registry) (d : Declaration) (m : Member) : Prop where
  required : m.required = d.required
  documentation : m.documentation = d.schema.description
  type : Represents context r m.valueType d.schema

/-- Members for all declarations and no others; where a key is repeated, the last ones
correspond. -/
def Depicted (context : Context) (r : Registry) (declared : List (Text × Declaration))
    (members : List (Text × Member)) : Prop :=
  ∀ key, Option.Rel (Depicts context r) ((OrderedMap.ofList declared).get? key)
    ((OrderedMap.ofList members).get? key)

theorem Depicted.append {declared declared' : List (Text × Declaration)}
    {members members' : List (Text × Member)} (h : Depicted context r declared members)
    (h' : Depicted context r declared' members') :
    Depicted context r (declared ++ declared') (members ++ members') := by
  intro key
  have first := h key
  have second := h' key
  simp only [OrderedMap.get?_ofList, List.reverse_append, List.lookup_append] at *
  generalize declared'.reverse.lookup key = known at *
  generalize members'.reverse.lookup key = found at *
  cases second with
  | some related => exact .some related
  | none => exact first

theorem Depicted.of_mem {declared : List (Text × Declaration)} {members : List (Text × Member)}
    (h : Depicted context r declared members) {key : Text} {member : Member}
    {declaration : Declaration} (found : (OrderedMap.ofList members).get? key = some member)
    (known : (OrderedMap.ofList declared).get? key = some declaration) :
    Depicts context r declaration member := by
  have related := h key
  rw [found, known] at related
  cases related with
  | some related => exact related

theorem Depicted.keys {declared : List (Text × Declaration)} {members : List (Text × Member)}
    (h : Depicted context r declared members) (key : Text) :
    key ∈ (OrderedMap.ofList members).keys ↔ key ∈ (OrderedMap.ofList declared).keys := by
  rw [OrderedMap.mem_keys_iff, OrderedMap.mem_keys_iff]
  have related := h key
  generalize (OrderedMap.ofList declared).get? key = known at *
  generalize (OrderedMap.ofList members).get? key = found at *
  cases related with
  | some related => simp
  | none => simp

/-! From runs of lowering to representations. The registry is any one that holds what the run wrote,
so it does not matter in which order that happened. -/

/-- What has to be known of the way into named schemas. -/
def CrossDepicts (context : Context) (r : Registry) (cross : Crossing) : Prop :=
  ∀ union enclosing target trace members, cross union enclosing target = ⟨trace, .ok members⟩ →
    (∀ e ∈ trace, r.Holds e) → ∃ notes required properties,
      context.components.get? target = some (.object notes required properties none) ∧
        Depicted context r (declarations required properties) members

/-- What lowering promises of one schema, for any name and any run. -/
def LowersTo (context : Context) (r : Registry) (cross : Crossing) (schema : Schema) : Prop :=
  ∀ name type trace, schema.isReference = false →
    lowerSchema context.override cross name schema = ⟨trace, .ok type⟩ →
    (∀ e ∈ trace, r.Holds e) → Represents context r type schema

theorem represents_of_typed {trace : List Effect} {name type : Text} {schema : Schema}
    (ih : LowersTo context r cross schema)
    (typed : Typed context.override cross trace name schema type)
    (holds : ∀ e ∈ trace, r.Holds e) : Represents context r type schema := by
  cases typed with
  | named => exact .reference rfl
  | lowered inline run traced =>
    exact ih _ _ _ inline run fun e effect => holds e (traced effect)

theorem depicted_of_gathered {enclosing : Text} {required : List Text}
    {properties : List (Text × Schema)} {trace : List Effect} {members : List (Text × Member)}
    (ih : ∀ entry ∈ properties, LowersTo context r cross entry.2)
    (gathered : Gathered (lowerProperties context.override cross enclosing required properties)
      trace members)
    (holds : ∀ e ∈ trace, r.Holds e) :
    Depicted context r (declarations required properties) members := by
  have distinct := Text.nodup_of_pairwise_lt gathered.ascending
  intro key
  unfold declarations
  rw [OrderedMap.get?_ofList_map fun key schema => (⟨schema, required.contains key⟩ : Declaration)]
  cases found : (OrderedMap.ofList members).get? key with
  | none =>
    have absent : key ∉ properties.map Prod.fst := by
      rwa [OrderedMap.get?_eq_none_iff, OrderedMap.mem_keys_ofList, keys_of_gathered gathered]
        at found
    rw [OrderedMap.get?_eq_none_iff.2 (mt OrderedMap.mem_keys_ofList.1 absent)]
    exact .none
  | some member =>
    rw [OrderedMap.get?_eq_some_iff, OrderedMap.entries_ofList distinct] at found
    obtain ⟨schema, declared, typed, marked, documented⟩ := member_of_gathered gathered found
    rw [declared]
    have part := ih _ (OrderedMap.mem_of_get?_ofList declared)
    exact .some ⟨marked, documented, represents_of_typed part typed holds⟩

theorem depicted_of_branches {name : Text} {n : Nat} {branches : List Schema}
    {trace : List Effect} {members : List (Text × Member)}
    (crossed : CrossDepicts context r cross)
    (ih : ∀ notes required properties, .object notes required properties none ∈ branches →
      ∀ entry ∈ properties, LowersTo context r cross entry.2)
    (lowered : LoweredBranches context.override cross name n branches trace members)
    (holds : ∀ e ∈ trace, r.Holds e) :
    Depicted context r (unionDeclarations context.components branches) members := by
  induction lowered with
  | nil =>
    intro key
    exact .none
  | named crossing others induction =>
    have rest := induction
      (fun notes required properties listed =>
        ih notes required properties (List.mem_cons_of_mem _ listed))
      (fun e effect => holds e (List.mem_append_right _ effect))
    obtain ⟨notes, required, properties, found, first⟩ :=
      crossed _ _ _ _ _ crossing fun e effect => holds e (List.mem_append_left _ effect)
    refine Depicted.append ?_ rest
    simpa [branchDeclarations, found] using first
  | inline gathered others induction =>
    have rest := induction
      (fun notes required properties listed =>
        ih notes required properties (List.mem_cons_of_mem _ listed))
      (fun e effect => holds e (List.mem_append_right _ effect))
    have first := depicted_of_gathered (ih _ _ _ List.mem_cons_self) gathered
      fun e effect => holds e (List.mem_append_left _ effect)
    exact first.append rest

theorem declares_of_gathered {declared : List (Text × Declaration)}
    {members : List (Text × Member)} {documentation : Option Text}
    (ranked : Members.Ranked (structureOf members documentation).members)
    (depicted : Depicted context r declared members) :
    (structureOf members documentation).Declares (.ofList declared) where
  keys := depicted.keys
  required _ _ _ found known := (depicted.of_mem found known).required
  documentation _ _ _ found known := (depicted.of_mem found known).documentation
  position _ _ found := ranked.position_eq_rank found

theorem declares_of_renumber {declared : List (Text × Declaration)}
    {members : List (Text × Member)} {documentation : Option Text}
    (depicted : Depicted context r declared members) :
    (⟨Members.renumber (.ofList members), documentation⟩ : Structure).Declares
      (.ofList declared) where
  keys key := by
    rw [Members.mem_keys_renumber]
    exact depicted.keys key
  required _ _ _ found known := by
    obtain ⟨original, listed, same⟩ := Members.get?_renumber found
    rw [same]
    exact (depicted.of_mem listed known).required
  documentation _ _ _ found known := by
    obtain ⟨original, listed, same⟩ := Members.get?_renumber found
    rw [same]
    exact (depicted.of_mem listed known).documentation
  position _ _ found := (Members.ranked_renumber _).position_eq_rank found

theorem lowersTo (crossed : CrossDepicts context r cross) (schema : Schema) :
    LowersTo context r cross schema := by
  induction schema using Schema.sizeInduction with
  | step schema ih =>
    intro name type trace inline run holds
    cases lowered_of_eq_ok run with
    | primitive found =>
      exact .primitive found (holds (.field _ _) List.mem_cons_self)
    | map found =>
      exact .map found (holds (.field _ _) List.mem_cons_self)
    | object gathered =>
      have depicted := depicted_of_gathered
        (fun entry listed => ih entry.2 (Schema.sizeOf_property listed)) gathered
        (fun e effect => holds e (List.mem_append_left _ effect))
      refine .object (holds (.structure _ _) (List.mem_append_right _ List.mem_cons_self))
        (declares_of_gathered (ranked_of_gathered gathered) depicted) ?_
      intro key member declaration found known
      exact (depicted.of_mem found known).type
    | listOfNamed =>
      exact .list (holds (.field _ _) List.mem_cons_self) (.reference rfl)
    | list inlineItems lowered =>
      refine .list (holds (.field _ _) (List.mem_append_right _ List.mem_cons_self)) ?_
      exact ih _ Schema.sizeOf_items _ _ _ inlineItems lowered
        fun e effect => holds e (List.mem_append_left _ effect)
    | union lowered =>
      have depicted := depicted_of_branches crossed
        (fun notes required properties branch entry listed =>
          ih entry.2 (Schema.sizeOf_branchProperty branch listed)) lowered
        (fun e effect => holds e (List.mem_append_left _ effect))
      refine .union (holds (.structure _ _) (List.mem_append_right _ List.mem_cons_self))
        (declares_of_renumber depicted) ?_
      intro key member declaration found known
      obtain ⟨original, listed, same⟩ := Members.get?_renumber found
      rw [same]
      exact (depicted.of_mem listed known).type
    | reference => simp [Schema.isReference] at inline

theorem crossDepicts (context : Context) (r : Registry) (pending : List Text) :
    CrossDepicts context r (crossing context pending) := by
  refine crossing_induction (P := CrossDepicts context r) ?_ pending
  intro pending ih union enclosing target trace members run holds
  obtain ⟨notes, required, properties, found, waiting, gathered⟩ := crossing_eq_ok run
  refine ⟨notes, required, properties, found, ?_⟩
  exact depicted_of_gathered (fun entry _ => lowersTo (ih target waiting) entry.2) gathered holds

/-- The type that a schema is lowered to represents it, whatever was registered before, unless two
parts of the schema write different entries under one name. -/
theorem represents_lower (r : Registry) {name type : Text} {schema : Schema}
    (inline : schema.isReference = false)
    (accepted : (lower context name schema).result = .ok type)
    (agree : Effect.Agree (lower context name schema).trace) :
    Represents context (r.applyAll (lower context name schema).trace) type schema := by
  apply lowersTo (crossDepicts context _ _) schema name type _ inline (result_of_eq accepted)
  intro e effect
  exact Registry.holds_applyAll agree effect

def shapes : Context :=
  ⟨default, .ofList [("Point", .object default ["x"] [("x", .integer default default)] none)]⟩

/-- Every way to be a part: by name, in a list, in an object of a list, as a branch of a union. -/
def drawing : Schema :=
  .object default ["corners"]
    [("lines", .array default default (some (.object default [] [("x", .boolean default)] none))),
      ("corners", .array default default (some (.reference ⟨"Point", by decide⟩ none))),
      ("mark", .union .oneOf none
        [.reference ⟨"Point", by decide⟩ none,
          .object default [] [("x", .string default default)] none])] none

theorem represents_lower_drawing :
    drawing.isReference = false ∧ (lower shapes "Drawing" drawing).result = .ok ("Drawing" : Text) ∧
      Effect.Agree (lower shapes "Drawing" drawing).trace ∧
      Represents shapes (Registry.empty.applyAll (lower shapes "Drawing" drawing).trace) "Drawing"
        drawing := by
  have accepted : (lower shapes "Drawing" drawing).result = .ok ("Drawing" : Text) := by
    decide +kernel
  have agree : Effect.Agree (lower shapes "Drawing" drawing).trace := by
    apply Effect.agree_of_nodup
    · decide +kernel
    · decide +kernel
  exact ⟨rfl, accepted, agree, represents_lower .empty rfl accepted agree⟩

def order : Schema :=
  .object default []
    [("user", .object default [] [("id", .string default default)] none),
      ("userId", .integer default default)] none

/-- The later of two writes counts, so the `id` is taken for an integer. -/
theorem not_represents_order :
    (lower ⟨default, .empty⟩ "Order" order).result = .ok ("Order" : Text) ∧
      ¬ Represents ⟨default, .empty⟩
        (Registry.empty.applyAll (lower ⟨default, .empty⟩ "Order" order).trace) "Order" order := by
  refine ⟨rfl, ?_⟩
  intro whole
  cases whole with
  | primitive made => cases made
  | object found _ types =>
    cases found
    have user := types "user" _ _ rfl rfl
    cases user with
    | primitive made => cases made
    | object found _ types =>
      cases found
      have id := types "id" _ _ rfl rfl
      cases id with
      | primitive made found =>
        cases made
        cases found

end ApiModel

import ApiModel.Proofs.Lowering
import ApiModel.Proofs.NameRoots
import ApiModel.Proofs.Registry

/-! The types that lowered entries refer to. A name that lowering made up is always written by the
same run; only a reference of the schema itself may lead elsewhere. -/
namespace ApiModel

/-- The references that stand anywhere in a schema. -/
inductive Schema.Refers : Schema → Text → Prop where
  | itself {name : SchemaName} {description : Option Text} :
      Refers (.reference name description) name
  | items {notes : Notes} {length : LengthRange} {items : Schema} {target : Text}
      (inner : Refers items target) : Refers (.array notes length (some items)) target
  | property {notes : Notes} {required : List Text} {properties : List (Text × Schema)}
      {additional : Option Schema} {entry : Text × Schema} {target : Text}
      (listed : entry ∈ properties) (inner : Refers entry.2 target) :
      Refers (.object notes required properties additional) target
  | values {notes : Notes} {required : List Text} {properties : List (Text × Schema)}
      {values : Schema} {target : Text} (inner : Refers values target) :
      Refers (.object notes required properties (some values)) target
  | branch {kind : UnionKind} {description : Option Text} {branches : List Schema}
      {branch : Schema} {target : Text} (listed : branch ∈ branches)
      (inner : Refers branch target) : Refers (.union kind description branches) target

/-- A schema whose references are all among the given ones. -/
def Schema.Within (refs : Text → Prop) (schema : Schema) : Prop :=
  ∀ target, schema.Refers target → refs target

/-- A type that may be referred to: by a reference of the document, because every model has it, or
because it is defined. -/
def Known (refs defined : Text → Prop) (type : Text) : Prop :=
  refs type ∨ isBuiltin type = true ∨ defined type

theorem Known.mono {refs defined more : Text → Prop} {type : Text} (h : Known refs defined type)
    (grown : ∀ name, defined name → more name) : Known refs more type :=
  h.imp_right (Or.imp_right (grown type))

namespace Compile

variable {refs : Text → Prop} {context : Context} {override : ModelOverride} {cross : Crossing}
  {name : Text} {trace : List Effect} {members : List (Text × Member)}

/-- Effects that refer to known types only. -/
def Closed (refs : Text → Prop) (trace : List Effect) : Prop :=
  ∀ e ∈ trace, ∀ type ∈ e.mentions, Known refs (Effect.Named trace) type

/-- Members whose types are known behind the effects. -/
def Tied (refs : Text → Prop) (trace : List Effect) (members : List (Text × Member)) : Prop :=
  ∀ key member, (key, member) ∈ members → Known refs (Effect.Named trace) member.valueType

theorem closed_nil : Closed refs [] := by
  intro e effect
  cases effect

theorem Closed.of_parts
    (h : ∀ e ∈ trace, ∃ sub, sub ⊆ trace ∧ e ∈ sub ∧ Closed refs sub) : Closed refs trace := by
  intro e effect type mentioned
  obtain ⟨sub, contained, part, closed⟩ := h e effect
  exact (closed e part type mentioned).mono fun _ named => named.mono contained

theorem Closed.append {more : List Effect} (h : Closed refs trace) (h' : Closed refs more) :
    Closed refs (trace ++ more) := by
  apply Closed.of_parts
  intro e effect
  rcases List.mem_append.1 effect with effect | effect
  · exact ⟨trace, List.subset_append_left .., effect, h⟩
  · exact ⟨more, List.subset_append_right .., effect, h'⟩

theorem Tied.append {more : List Effect} {others : List (Text × Member)}
    (h : Tied refs trace members) (h' : Tied refs more others) :
    Tied refs (trace ++ more) (members ++ others) := by
  intro key member listed
  rcases List.mem_append.1 listed with listed | listed
  · exact (h key member listed).mono fun _ named => named.mono (List.subset_append_left ..)
  · exact (h' key member listed).mono fun _ named => named.mono (List.subset_append_right ..)

theorem Closed.concat {e : Effect} (h : Closed refs trace)
    (known : ∀ type ∈ e.mentions, Known refs (Effect.Named trace) type) :
    Closed refs (trace ++ [e]) := by
  intro e' effect type mentioned
  have grown : ∀ name, Effect.Named trace name → Effect.Named (trace ++ [e]) name :=
    fun _ named => named.mono (List.subset_append_left ..)
  rcases List.mem_append.1 effect with effect | effect
  · exact (h e' effect type mentioned).mono grown
  · obtain rfl := List.mem_singleton.1 effect
    exact (known type mentioned).mono grown

theorem Closed.entry {e : Effect} {notice : Notice} (h : Closed refs trace)
    (known : ∀ type ∈ e.mentions, Known refs (Effect.Named trace) type) :
    Closed refs (trace ++ [e, .notice notice]) := by
  rw [List.append_cons]
  apply (h.concat known).concat
  intro type mentioned
  cases mentioned

theorem forall_mentions {P : Text → Prop} {s : Structure}
    (h : ∀ key member, (key, member) ∈ members → P member.valueType)
    (taken : ∀ key member, s.members.get? key = some member →
      ∃ original, (key, original) ∈ members ∧ member.valueType = original.valueType) :
    ∀ type ∈ (Effect.structure name s).mentions, P type := by
  intro type mentioned
  obtain ⟨member, value, rfl⟩ := List.mem_map.1 mentioned
  obtain ⟨⟨key, _⟩, listed, rfl⟩ := List.mem_map.1 value
  obtain ⟨original, made, same⟩ := taken key _ (OrderedMap.get?_eq_some_iff.2 listed)
  rw [same]
  exact h key original made

theorem taken_structureOf {documentation : Option Text} {key : Text} {member : Member}
    (found : (structureOf members documentation).members.get? key = some member) :
    ∃ original, (key, original) ∈ members ∧ member.valueType = original.valueType :=
  ⟨member, OrderedMap.mem_of_get?_ofList found, rfl⟩

theorem taken_renumber {key : Text} {member : Member}
    (found : (Members.renumber (.ofList members)).get? key = some member) :
    ∃ original, (key, original) ∈ members ∧ member.valueType = original.valueType := by
  obtain ⟨original, listed, same⟩ := Members.get?_renumber found
  exact ⟨original, OrderedMap.mem_of_get?_ofList listed, by rw [same]⟩

/-! What lowering promises of one schema, and what has to be known of the way into named schemas. -/

def Closing (refs : Text → Prop) (override : ModelOverride) (cross : Crossing) (schema : Schema) :
    Prop :=
  ∀ name type trace, lowerSchema override cross name schema = ⟨trace, .ok type⟩ →
    Closed refs trace ∧
      (schema.isReference = false → Effect.Named trace name ∧ Effect.Named trace type)

def CrossCloses (refs : Text → Prop) (cross : Crossing) : Prop :=
  ∀ union enclosing target trace members, cross union enclosing target = ⟨trace, .ok members⟩ →
    Closed refs trace ∧ Tied refs trace members

theorem closed_of_gathered {enclosing : Text} {required : List Text}
    {properties : List (Text × Schema)}
    (ih : ∀ entry ∈ properties, Closing refs override cross entry.2)
    (within : ∀ entry ∈ properties, entry.2.Within refs)
    (gathered : Gathered (lowerProperties override cross enclosing required properties)
      trace members) : Closed refs trace ∧ Tied refs trace members := by
  constructor
  · apply Closed.of_parts
    intro e effect
    obtain ⟨entry, listed, sub, type, run, contained, part⟩ := effect_of_gathered gathered effect
    exact ⟨sub, contained, part, (ih entry listed _ _ _ run).1⟩
  · intro key member listed
    obtain ⟨schema, declared, typed, -⟩ := member_of_gathered gathered listed
    have property := OrderedMap.mem_of_get?_ofList declared
    generalize member.valueType = type at typed
    cases typed with
    | named => exact .inl (within _ property _ .itself)
    | lowered inline run traced =>
      have written := ((ih _ property _ _ _ run).2 inline).2
      exact .inr (.inr (written.mono traced))

theorem closed_of_branches {n : Nat} {branches : List Schema} (crossed : CrossCloses refs cross)
    (ih : ∀ notes required properties, .object notes required properties none ∈ branches →
      ∀ entry ∈ properties, Closing refs override cross entry.2)
    (within : ∀ branch ∈ branches, branch.Within refs)
    (lowered : LoweredBranches override cross name n branches trace members) :
    Closed refs trace ∧ Tied refs trace members := by
  induction lowered with
  | nil => exact ⟨closed_nil, by simp [Tied]⟩
  | named crossing others induction =>
    have first := crossed _ _ _ _ _ crossing
    have rest := induction
      (fun notes required properties listed =>
        ih notes required properties (List.mem_cons_of_mem _ listed))
      (fun branch listed => within branch (List.mem_cons_of_mem _ listed))
    exact ⟨first.1.append rest.1, first.2.append rest.2⟩
  | inline gathered others induction =>
    have first := closed_of_gathered (ih _ _ _ List.mem_cons_self)
      (fun entry listed target inner =>
        within _ List.mem_cons_self target (.property listed inner)) gathered
    have rest := induction
      (fun notes required properties listed =>
        ih notes required properties (List.mem_cons_of_mem _ listed))
      (fun branch listed => within branch (List.mem_cons_of_mem _ listed))
    exact ⟨first.1.append rest.1, first.2.append rest.2⟩

theorem mapValueType?_known {values : Schema} {type : Text}
    (within : values.Within refs) (found : mapValueType? values = some type) :
    Known refs (Effect.Named trace) type := by
  unfold mapValueType? at found
  split at found
  · cases found
    exact .inr (.inl (by decide))
  · cases found
    exact .inl (within _ .itself)
  · cases found

theorem referred_primitiveField? {schema : Schema} {field : Field}
    (made : primitiveField? override schema = some field) : field.referred = [] := by
  unfold primitiveField? at made
  split at made
  · cases made
    rfl
  · cases made
    split <;> rfl
  · cases made
    rfl
  · cases made
    unfold stringField
    split
    split
    · rfl
    · split <;> rfl
  · cases made

theorem primitive_mentions {schema : Schema} {field : Field}
    (made : primitiveField? override schema = some field) :
    ∀ type ∈ (Effect.field name field).mentions, Known refs (Effect.Named trace) type := by
  intro type mentioned
  rw [Effect.mentions, referred_primitiveField? made] at mentioned
  cases mentioned

theorem closing (crossed : CrossCloses refs cross) (schema : Schema)
    (within : schema.Within refs) : Closing refs override cross schema := by
  induction schema using Schema.sizeInduction with
  | step schema ih =>
    intro name type trace run
    cases lowered_of_eq_ok run with
    | primitive made =>
      refine ⟨closed_nil.entry (primitive_mentions made), ?_⟩
      intro _
      exact ⟨Effect.named_of_eq rfl [] _, Effect.named_of_eq rfl [] _⟩
    | map found =>
      refine ⟨closed_nil.entry ?_, ?_⟩
      · intro value mentioned
        rcases List.mem_pair.1 mentioned with rfl | rfl
        · exact .inr (.inl (by decide))
        · exact mapValueType?_known (fun _ inner => within _ (.values inner)) found
      · intro _
        exact ⟨Effect.named_of_eq rfl [] _, Effect.named_of_eq rfl [] _⟩
    | object gathered =>
      have part := closed_of_gathered
        (fun entry listed => ih entry.2 (Schema.sizeOf_property listed)
          fun _ inner => within _ (.property listed inner))
        (fun entry listed _ inner => within _ (.property listed inner)) gathered
      refine ⟨part.1.entry (forall_mentions part.2 fun _ _ => taken_structureOf), ?_⟩
      intro _
      exact ⟨Effect.named_of_eq rfl _ _, Effect.named_of_eq rfl _ _⟩
    | listOfNamed =>
      refine ⟨closed_nil.entry ?_, ?_⟩
      · intro element mentioned
        rw [List.mem_singleton.1 mentioned]
        exact .inl (within _ (.items .itself))
      · intro _
        exact ⟨Effect.named_of_eq rfl [] _, Effect.named_of_eq rfl [] _⟩
    | list inline lowered =>
      obtain ⟨closed, written⟩ :=
        ih _ Schema.sizeOf_items (fun _ inner => within _ (.items inner)) _ _ _ lowered
      refine ⟨closed.entry ?_, ?_⟩
      · intro element mentioned
        rw [List.mem_singleton.1 mentioned]
        exact .inr (.inr (written inline).2)
      · intro _
        refine ⟨?_, Effect.named_of_eq rfl _ _⟩
        rcases Naming.eq_container_or_element name with same | same
        · refine Effect.named_of_eq ?_ _ _
          exact congrArg some same.symm
        · have below := (written inline).1
          rw [← same] at below
          exact below.mono (List.subset_append_left ..)
    | union lowered =>
      have part := closed_of_branches crossed
        (fun notes required properties branch entry listed =>
          ih entry.2 (Schema.sizeOf_branchProperty branch listed)
            fun _ inner => within _ (.branch branch (.property listed inner)))
        (fun branch listed _ inner => within _ (.branch listed inner)) lowered
      refine ⟨part.1.entry (forall_mentions part.2 fun _ _ => taken_renumber), ?_⟩
      intro _
      exact ⟨Effect.named_of_eq rfl _ _, Effect.named_of_eq rfl _ _⟩
    | reference => simp [Closed, Effect.mentions, Schema.isReference]

/-- Named schemas whose references are all among the given ones. -/
def Context.Within (refs : Text → Prop) (context : Context) : Prop :=
  ∀ name schema, context.components.get? name = some schema → schema.Within refs

theorem crossCloses (within : context.Within refs) (pending : List Text) :
    CrossCloses refs (crossing context pending) := by
  refine crossing_induction (P := CrossCloses refs) ?_ pending
  intro pending ih union enclosing target trace members run
  obtain ⟨notes, required, properties, found, waiting, gathered⟩ := crossing_eq_ok run
  have inside : ∀ entry ∈ properties, entry.2.Within refs :=
    fun _ listed _ inner => within _ _ found _ (.property listed inner)
  exact closed_of_gathered
    (fun entry listed => closing (ih target waiting) entry.2 (inside entry listed)) inside gathered

theorem closing_lower (within : context.Within refs) {schema : Schema} (own : schema.Within refs) :
    Closing refs context.override context.cross schema :=
  closing (crossCloses within _) schema own

end Compile

end ApiModel

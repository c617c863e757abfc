import ApiModel.Proofs.Lowering

/-! Where the effects of lowering come from, whether the run succeeds or not. A property of effects
that passes from the parts of a schema to the schema itself holds of all effects. -/
namespace ApiModel.Compile

/-- The origins of an effect: the schema's own entry and notices, one of its parts, or a named
schema behind a branch of a union. -/
inductive Arises (override : ModelOverride) (cross : Crossing) (name : Text) :
    Schema → Effect → Prop where
  | notice {schema : Schema} {n : Notice} : Arises override cross name schema (.notice n)
  | ownField {schema : Schema} {f : Field} : Arises override cross name schema (.field name f)
  | ownList {schema : Schema} {f : Field} :
      Arises override cross name schema (.field (Naming.listNames name).container f)
  | ownStructure {schema : Schema} {s : Structure} (ranked : Members.Ranked s.members) :
      Arises override cross name schema (.structure name s)
  | element {notes : Notes} {length : LengthRange} {items : Schema} {e : Effect}
      (arisen : e ∈ (lowerSchema override cross (Naming.listNames name).element items).trace) :
      Arises override cross name (.array notes length (some items)) e
  | property {notes : Notes} {required : List Text} {properties : List (Text × Schema)}
      {entry : Text × Schema} {e : Effect} (listed : entry ∈ properties)
      (arisen : e ∈ (lowerSchema override cross (Naming.partName name entry.1) entry.2).trace) :
      Arises override cross name (.object notes required properties none) e
  | inlineBranch {kind : UnionKind} {description : Option Text} {branches : List Schema}
      {notes : Notes} {required : List Text} {properties : List (Text × Schema)}
      {entry : Text × Schema} {n : Nat} {e : Effect}
      (branch : .object notes required properties none ∈ branches) (listed : entry ∈ properties)
      (arisen : e ∈ (lowerSchema override cross
        (Naming.partName (name ++ toString n) entry.1) entry.2).trace) :
      Arises override cross name (.union kind description branches) e
  | namedBranch {kind : UnionKind} {description : Option Text} {branches : List Schema}
      {target : Text} {n : Nat} {e : Effect}
      (arisen : e ∈ (cross name (name ++ toString n) target).trace) :
      Arises override cross name (.union kind description branches) e

section Origins

variable {override : ModelOverride} {cross : Crossing} {name enclosing : Text} {e : Effect}

/-- The effects behind a write: the write itself, or the notice that follows. -/
theorem mem_trace_write {write : Lowering Unit} {notice : Notice} {result : Text}
    (h : e ∈ (do write; note notice; return result : Lowering Text).trace) :
    e ∈ write.trace ∨ e = .notice notice := by
  rcases Traced.mem_trace_bind h with h | ⟨_, _, h⟩
  · exact .inl h
  rcases Traced.mem_trace_bind h with h | ⟨_, _, h⟩
  · exact .inr (List.mem_singleton.1 h)
  · simp at h

theorem mem_trace_lowerProperty {required : List Text} {key : Text} {schema : Schema}
    (h : e ∈ (lowerProperty override cross enclosing required key schema).trace) :
    e ∈ (lowerSchema override cross (Naming.partName enclosing key) schema).trace := by
  cases schema with
  | reference target description => simp [lowerProperty] at h
  | _ =>
    rcases Traced.mem_trace_bind h with h | ⟨_, _, h⟩
    · exact h
    · simp at h

theorem mem_trace_properties {required : List Text} {properties : List (Text × Schema)}
    (h : e ∈ (gather (lowerProperties override cross enclosing required properties)).trace) :
    ∃ entry ∈ properties,
      e ∈ (lowerSchema override cross (Naming.partName enclosing entry.1) entry.2).trace := by
  obtain ⟨part, listed, effect⟩ := mem_trace_gather h
  rw [lowerProperties_eq_map] at listed
  obtain ⟨entry, member, rfl⟩ := List.mem_map.1 listed
  exact ⟨entry, member, mem_trace_lowerProperty effect⟩

theorem mem_trace_branches {kind : UnionKind} {description : Option Text}
    {branches all : List Schema} {n : Nat} (contained : branches ⊆ all)
    (h : e ∈ (lowerBranches override cross name n branches).trace) :
    Arises override cross name (.union kind description all) e := by
  induction branches generalizing n with
  | nil => simp [lowerBranches] at h
  | cons branch rest ih =>
    rw [lowerBranches_cons] at h
    have member : branch ∈ all := contained List.mem_cons_self
    rcases Traced.mem_trace_bind h with h | ⟨_, _, h⟩
    · -- only objects and references get past their kind
      unfold lowerBranch at h
      split at h
      · exact .namedBranch h
      · obtain ⟨entry, listed, effect⟩ := mem_trace_properties h
        exact .inlineBranch member listed effect
      · simp [refuse, Traced.fail] at h
    rcases Traced.mem_trace_bind h with h | ⟨_, _, h⟩
    · exact ih (fun _ listed => contained (List.mem_cons_of_mem _ listed)) h
    · simp at h

theorem arises_primitive {schema : Schema} (primitive : schema.isPrimitive = true)
    (h : e ∈ (lowerSchema override cross name schema).trace) :
    Arises override cross name schema e := by
  rw [lowerSchema_primitive override cross name primitive] at h
  rcases Traced.mem_trace_bind h with h | ⟨_, _, h⟩
  · simp [Traced.ofExcept] at h
  rcases mem_trace_write h with h | rfl
  · obtain rfl := List.mem_singleton.1 h
    exact .ownField
  · exact .notice

theorem arises_of_mem_trace {schema : Schema}
    (h : e ∈ (lowerSchema override cross name schema).trace) :
    Arises override cross name schema e := by
  cases schema with
  | boolean notes => exact arises_primitive rfl h
  | integer notes range => exact arises_primitive rfl h
  | number notes range => exact arises_primitive rfl h
  | string notes facets => exact arises_primitive rfl h
  | object notes required properties additional =>
    cases additional with
    | none =>
      rw [lowerSchema] at h
      rcases Traced.mem_trace_bind h with h | ⟨members, done, h⟩
      · obtain ⟨entry, listed, effect⟩ := mem_trace_properties h
        exact .property listed effect
      rcases mem_trace_write h with h | rfl
      · obtain rfl := List.mem_singleton.1 h
        exact .ownStructure (ranked_of_gathered (gather_eq_ok (result_of_eq done)))
      · exact .notice
    | some values =>
      rw [lowerSchema] at h
      rcases mem_trace_write h with h | rfl
      · unfold lowerMap at h
        split at h
        · obtain rfl := List.mem_singleton.1 h
          exact .ownField
        · simp [refuse, Traced.fail] at h
      · exact .notice
  | array notes length items =>
    cases items with
    | none => simp [lowerSchema, refuse, Traced.fail] at h
    | some items =>
      by_cases inline : items.isReference = false
      · rw [lowerSchema_inlineArray override cross name notes length inline] at h
        rcases Traced.mem_trace_bind h with h | ⟨element, _, h⟩
        · exact .element h
        rcases mem_trace_write h with h | rfl
        · obtain rfl := List.mem_singleton.1 h
          exact .ownList
        · exact .notice
      · cases items <;> simp [Schema.isReference] at inline
        rw [lowerSchema] at h
        rcases mem_trace_write h with h | rfl
        · obtain rfl := List.mem_singleton.1 h
          exact .ownField
        · exact .notice
  | union kind description branches =>
    rw [lowerSchema] at h
    rcases Traced.mem_trace_bind h with h | ⟨members, _, h⟩
    · exact mem_trace_branches (List.Subset.refl _) h
    rcases mem_trace_write h with h | rfl
    · obtain rfl := List.mem_singleton.1 h
      exact .ownStructure (Members.ranked_renumber _)
    · exact .notice
  | reference target description =>
    rw [lowerSchema] at h
    rcases Traced.mem_trace_bind h with h | ⟨_, _, h⟩
    · obtain rfl := List.mem_singleton.1 h
      exact .notice
    · simp at h
  | negation description => simp [lowerSchema, refuse, Traced.fail] at h
  | fragment notes => simp [lowerSchema, refuse, Traced.fail] at h

end Origins

/-- A property of effects under a name that holds of the entries under that name and passes to it
from the names below. -/
structure Hereditary (Q : Text → Effect → Prop) : Prop where
  ofNotice : ∀ name n, Q name (.notice n)
  ofField : ∀ name f, Q name (.field name f)
  ofContainer : ∀ name f, Q name (.field (Naming.listNames name).container f)
  ofStructure : ∀ name (s : Structure), Members.Ranked s.members → Q name (.structure name s)
  ofElement : ∀ name e, Q (Naming.listNames name).element e → Q name e
  ofPart : ∀ name key e, Q (Naming.partName name key) e → Q name e
  ofBranch : ∀ name (n : Nat) e, Q (name ++ toString n) e → Q name e

namespace Hereditary

variable {Q : Text → Effect → Prop}

theorem lowerSchema (h : Hereditary Q) {override : ModelOverride} {cross : Crossing}
    (crossed : ∀ union enclosing target e, e ∈ (cross union enclosing target).trace → Q enclosing e)
    (schema : Schema) :
    ∀ name e, e ∈ (lowerSchema override cross name schema).trace → Q name e := by
  induction schema using Schema.sizeInduction with
  | step schema ih =>
    intro name e effect
    cases arises_of_mem_trace effect with
    | notice => exact h.ofNotice name _
    | ownField => exact h.ofField name _
    | ownList => exact h.ofContainer name _
    | ownStructure ranked => exact h.ofStructure name _ ranked
    | element arisen => exact h.ofElement name e (ih _ Schema.sizeOf_items _ e arisen)
    | property listed arisen =>
      exact h.ofPart name _ e (ih _ (Schema.sizeOf_property listed) _ e arisen)
    | inlineBranch branch listed arisen =>
      have below := ih _ (Schema.sizeOf_branchProperty branch listed) _ e arisen
      exact h.ofBranch name _ e (h.ofPart _ _ e below)
    | namedBranch arisen => exact h.ofBranch name _ e (crossed _ _ _ e arisen)

theorem crossing (h : Hereditary Q) (context : Context) (pending : List Text) :
    ∀ union enclosing target e, e ∈ (crossing context pending union enclosing target).trace →
      Q enclosing e := by
  refine crossing_induction (P := fun cross => ∀ union enclosing target e,
    e ∈ (cross union enclosing target).trace → Q enclosing e) ?_ pending
  intro pending ih union enclosing target e effect
  rw [Compile.crossing] at effect
  split at effect
  · simp [Traced.fail] at effect
  · split at effect
    · rename_i waiting
      obtain ⟨entry, -, arisen⟩ := mem_trace_properties effect
      have below := h.lowerSchema (ih target waiting) entry.2 _ e arisen
      exact h.ofPart enclosing _ e below
    · simp [Traced.fail] at effect
  · simp [refuse, Traced.fail] at effect

theorem lower (h : Hereditary Q) (context : Context) (name : Text) (schema : Schema) :
    ∀ e ∈ (lower context name schema).trace, Q name e :=
  h.lowerSchema (h.crossing context _) schema name

end Hereditary

end ApiModel.Compile

import ApiModel.Proofs.Lowering

/-! Why lowering stops. An error is about the kind of the schema itself, or it is the error of one
of its parts; it tells nothing about what was written before. -/
namespace ApiModel

namespace Traced

variable {τ ε α β : Type} {x : Traced τ ε α} {f : α → Traced τ ε β} {e : ε}

theorem error_of_bind (h : (x >>= f).result = .error e) :
    x.result = .error e ∨ ∃ a, x.result = .ok a ∧ (f a).result = .error e := by
  cases done : x.result with
  | ok a =>
    rw [bind_of_ok done] at h
    exact .inr ⟨a, rfl, h⟩
  | error e' =>
    rw [bind_of_error done] at h
    cases h
    exact .inl rfl

end Traced

def Schema.isPlainObject : Schema → Bool
  | .object _ _ _ none => true
  | _ => false

namespace Compile

variable {override : ModelOverride} {cross : Crossing} {name enclosing : Text} {e : BuildError}

theorem error_of_inOrder {parts : List (Text × Lowering Member)}
    (h : (inOrder parts).result = .error e) : ∃ part ∈ parts, part.2.result = .error e := by
  induction parts with
  | nil => cases h
  | cons part rest ih =>
    rcases Traced.error_of_bind h with failed | ⟨member, -, next⟩
    · exact ⟨part, List.mem_cons_self, failed⟩
    rcases Traced.error_of_bind next with failed | ⟨more, -, returned⟩
    · obtain ⟨other, listed, failed⟩ := ih failed
      exact ⟨other, List.mem_cons_of_mem _ listed, failed⟩
    · cases returned

theorem error_of_gather {parts : List (Text × Lowering Member)}
    (h : (gather parts).result = .error e) :
    ∃ key work, (OrderedMap.ofList parts).get? key = some work ∧ work.result = .error e := by
  rcases Traced.error_of_bind h with failed | ⟨members, -, returned⟩
  · obtain ⟨part, listed, failed⟩ := error_of_inOrder failed
    have known := OrderedMap.get?_eq_some_iff.2 ((perm_sortByKey _).mem_iff.1 listed)
    exact ⟨part.1, part.2, known, failed⟩
  · cases returned

theorem error_of_properties {required : List Text} {properties : List (Text × Schema)}
    (h : (gather
      (lowerProperties override cross enclosing required properties)).result = .error e) :
    ∃ key schema, (OrderedMap.ofList properties).get? key = some schema ∧
      (lowerSchema override cross (Naming.partName enclosing key) schema).result = .error e := by
  obtain ⟨key, work, known, failed⟩ := error_of_gather h
  rw [lowerProperties_eq_map, OrderedMap.get?_ofList_map fun key schema =>
    lowerProperty override cross enclosing required key schema] at known
  obtain ⟨schema, declared, rfl⟩ := Option.map_eq_some_iff.1 known
  refine ⟨key, schema, declared, ?_⟩
  by_cases inline : schema.isReference = false
  · rw [lowerProperty_inline override cross enclosing required key inline] at failed
    rcases Traced.error_of_bind failed with failed | ⟨type, -, returned⟩
    · exact failed
    · cases returned
  · cases schema <;> simp [Schema.isReference] at inline
    cases failed

theorem error_of_branches {n : Nat} {branches : List Schema}
    (h : (lowerBranches override cross name n branches).result = .error e) :
    ∃ branch ∈ branches, ∃ n, (lowerBranch override cross name n branch).result = .error e := by
  induction branches generalizing n with
  | nil =>
    rw [lowerBranches] at h
    cases h
  | cons branch rest ih =>
    rw [lowerBranches_cons] at h
    rcases Traced.error_of_bind h with failed | ⟨first, -, next⟩
    · exact ⟨branch, List.mem_cons_self, n, failed⟩
    rcases Traced.error_of_bind next with failed | ⟨more, -, returned⟩
    · obtain ⟨other, listed, failed⟩ := ih failed
      exact ⟨other, List.mem_cons_of_mem _ listed, failed⟩
    · cases returned

theorem error_of_write {write : Lowering Unit} {notice : Notice} {result : Text}
    (h : (do write; note notice; return result : Lowering Text).result = .error e) :
    write.result = .error e := by
  rcases Traced.error_of_bind h with failed | ⟨_, -, next⟩
  · exact failed
  · cases next

/-- The causes of an error, by the shape of the schema. -/
inductive Refused (override : ModelOverride) (cross : Crossing) (name : Text) :
    Schema → BuildError → Prop where
  | mapValue {notes : Notes} {required : List Text} {properties : List (Text × Schema)}
      {values : Schema} (unknown : mapValueType? values = none) :
      Refused override cross name (.object notes required properties (some values))
        (.unsupported (.mapValue values.kindWord) name)
  | noItems {notes : Notes} {length : LengthRange} :
      Refused override cross name (.array notes length none) (.unsupported .listWithoutItems name)
  | negation {description : Option Text} :
      Refused override cross name (.negation description) (.unsupported .negation name)
  | fragment {notes : Notes} :
      Refused override cross name (.fragment notes) (.unsupported .fragment name)
  | branch {kind : UnionKind} {description : Option Text} {branches : List Schema}
      {branch : Schema} (listed : branch ∈ branches) (inline : branch.isReference = false)
      (other : branch.isPlainObject = false) :
      Refused override cross name (.union kind description branches)
        (.unsupported (.unionBranch branch.kindWord) name)
  | element {notes : Notes} {length : LengthRange} {items : Schema} {e : BuildError}
      (failed : (lowerSchema override cross (Naming.listNames name).element items).result =
        .error e) :
      Refused override cross name (.array notes length (some items)) e
  | property {notes : Notes} {required : List Text} {properties : List (Text × Schema)}
      {key : Text} {schema : Schema} {e : BuildError}
      (declared : (OrderedMap.ofList properties).get? key = some schema)
      (failed : (lowerSchema override cross (Naming.partName name key) schema).result = .error e) :
      Refused override cross name (.object notes required properties none) e
  | inlineBranch {kind : UnionKind} {description : Option Text} {branches : List Schema}
      {notes : Notes} {required : List Text} {properties : List (Text × Schema)} {n : Nat}
      {key : Text} {schema : Schema} {e : BuildError}
      (listed : .object notes required properties none ∈ branches)
      (declared : (OrderedMap.ofList properties).get? key = some schema)
      (failed : (lowerSchema override cross (Naming.partName (name ++ toString n) key)
        schema).result = .error e) :
      Refused override cross name (.union kind description branches) e
  | namedBranch {kind : UnionKind} {description note : Option Text} {branches : List Schema}
      {target : SchemaName} {n : Nat} {e : BuildError} (listed : .reference target note ∈ branches)
      (failed : (cross name (name ++ toString n) target).result = .error e) :
      Refused override cross name (.union kind description branches) e

theorem refused_of_error {schema : Schema}
    (h : (lowerSchema override cross name schema).result = .error e) :
    Refused override cross name schema e := by
  cases schema with
  | boolean notes => cases h
  | integer notes range => cases h
  | number notes range => cases h
  | string notes facets => cases h
  | object notes required properties additional =>
    cases additional with
    | none =>
      rw [lowerSchema] at h
      rcases Traced.error_of_bind h with failed | ⟨members, -, next⟩
      · obtain ⟨key, schema, declared, failed⟩ := error_of_properties failed
        exact .property declared failed
      · cases next
    | some values =>
      rw [lowerSchema] at h
      have failed := error_of_write h
      unfold lowerMap at failed
      split at failed
      · cases failed
      · rename_i unknown
        cases failed
        exact .mapValue unknown
  | array notes length items =>
    cases items with
    | none =>
      cases h
      exact .noItems
    | some items =>
      by_cases inline : items.isReference = false
      · rw [lowerSchema_inlineArray override cross name notes length inline] at h
        rcases Traced.error_of_bind h with failed | ⟨element, -, next⟩
        · exact .element failed
        · cases next
      · cases items <;> simp [Schema.isReference] at inline
        cases h
  | union kind description branches =>
    rw [lowerSchema] at h
    rcases Traced.error_of_bind h with failed | ⟨members, -, next⟩
    · obtain ⟨branch, listed, n, failed⟩ := error_of_branches failed
      unfold lowerBranch at failed
      split at failed
      · exact .namedBranch listed failed
      · obtain ⟨key, schema, declared, failed⟩ := error_of_properties failed
        exact .inlineBranch listed declared failed
      · rename_i unnamed closed
        cases failed
        refine .branch listed ?_ ?_
        · cases branch with
          | reference target note => exact absurd rfl (unnamed target note)
          | _ => rfl
        · cases branch with
          | object notes required properties additional =>
            cases additional with
            | none => exact absurd rfl (closed notes required properties)
            | some values => rfl
          | _ => rfl
    · cases next
  | reference target description => cases h
  | negation description =>
    cases h
    exact .negation
  | fragment notes =>
    cases h
    exact .fragment

end Compile

end ApiModel

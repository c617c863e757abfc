import ApiModel.Proofs.SchemaNodes
import ApiModel.Proofs.SchemaOrigins
import ApiModel.Proofs.Unfolding

/-! The attributes of a schema fit its kind. In a record that was read this holds at every depth,
and the kind is the one that the keywords of a mapping in the document declare. -/
namespace ApiModel.Schema

open Value (Part)

/-! Attributes and kinds. -/

namespace Attributes

variable {σ τ : Type} {a : Attributes σ}

def Childless (a : Attributes σ) : Prop :=
  a.branches = [] ∧ a.items = none ∧ a.properties = [] ∧ a.additional = none

/-- Only those attributes are set that schemas of the kind have. -/
structure WellKinded (a : Attributes σ) : Prop where
  reference_iff : a.kind = "reference" ↔ a.reference.isSome = true
  named : ∀ name, a.reference = some name → name ≠ [] ∧ a.Childless
  union : a.branches ≠ [] → a.kind ∈ [UnionKind.allOf, .anyOf, .oneOf].map UnionKind.word
  array : a.items ≠ none ∨ a.itemCount ≠ .unbounded → a.kind = "array"
  object : a.properties ≠ [] ∨ a.required ≠ [] ∨ a.additional ≠ none → a.kind = "object"
  numeric : a.range ≠ .unbounded → a.kind = "integer" ∨ a.kind = "number"
  textual : a.pattern ≠ none ∨ a.length ≠ .unbounded ∨ a.values ≠ none → a.kind = "string"
  final : a.kind = "not" ∨ a.kind = "fragment" → a.Childless

theorem childless_map (f : σ → τ) : (a.map f).Childless ↔ a.Childless := by
  simp [Childless, map]

theorem WellKinded.map (h : a.WellKinded) (f : σ → τ) : (a.map f).WellKinded where
  reference_iff := h.reference_iff
  named name found := (h.named name found).imp_right (childless_map f).2
  union := by simpa [Attributes.map] using h.union
  array := by simpa [Attributes.map] using h.array
  object := by simpa [Attributes.map] using h.object
  numeric := h.numeric
  textual := h.textual
  final word := (childless_map f).2 (h.final word)

end Attributes

variable {schema node : Schema} {location : Location} {v : Value}

/-- The records that stand in a record, itself included. -/
inductive Node.Holds : Node → Node → Prop where
  | itself (node : Node) : Holds node node
  | deeper {node child part : Node} (listed : child ∈ node.attributes.children)
      (inner : Holds child part) : Holds node part

end ApiModel.Schema

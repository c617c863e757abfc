import ApiModel.Proofs.OrderedMap
import ApiModel.Proofs.SchemaReading

/-! Schemas read at two places. A place stands in messages and tells undefined numbers apart,
nothing else, so the schemas are the same up to where such numbers come from. -/
namespace ApiModel

/-- Equal bounds, or undefined ones. -/
inductive Bound.Alike : Bound → Bound → Prop where
  | same (b : Bound) : Alike b b
  | undefined (a b : Number.Origin) : Alike (.float (.undefined a)) (.float (.undefined b))

structure NumericRange.Alike (r r' : NumericRange) : Prop where
  rest : r = { r' with minimum := r.minimum, maximum := r.maximum }
  minimum : Option.Rel Bound.Alike r.minimum r'.minimum
  maximum : Option.Rel Bound.Alike r.maximum r'.maximum

namespace Schema

/-- Schemas that differ at most in where undefined numbers come from, at any depth. -/
inductive Alike : Schema → Schema → Prop where
  | same (s : Schema) : Alike s s
  | integer {notes : Notes} {range range' : NumericRange} (ranges : range.Alike range') :
      Alike (.integer notes range) (.integer notes range')
  | number {notes : Notes} {range range' : NumericRange} (ranges : range.Alike range') :
      Alike (.number notes range) (.number notes range')
  | array {notes : Notes} {length : LengthRange} {items items' : Schema}
      (parts : Alike items items') :
      Alike (.array notes length (some items)) (.array notes length (some items'))
  | object {notes : Notes} {required : List Text} {properties properties' : List (Text × Schema)}
      {additional additional' : Option Schema}
      (keys : properties.map Prod.fst = properties'.map Prod.fst)
      (parts : ∀ p p', (p, p') ∈ properties.zip properties' → Alike p.2 p'.2)
      (open_iff : additional.isSome = additional'.isSome)
      (values : ∀ s s', additional = some s → additional' = some s' → Alike s s') :
      Alike (.object notes required properties additional)
        (.object notes required properties' additional')
  | union {kind : UnionKind} {description : Option Text} {branches branches' : List Schema}
      (count : branches.length = branches'.length)
      (parts : ∀ s s', (s, s') ∈ branches.zip branches' → Alike s s') :
      Alike (.union kind description branches) (.union kind description branches')

end Schema

open Validation (Checked)

theorem Decimal.alike_of (origin origin' : Number.Origin) (x : Float) :
    Bound.Alike (.float (.of origin x)) (.float (.of origin' x)) := by
  unfold Decimal.of
  split
  · exact .same _
  · exact .undefined origin origin'

theorem bound_agree (origin origin' : Number.Origin) (v : Value) :
    Checked.Agree Bound.Alike (Validation.bound origin v) (Validation.bound origin' v) := by
  have alike (x : Checked Bound) : Checked.Agree Bound.Alike x x := by
    cases x with
    | accepted b => exact .accepted (.same b)
    | refused faults => exact .refused faults faults
  unfold Validation.bound
  split
  · exact alike _
  · exact alike _
  · exact alike _
  · split
    · exact alike _
    · exact alike _
    · exact alike _
    · split
      · exact alike _
      · exact .accepted (Decimal.alike_of origin origin' _)
      · exact alike _

namespace Schema

variable {es : List (Value × Value)}

theorem facet_agree {α : Type} {R : α → α → Prop} {reader reader' : Value → Checked α}
    (alike : ∀ v, Checked.Agree R (reader v) (reader' v)) (name : Text) (v : Value) :
    Checked.Agree (Option.Rel R) (facet name reader v) (facet name reader' v) := by
  unfold facet
  apply Checked.Agree.under
  cases v with
  | null => exact .accepted .none
  | _ => exact (alike _).map fun _ _ => Option.Rel.some

theorem readRange_agree (location location' : Location) (es : List (Value × Value)) :
    Checked.Agree NumericRange.Alike (readRange location es) (readRange location' es) := by
  unfold readRange
  apply Checked.Agree.seq
  · apply Checked.Agree.map (facet_agree (bound_agree _ _) _ _)
    intro minimum minimum' low maximum maximum' high
    exact ⟨rfl, low, high⟩
  · exact facet_agree (bound_agree _ _) _ _

theorem readLeaf_alike (location location' : Location) (v : Value) :
    Concur Alike (readLeaf location v) (readLeaf location' v) := by
  unfold readLeaf
  split
  · exact .ok (.same _)
  · exact .error _ _

/-- Smaller values are read alike at all places. -/
def AlikeBelow (n : Nat) : Prop :=
  ∀ v, sizeOf v < n → ∀ location location', Concur Alike (read location v) (read location' v)

section Places

variable {n : Nat} (reads : AlikeBelow n) (location location' : Location)
include reads

theorem partBy_alike (part : Option Value) (small : ∀ v, part = some v → sizeOf v < n) :
    Concur (Option.Rel Alike) (partBy read location part) (partBy read location' part) := by
  cases part with
  | none => exact .ok .none
  | some v => exact (reads v (small v rfl) location location').map fun _ _ => Option.Rel.some

theorem readBranchesBy_alike (v : Value) (small : sizeOf v < n) :
    Concur (List.Forall₂ Alike) (readBranchesBy read location v)
      (readBranchesBy read location' v) := by
  have leaves (n : Nat) (items : List Value) :
      Concur (List.Forall₂ Alike) (readLeaves location n items) (readLeaves location' n items) := by
    induction items generalizing n with
    | nil => exact .ok .nil
    | cons v rest ih =>
      have leaf := readLeaf_alike (location.below (.ofNat n)) (location'.below (.ofNat n)) v
      exact leaf.bind fun s s' first => (ih (n + 1)).bind fun l l' others =>
        .ok (.cons first others)
  unfold readBranchesBy
  split
  · apply Ending.mapM
    rw [List.forall₂_same]
    intro e listed
    refine reads e.1 ?_ _ _
    have := List.sizeOf_lt_of_mem (List.fst_mem_of_mem_zipIdx listed)
    simp only [Value.list.sizeOf_spec] at small
    omega
  · split
    · apply (Concur.refl _).bind
      intro items _ same
      exact same ▸ leaves 0 items
    · exact .ok .nil

theorem readPropertiesBy_alike (small : sizeOf (Value.map es) ≤ n) :
    Concur (List.Forall₂ fun e e' => e.1 = e'.1 ∧ Alike e.2 e'.2)
      (readPropertiesBy read location es)
      (readPropertiesBy read location' es) := by
  apply Ending.mapM
  rw [List.forall₂_same]
  intro e listed
  apply (Concur.refl e.1.shown).bind
  intro key key' same
  subst same
  have smaller : sizeOf e.2 < n := by
    have := List.sizeOf_lt_of_mem listed
    obtain ⟨k, v⟩ := e
    simp only [Prod.mk.sizeOf_spec, Value.map.sizeOf_spec] at *
    omega
  exact (reads e.2 smaller _ _).bind fun s s' alike => .ok ⟨rfl, alike⟩

theorem propertiesBy_alike (small : sizeOf es ≤ n) :
    Concur (List.Forall₂ fun e e' => e.1 = e'.1 ∧ Alike e.2 e'.2) (propertiesBy read location es)
      (propertiesBy read location' es) := by
  unfold propertiesBy
  split
  · rename_i fields found
    have := Value.sizeOf_getPresent? found
    exact readPropertiesBy_alike reads location location' (by omega)
  · exact .error _ _
  · exact .ok .nil

omit reads in
theorem distinctProperties_alike {ps ps' : List (Text × Schema)}
    (related : List.Forall₂ (fun e e' => e.1 = e'.1 ∧ Alike e.2 e'.2) ps ps') :
    List.Forall₂ (fun e e' => e.1 = e'.1 ∧ Alike e.2 e'.2) (distinctProperties ps)
      (distinctProperties ps') := by
  rw [distinctProperties_eq_entries, distinctProperties_eq_entries]
  exact forall₂_ofList related

theorem readTypedBy_alike (small : sizeOf es ≤ n) (type : TypeName) :
    Concur Alike (readTypedBy read location es type) (readTypedBy read location' es type) := by
  have alike {x : Except ReadError Schema} : Concur Alike x x :=
    (Concur.refl x).imp fun s _ same => same ▸ .same s
  cases type with
  | boolean | untyped | string => exact alike
  | integer =>
    apply Checked.Agree.orStop
    apply Checked.Agree.seq _ (readRange_agree location location' es)
    apply (Checked.Agree.refl (readNotes es)).map
    intro notes _ same range range' ranges
    exact same ▸ .integer ranges
  | number =>
    apply Checked.Agree.orStop
    apply Checked.Agree.seq _ (readRange_agree location location' es)
    apply (Checked.Agree.refl (readNotes es)).map
    intro notes _ same range range' ranges
    exact same ▸ .number ranges
  | array =>
    apply (partBy_alike reads _ _ (Value.getSome? "items" es) ?_).bind
    · intro items items' parts
      apply Checked.Agree.orStop
      apply Checked.Agree.seq _ (Checked.Agree.refl (readItemCount es))
      apply (Checked.Agree.refl (readNotes es)).map
      intro notes _ same count _ same'
      subst same same'
      cases parts with
      | none => exact .same _
      | some parts => exact .array parts
    · intro v found
      exact Nat.lt_of_lt_of_le (Value.sizeOf_getSome? found) small
  | object =>
    apply (Concur.refl (requiredItems es)).bind
    intro required _ same
    subst same
    apply (propertiesBy_alike reads location location' small).bind
    intro properties properties' related
    apply (partBy_alike reads _ _ (additionalPart? es) ?_).bind
    · intro additional additional' values
      apply Checked.Agree.orStop
      apply Checked.Agree.seq _ (Checked.Agree.refl _)
      apply (Checked.Agree.refl (readNotes es)).map
      intro notes _ same required _ same'
      subst same same'
      have distinct := distinctProperties_alike related
      refine .object (keys_eq_of_forall₂ distinct) ?_ ?_ ?_
      · exact fun p p' both => ((List.forall₂_iff_zip.1 distinct).2 both).2
      · cases values <;> rfl
      · intro s s' given given'
        subst given given'
        cases values with
        | some alike => exact alike
    · intro v found
      exact Nat.lt_of_lt_of_le (sizeOf_additionalPart? found) small

theorem readMapBy_alike (small : sizeOf es ≤ n) :
    Concur Alike (readMapBy read location es) (readMapBy read location' es) := by
  have alike {x : Except ReadError Schema} : Concur Alike x x :=
    (Concur.refl x).imp fun s _ same => same ▸ .same s
  unfold readMapBy
  split
  · split
    · exact alike
    · exact .error _ _
  · split
    · rename_i kind part found
      have smaller := Nat.lt_of_lt_of_le (sizeOf_unionPart? found) small
      apply (readBranchesBy_alike reads _ _ part smaller).bind
      intro branches branches' each
      apply (Concur.refl _).bind
      intro description _ same
      subst same
      have parts := List.forall₂_iff_zip.1 each
      exact .ok (.union parts.1 fun s s' both => parts.2 both)
    · split
      · exact alike
      · apply (Concur.refl (typeName es)).bind
        intro type _ same
        subst same
        exact readTypedBy_alike reads location location' small type

end Places

theorem alikeBelow (n : Nat) : AlikeBelow n := by
  induction n with
  | zero => exact fun v small => absurd small (by omega)
  | succ n ih =>
    intro v small location location'
    cases v with
    | map es =>
      rw [read_map, read_map]
      apply readMapBy_alike ih
      simp only [Value.map.sizeOf_spec] at small
      omega
    | _ =>
      rw [read_of_no_map location (by simp), read_of_no_map location' (by simp)]
      exact readLeaf_alike location location' _

theorem read_alike (location location' : Location) (v : Value) :
    Concur Alike (read location v) (read location' v) :=
  alikeBelow (sizeOf v + 1) v (by omega) location location'

end Schema

end ApiModel

import ApiModel.Proofs.SchemaPointers
import ApiModel.Proofs.SchemaReading

/-! What the schemas in a schema were read from. The kind of a schema is decided by the keywords of
one mapping, whatever else stands beside them, and the schemas in it are read from the parts of that
mapping. -/
namespace ApiModel.Schema

open Value (Part)
open Validation (Checked)

variable {next : Reader} {location : Location} {entries : List (Value × Value)}
  {schema child : Schema}

def children : Schema → List Schema
  | array _ _ items => items.toList
  | object _ _ properties additional => properties.map Prod.snd ++ additional.toList
  | union _ _ branches => branches
  | _ => []

def anything : Schema := fragment ⟨none, none⟩

/-- A schema that is read from a part of a mapping, unless it is what `true` stands for. -/
def Originates (next : Reader) (entries : List (Value × Value)) (schema : Schema) : Prop :=
  schema = anything ∨ ∃ location part, Part (.map entries) part ∧
    sizeOf part < sizeOf (Value.map entries) ∧ next location part = .ok schema

/-! The parts of a mapping. -/

theorem lookupText_of_unionPart? {kind : UnionKind} {v : Value}
    (found : unionPart? entries = some (kind, v)) :
    Value.lookupText kind.keyword entries = some v := by
  unfold unionPart? at found
  split at found
  · rename_i given
    cases found
    exact given
  · split at found
    · rename_i given
      cases found
      exact given
    · obtain ⟨w, given, same⟩ := Option.map_eq_some_iff.1 found
      cases same
      exact given

theorem lookupText_of_getSome? {key : Text} {v : Value}
    (found : Value.getSome? key entries = some v) :
    Value.lookupText key entries = some v := by
  unfold Value.getSome? at found
  split at found
  · cases found
  · exact found

theorem lookupText_of_additionalPart? {v : Value} (found : additionalPart? entries = some v) :
    Value.lookupText "additionalProperties" entries = some v := by
  unfold additionalPart? at found
  split at found
  · cases found
  · exact lookupText_of_getSome? found

theorem originates_below {key : Text} {v part : Value}
    (found : Value.lookupText key entries = some v)
    (inner : Part v part) (smaller : sizeOf part ≤ sizeOf v)
    (done : next location part = .ok schema) :
    Originates next entries schema := by
  have whole := Value.sizeOf_lookupText found
  refine .inr ⟨location, part, (Value.part_of_lookupText found).trans inner, ?_, done⟩
  rw [Value.map.sizeOf_spec]
  omega

theorem eq_anything_of_readLeaf {v : Value} (done : readLeaf location v = .ok schema) :
    v = .bool true ∧ schema = anything := by
  unfold readLeaf at done
  split at done
  · cases done
    exact ⟨rfl, rfl⟩
  · cases done

theorem eq_anything_of_readLeaves {n : Nat} {items : List Value} {branches : List Schema}
    (done : readLeaves location n items = .ok branches) : ∀ b ∈ branches, b = anything := by
  induction items generalizing n branches with
  | nil =>
    cases done
    simp
  | cons v rest ih =>
    obtain ⟨first, leaf, done⟩ := bind_eq_ok_iff.1 done
    obtain ⟨others, leaves, done⟩ := bind_eq_ok_iff.1 done
    cases done
    exact List.forall_mem_cons.2 ⟨(eq_anything_of_readLeaf leaf).2, ih leaves⟩

theorem originates_of_readBranchesBy {kind : UnionKind} {v : Value} {branches : List Schema}
    (found : unionPart? entries = some (kind, v))
    (done : readBranchesBy next location v = .ok branches) :
    ∀ b ∈ branches, Originates next entries b := by
  intro b listed
  unfold readBranchesBy at done
  split at done
  · rename_i items
    obtain ⟨⟨item, n⟩, there, read⟩ := exists_of_forall₂ (mapM_eq_ok_iff.1 done) listed
    have member : item ∈ items := (List.mem_zipIdx' there).2 ▸ List.getElem_mem _
    refine originates_below (lookupText_of_unionPart? found) (.item member (.refl _)) ?_ read
    have := List.sizeOf_lt_of_mem member
    simp only [Value.list.sizeOf_spec]
    omega
  · split at done
    · obtain ⟨items, -, leaves⟩ := bind_eq_ok_iff.1 done
      exact .inl (eq_anything_of_readLeaves leaves b listed)
    · cases done
      cases listed

theorem originates_of_propertiesBy {properties : List (Text × Schema)}
    (done : propertiesBy next location entries = .ok properties) :
    ∀ p ∈ properties, Originates next entries p.2 := by
  intro p listed
  unfold propertiesBy at done
  split at done
  · rename_i fields found
    have given : Value.lookupText "properties" entries = some (.map fields) :=
      (Option.filter_eq_some_iff.1 found).1
    obtain ⟨e, there, read⟩ := exists_of_forall₂ (mapM_eq_ok_iff.1 done) listed
    obtain ⟨key, -, made⟩ := bind_eq_ok_iff.1 read
    obtain ⟨schema, part, same⟩ := bind_eq_ok_iff.1 made
    cases same
    exact originates_below given (.entry there (.refl _))
      (Nat.le_of_lt (Pointer.sizeOf_entry there)) part
  · cases done
  · cases done
    cases listed

theorem originates_of_partBy {key : Text} {v? : Option Value} {schema? : Option Schema}
    (given : ∀ v, v? = some v → Value.lookupText key entries = some v)
    (done : partBy next location v? = .ok schema?) :
    ∀ schema ∈ schema?, Originates next entries schema := by
  rintro schema rfl
  cases v? with
  | none => cases done
  | some v =>
    obtain ⟨_, read, ⟨⟩⟩ := map_eq_ok_iff.1 done
    exact originates_below (given v rfl) (.refl _) (Nat.le_refl _) read

/-! Typed schemas. -/

def typeName? : Schema → Option TypeName
  | boolean _ => some .boolean
  | integer _ _ => some .integer
  | number _ _ => some .number
  | string _ _ => some .string
  | object _ _ _ _ => some .object
  | array _ _ _ => some .array
  | fragment _ => some .untyped
  | _ => none

theorem typed_of_readTypedBy {type : TypeName}
    (done : readTypedBy next location entries type = .ok schema) :
    schema.typeName? = some type ∧ ∀ child ∈ schema.children, Originates next entries child := by
  cases type with
  | boolean | untyped =>
    obtain ⟨_, -, rfl⟩ := map_eq_ok_iff.1 done
    exact ⟨rfl, by simp [children]⟩
  | integer | number | string =>
    obtain ⟨_, _, accepted, -, rfl⟩ :=
      Checked.seq_eq_accepted_iff.1 (Checked.orStop_eq_ok_iff.1 done)
    obtain ⟨_, -, rfl⟩ := Checked.map_eq_accepted_iff.1 accepted
    exact ⟨rfl, by simp [children]⟩
  | array =>
    obtain ⟨items, part, done⟩ := bind_eq_ok_iff.1 done
    obtain ⟨_, _, accepted, -, rfl⟩ :=
      Checked.seq_eq_accepted_iff.1 (Checked.orStop_eq_ok_iff.1 done)
    obtain ⟨_, -, rfl⟩ := Checked.map_eq_accepted_iff.1 accepted
    refine ⟨rfl, fun child listed => ?_⟩
    exact originates_of_partBy (fun _ => lookupText_of_getSome?) part child
      (Option.mem_toList.1 listed)
  | object =>
    obtain ⟨required, -, done⟩ := bind_eq_ok_iff.1 done
    obtain ⟨properties, fields, done⟩ := bind_eq_ok_iff.1 done
    obtain ⟨additional, part, done⟩ := bind_eq_ok_iff.1 done
    obtain ⟨_, _, accepted, -, rfl⟩ :=
      Checked.seq_eq_accepted_iff.1 (Checked.orStop_eq_ok_iff.1 done)
    obtain ⟨_, -, rfl⟩ := Checked.map_eq_accepted_iff.1 accepted
    refine ⟨rfl, fun child listed => ?_⟩
    rcases List.mem_append.1 listed with property | other
    · obtain ⟨p, distinct, rfl⟩ := List.mem_map.1 property
      rw [distinctProperties_eq_entries, ← OrderedMap.get?_eq_some_iff] at distinct
      exact originates_of_propertiesBy fields _ (OrderedMap.mem_of_get?_ofList distinct)
    · exact originates_of_partBy (fun _ => lookupText_of_additionalPart?) part child
        (Option.mem_toList.1 other)

/-! All schemas. -/

/-- What the entries of a mapping make of it: a pointer comes before a union, a union before `not`,
and only without them the type counts. -/
inductive Declares (entries : List (Value × Value)) : Schema → Prop where
  | reference {pointer : Text} {name : SchemaName} {description : Option Text}
      (found : Pointer.of? entries = some pointer)
      (named : Pointer.schemaName? pointer = some name.val) :
      Declares entries (.reference name description)
  | union {kind : UnionKind} {part : Value} {description : Option Text} {branches : List Schema}
      (plain : Pointer.of? entries = none) (joined : unionPart? entries = some (kind, part)) :
      Declares entries (.union kind description branches)
  | negation {description : Option Text} (plain : Pointer.of? entries = none)
      (single : unionPart? entries = none) (denied : Value.has "not" entries = true) :
      Declares entries (.negation description)
  | typed {type : TypeName} {schema : Schema} (plain : Pointer.of? entries = none)
      (single : unionPart? entries = none) (affirmed : Value.has "not" entries = false)
      (declared : typeName entries = .ok type) (same : schema.typeName? = some type) :
      Declares entries schema

theorem declares_of_readMapBy (done : readMapBy next location entries = .ok schema) :
    Declares entries schema ∧ ∀ child ∈ schema.children, Originates next entries child := by
  unfold readMapBy at done
  cases plain : Pointer.of? entries with
  | some pointer =>
    simp only [plain] at done
    cases named : referenceName? pointer with
    | none => simp [named] at done
    | some name =>
      simp only [named] at done
      obtain ⟨description, -, rfl⟩ := map_eq_ok_iff.1 done
      exact ⟨.reference plain (referenceName?_eq_some_iff.1 named), by simp [children]⟩
  | none =>
    simp only [plain] at done
    cases joined : unionPart? entries with
    | some found =>
      obtain ⟨kind, part⟩ := found
      simp only [joined] at done
      obtain ⟨branches, each, done⟩ := bind_eq_ok_iff.1 done
      obtain ⟨description, -, done⟩ := bind_eq_ok_iff.1 done
      cases done
      exact ⟨.union plain joined, originates_of_readBranchesBy joined each⟩
    | none =>
      simp only [joined] at done
      cases denied : Value.has "not" entries with
      | true =>
        simp only [denied, if_true] at done
        obtain ⟨description, -, rfl⟩ := map_eq_ok_iff.1 done
        exact ⟨.negation plain joined denied, by simp [children]⟩
      | false =>
        simp only [denied, Bool.false_eq_true, if_false] at done
        obtain ⟨type, declared, done⟩ := bind_eq_ok_iff.1 done
        obtain ⟨same, parts⟩ := typed_of_readTypedBy done
        exact ⟨.typed plain joined denied declared same, parts⟩

theorem read_induction {P : Value → Schema → Prop} (leaf : P (.bool true) anything)
    (map : ∀ entries schema, Declares entries schema →
      (∀ child ∈ schema.children, child = anything ∨ ∃ part,
        Part (.map entries) part ∧ P part child) →
      P (.map entries) schema)
    {v : Value} (done : read location v = .ok schema) : P v schema := by
  induction hn : sizeOf v using Nat.strongRecOn generalizing v location schema with
  | ind n ih =>
    cases v with
    | map entries =>
      rw [read_map] at done
      obtain ⟨declared, parts⟩ := declares_of_readMapBy done
      apply map entries schema declared
      intro child listed
      apply (parts child listed).imp_right
      rintro ⟨below, part, inner, smaller, done⟩
      exact ⟨part, inner, ih _ (hn ▸ smaller) done rfl⟩
    | _ =>
      rw [read_of_no_map _ (by simp)] at done
      obtain ⟨same, rfl⟩ := eq_anything_of_readLeaf done
      rw [same]
      exact leaf

end ApiModel.Schema

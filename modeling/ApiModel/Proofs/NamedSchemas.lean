import ApiModel.Proofs.Leftovers
import ApiModel.Proofs.SchemaNames

/-! The schemas that a description refers to. The names that it takes from pointers lead to schemas
that are there. But its own schemas are those in the place that its dialect has for them, and a
pointer may lead to the place of the other dialect. -/
namespace ApiModel

open Document (Entries)
open Value (Part Written)

/-! What is found in a resolved document. -/

namespace Value

/-- A value without loops that can be written and may stand under a key. -/
structure Regular (v : Value) : Prop where
  isTree : v.isTree = true
  written : Written v
  isOrdinary : v.isOrdinary = true

theorem regular_map {entries : Entries} {f : Value → Value → Value} (h : Written (.map entries))
    (each : ∀ e ∈ entries, Regular (f e.1 e.2)) :
    Regular (.map (entries.map fun e => (e.1, f e.1 e.2))) := by
  obtain ⟨distinct, keys⟩ := written_map_iff.1 h
  refine ⟨?_, written_map_iff.2 ⟨?_, ?_⟩, rfl⟩
  · rw [isTree, holdTrees_iff]
    intro e listed
    obtain ⟨e, there, rfl⟩ := List.mem_map.1 listed
    exact (each e there).isTree
  · rw [List.pairwise_map]
    exact distinct
  · intro e listed
    obtain ⟨e, there, rfl⟩ := List.mem_map.1 listed
    exact ⟨⟨(keys e there).1.1, (each e there).isOrdinary⟩, (each e there).written⟩

mutual
def isUnpaired : Value → Bool
  | list items => areUnpaired items
  | map entries => holdUnpaired entries
  | _ => true

def areUnpaired : List Value → Bool
  | [] => true
  | v :: rest => v.isOrdinary && v.isUnpaired && areUnpaired rest

def holdUnpaired : List (Value × Value) → Bool
  | [] => true
  | (_, v) :: rest => v.isUnpaired && holdUnpaired rest
end

theorem areUnpaired_iff {items : List Value} :
    areUnpaired items = true ↔ ∀ v ∈ items, v.isOrdinary = true ∧ v.isUnpaired = true := by
  induction items with
  | nil => simp [areUnpaired]
  | cons v rest ih => simp [areUnpaired, ih]

theorem holdUnpaired_iff {entries : List (Value × Value)} :
    holdUnpaired entries = true ↔ ∀ e ∈ entries, e.2.isUnpaired = true := by
  induction entries with
  | nil => simp [holdUnpaired]
  | cons e rest ih => simp [holdUnpaired, ih]

theorem Part.regular {v part : Value} (h : Part v part) (regular : Regular v)
    (unpaired : v.isUnpaired = true) : Regular part := by
  induction h with
  | refl v => exact regular
  | item listed _ ih =>
    rw [isUnpaired, areUnpaired_iff] at unpaired
    obtain ⟨ordinary, deeper⟩ := unpaired _ listed
    have inner : Part (list _) _ := .item listed (.refl _)
    exact ih ⟨inner.isTree regular.isTree, inner.written regular.written, ordinary⟩ deeper
  | entry listed _ ih =>
    rw [isUnpaired, holdUnpaired_iff] at unpaired
    have inner : Part (map _) _ := .entry listed (.refl _)
    have ordinary := ((written_map_iff.1 regular.written).2 _ listed).1.2
    exact ih ⟨inner.isTree regular.isTree, inner.written regular.written, ordinary⟩
      (unpaired _ listed)

end Value

namespace Pointer

variable {root v r : Value} {seen : List Text}

theorem Resolves.inherits {P : Value → Prop} (tree : root.isTree = true)
    (given : ∀ part, Part root part → P part) (list : ∀ items, (∀ v ∈ items, P v) → P (.list items))
    (map : ∀ entries (f : Value → Value → Value), P (.map entries) →
      (∀ e ∈ entries, P (f e.1 e.2)) →
      P (.map (entries.map fun e => (e.1, f e.1 e.2))))
    (h : Resolves root seen v r) (part : Part root v) : P r := by
  induction h with
  | scalar _ _ => exact given _ part
  | list result parts ih =>
    apply list
    intro w made
    obtain ⟨v, listed, rfl⟩ := List.mem_map.1 made
    exact ih v listed (part.trans (.item listed (.refl _)))
  | plain result none parts ih =>
    apply map _ (fun _ => result) (given _ part)
    exact fun e listed => ih e listed (part.trans (.entry listed (.refl _)))
  | named result found named followed parts ih =>
    apply map _ (fun k v => if k.isText "$ref" then v else result v) (given _ part)
    intro e listed
    have inner := part.trans (.entry listed (.refl _))
    split
    · exact given _ inner
    · rename_i other
      exact ih e listed (by simpa using other) inner
  | left found unnamed again => exact given _ part
  | target found unnamed fresh followed _ ih => exact ih (part_of_follow tree followed)

theorem Resolves.isTree (tree : root.isTree = true) (h : Resolves root seen v r)
    (part : Part root v) :
    r.isTree = true := by
  refine h.inherits (P := fun v => v.isTree = true) tree
    (fun _ inner => inner.isTree tree) ?_ ?_ part
  · exact fun items each => Value.areTrees_iff.2 each
  · intro entries f _ each
    apply Value.holdTrees_iff.2
    intro e made
    obtain ⟨e, listed, rfl⟩ := List.mem_map.1 made
    exact each e listed

theorem Resolves.regular (regular : ∀ part, Part root part → part.Regular)
    (h : Resolves root seen v r) (part : Part root v) : r.Regular := by
  refine h.inherits (regular root (.refl _)).isTree regular ?_ ?_ part
  · intro items each
    refine ⟨Value.areTrees_iff.2 fun v listed => (each v listed).isTree, ?_, rfl⟩
    exact Value.areWritten_iff.2 fun v listed => (each v listed).written
  · intro entries f whole each
    exact Value.regular_map whole.written each

theorem Resolves.lookup {origin : Entries} (h : Resolves root seen (.map origin) r)
    (stays : ¬ IsReference origin) :
    ∃ entries, r = .map entries ∧ ∀ key v, Value.lookupText key origin = some v →
      ∃ w, Value.lookupText key entries = some w ∧ (key ≠ "$ref" → Resolves root seen v w) := by
  cases h with
  | scalar noMap _ => exact absurd rfl (noMap _)
  | plain result none parts =>
    refine ⟨_, rfl, fun key v found => ⟨result v, ?_, fun _ => ?_⟩⟩
    · rw [Value.lookupText_map fun _ v => result v, found]
      rfl
    · obtain ⟨k, listed, -⟩ := Value.exists_of_lookupText found
      exact parts _ listed
  | named result own named followed parts =>
    refine ⟨_, rfl, fun key v found =>
      ⟨if (Value.str key).isText "$ref" then v else result v, ?_, fun other => ?_⟩⟩
    · rw [Value.lookupText_map fun k v => if k.isText "$ref" then v else result v, found]
      rfl
    · obtain ⟨k, listed, text⟩ := Value.exists_of_lookupText found
      have differs : (Value.str key).isText "$ref" = false := by simp [Value.isText, other]
      rw [differs]
      obtain rfl := Value.isText_iff.1 text
      exact parts _ listed differs
  | left found unnamed _ => exact absurd ⟨_, found, unnamed⟩ stays
  | target found unnamed _ _ _ => exact absurd ⟨_, found, unnamed⟩ stays

end Pointer

/-! The place of the schemas. -/

namespace Api

open Pointer (Resolves IsReference Cyclic)

def Dialect.place : Dialect → List Text
  | swagger => ["definitions"]
  | openApi => ["components", "schemas"]

def Dialect.lead : Dialect → Text
  | swagger => "#/definitions/"
  | openApi => "#/components/schemas/"

def Dialect.other : Dialect → Dialect
  | swagger => openApi
  | openApi => swagger

theorem nameBehind?_of_schemaName? {pointer name : Text}
    (named : Pointer.schemaName? pointer = some name)
    (dialect : Dialect) : Pointer.nameBehind? dialect.lead pointer = some name ∨
      Pointer.nameBehind? dialect.other.lead pointer = some name := by
  obtain ⟨lead, listed, behind⟩ := List.exists_of_findSome?_eq_some named
  simp only [Pointer.schemaLeads, List.mem_cons, List.not_mem_nil, or_false] at listed
  rcases listed with rfl | rfl
  · cases dialect with
    | swagger => exact .inr behind
    | openApi => exact .inl behind
  · cases dialect with
    | swagger => exact .inl behind
    | openApi => exact .inr behind

theorem follow_of_lead {dialect : Dialect} {pointer name : Text}
    (named : Pointer.nameBehind? dialect.lead pointer = some name) :
    ∃ segment, Pointer.unescape segment = name ∧
      ∀ root, Pointer.follow root pointer =
        Pointer.walk pointer (dialect.place ++ [segment]) root := by
  obtain ⟨segment, rfl, single, unescaped⟩ := Pointer.nameBehind?_eq_some named
  refine ⟨segment, unescaped, fun root => ?_⟩
  cases dialect with
  | swagger =>
    have pieces : Text.split '/' (("definitions" : Text) ++ .char '/' :: segment) =
        [("definitions" : Text), segment] := by
      rw [Text.split_append (by decide), Text.split_of_not_mem single]
    exact Pointer.follow_split pieces root
  | openApi =>
    have pieces : Text.split '/' (("components" : Text) ++ .char '/' :: (("schemas" : Text) ++
        .char '/' :: segment)) = [("components" : Text), ("schemas" : Text), segment] := by
      rw [Text.split_append (by decide), Text.split_append (by decide),
        Text.split_of_not_mem single]
    exact Pointer.follow_split pieces root

theorem mem_keys_of_readNamedSchemas {round : Nat} {raw : Entries} {schemas : List (Text × Schema)}
    {name : Text} {v : Value} (done : readNamedSchemas round raw = .ok schemas)
    (found : Value.lookupText name raw = some v) : name ∈ schemas.map Prod.fst := by
  fun_induction readNamedSchemas round raw generalizing schemas with
  | case1 => cases found
  | case2 k w rest ih =>
    obtain ⟨shown, shows, done⟩ := bind_eq_ok_iff.1 done
    obtain ⟨schema, first, done⟩ := bind_eq_ok_iff.1 done
    obtain ⟨others, more, done⟩ := bind_eq_ok_iff.1 done
    cases done
    rw [Value.lookupText] at found
    split at found
    · rename_i text
      obtain rfl := Value.isText_iff.1 text
      cases shows
      exact List.mem_cons_self
    · exact List.mem_cons_of_mem _ (ih more found)

variable {root : Value} {pointer segment : Text} {target : Value}

def entriesAlong : List Text → Entries → Except ReadError Entries
  | [], entries => .ok entries
  | key :: rest, entries => do entriesAlong rest (← entriesAt key entries)

theorem clean_of_entriesAlong {q : Text → Prop} {keys : List Text} {entries raw : Entries}
    (clean : Pointer.Clean q (.map entries)) (done : entriesAlong keys entries = .ok raw) :
    Pointer.Clean q (.map raw) := by
  induction keys generalizing entries with
  | nil =>
    cases done
    exact clean
  | cons key rest ih =>
    obtain ⟨next, there, done⟩ := bind_eq_ok_iff.1 done
    exact ih (clean_of_entriesAt clean there) done

theorem readSchemas_eq (dialect : Dialect) (round : Nat) (entries : Entries) :
    readSchemas dialect round entries = do
      let raw ← entriesAlong dialect.place entries
      return OrderedMap.ofList (← readNamedSchemas round raw) := by
  cases dialect with
  | swagger =>
    unfold readSchemas Dialect.place entriesAlong
    dsimp only
    cases entriesAt "definitions" entries <;> rfl
  | openApi =>
    unfold readSchemas Dialect.place entriesAlong entriesAlong
    dsimp only
    cases entriesAt "components" entries with
    | error e => rfl
    | ok fields =>
      dsimp only [bind, Except.bind]
      cases entriesAt "schemas" fields <;> rfl

theorem map_or_list_of_walk {v : Value} {segments : List Text} (further : segments ≠ [])
    (walked : Pointer.walk pointer segments v = .ok target) :
    (∃ fields, v = .map fields) ∨ ∃ items, v = .list items ∧ items ≠ [] := by
  cases segments with
  | nil => exact absurd rfl further
  | cons segment rest =>
    cases v with
    | map fields => exact .inl ⟨fields, rfl⟩
    | list items =>
      refine .inr ⟨items, rfl, ?_⟩
      rintro rfl
      rw [Pointer.walk, Pointer.step] at walked
      cases index : (Number.integer? (Pointer.unescape segment)).bind (Pointer.itemAt? []) with
      | none => simp [index] at walked
      | some v =>
        obtain ⟨n, -, found⟩ := Option.bind_eq_some_iff.1 index
        exact absurd (Pointer.mem_of_itemAt? found) List.not_mem_nil
    | _ => cases walked

theorem entriesAt_ne_ok_of_list {key : Text} {entries raw : Entries} {items : List Value}
    (given : Value.lookupText key entries = some (.list items)) (holds : items ≠ []) :
    entriesAt key entries ≠ .ok raw := by
  cases items with
  | nil => exact absurd rfl holds
  | cons item rest =>
    simp [entriesAt, Value.getPresent?, given, Option.filter_some, Value.isPresent, Value.mapping]

theorem lookupText_of_walk {keys : List Text} {document entries raw : Entries}
    (tree : (Value.map document).isTree = true)
    (resolves : Resolves root [] (.map document) (.map entries))
    (words : ∀ key ∈ keys, Pointer.unescape key = key ∧ key ≠ "$ref")
    (placed : ∀ front, front <+: keys → ∀ fields,
      Pointer.walk pointer front (.map document) = .ok (.map fields) → ¬ IsReference fields)
    (walked : Pointer.walk pointer (keys ++ [segment]) (.map document) = .ok target)
    (done : entriesAlong keys entries = .ok raw) :
    ∃ v, Value.lookupText (Pointer.unescape segment) raw = some v := by
  induction keys generalizing document entries with
  | nil =>
    cases done
    obtain ⟨_, ⟨⟩, look⟩ := resolves.lookup (placed [] List.nil_prefix document rfl)
    rw [List.nil_append, Pointer.walk_map tree] at walked
    cases found : Value.lookupText (Pointer.unescape segment) document with
    | none => simp [found] at walked
    | some v =>
      obtain ⟨w, there, -⟩ := look _ v found
      exact ⟨w, there⟩
  | cons key rest ih =>
    obtain ⟨⟨word, noPointer⟩, words⟩ := List.forall_mem_cons.1 words
    obtain ⟨next, there, done⟩ := bind_eq_ok_iff.1 done
    obtain ⟨_, ⟨⟩, look⟩ := resolves.lookup (placed [] List.nil_prefix document rfl)
    rw [List.cons_append, Pointer.walk_map tree, word] at walked
    cases found : Value.lookupText key document with
    | none => simp [found] at walked
    | some v =>
      simp only [found] at walked
      have inner (front : List Text) :
          Pointer.walk pointer (key :: front) (.map document) = Pointer.walk pointer front v := by
        rw [Pointer.walk_map tree, word, found]
      obtain ⟨w, given, part⟩ := look key v found
      rcases map_or_list_of_walk (by simp) walked with ⟨fields, rfl⟩ | ⟨items, rfl, holds⟩
      · have stays := placed [key] ⟨rest, rfl⟩ fields (inner [])
        obtain ⟨fields', rfl, -⟩ := (part noPointer).lookup stays
        rw [entriesAt_of_lookupText given] at there
        cases there
        refine ih ((Value.part_of_lookupText found).isTree tree) (part noPointer) words
          ?_ walked done
        intro front ahead fields reached
        exact placed (key :: front) (List.cons_prefix_cons.2 ⟨rfl, ahead⟩) fields
          ((inner front).trans reached)
      · cases part noPointer with
        | scalar _ noList => exact absurd rfl (noList _)
        | list result parts =>
          exact absurd there (entriesAt_ne_ok_of_list given (by simpa using holds))

/-- Documents whose schemas stay in their place. -/
structure Settled (dialect : Dialect) (document : Entries) : Prop where
  isTree : (Value.map document).isTree = true
  written : Written (.map document)
  unpaired : (Value.map document).isUnpaired = true
  /-- What stands under `$ref` is no reference. -/
  direct : ∀ entries fields, Part (.map document) (.map entries) →
    Value.lookupText "$ref" entries = some (.map fields) → ¬ IsReference fields
  /-- A reference that leads back to itself has no other keys. -/
  bare : ∀ entries pointer, Part (.map document) (.map entries) →
    Pointer.of? entries = some pointer →
    Cyclic (.map document) pointer → entries.length = 1
  /-- The mappings on the way to the schemas are no references. -/
  placed : ∀ keys, keys <+: dialect.place → ∀ pointer fields,
    Pointer.walk pointer keys (.map document) = .ok (.map fields) → ¬ IsReference fields

theorem Settled.regular {dialect : Dialect} {document : Entries}
    (settled : Settled dialect document) :
    ∀ part, Part (.map document) part → part.Regular :=
  fun _ inner => inner.regular ⟨settled.isTree, settled.written, rfl⟩ settled.unpaired

theorem within_of_readSchemas {q : Text → Prop} {dialect : Dialect} {round : Nat}
    {entries : Entries} {schemas : OrderedMap Schema} (clean : Pointer.Clean q (.map entries))
    (done : readSchemas dialect round entries = .ok schemas) :
    ∀ schema ∈ schemas.values, schema.Within (Pointer.Names q) := by
  rw [readSchemas_eq] at done
  obtain ⟨raw, along, done⟩ := bind_eq_ok_iff.1 done
  obtain ⟨listed, reads, done⟩ := bind_eq_ok_iff.1 done
  cases done
  intro schema value
  obtain ⟨⟨name, schema⟩, entry, rfl⟩ := List.mem_map.1 value
  have there := OrderedMap.mem_of_get?_ofList (OrderedMap.get?_eq_some_iff.2 entry)
  exact within_of_readNamedSchemas (clean_of_entriesAlong clean along) reads _ there

theorem mem_keys_of_follow {dialect : Dialect} {document entries : Entries} {round : Nat}
    {schemas : OrderedMap Schema} {name : Text} (settled : Settled dialect document)
    (resolves : Resolves (.map document) [] (.map document) (.map entries))
    (done : readSchemas dialect round entries = .ok schemas)
    (named : Pointer.nameBehind? dialect.lead pointer = some name)
    (followed : Pointer.follow (.map document) pointer = .ok target) : name ∈ schemas.keys := by
  have words : ∀ key ∈ dialect.place, Pointer.unescape key = key ∧ key ≠ "$ref" := by
    cases dialect with
    | swagger => decide
    | openApi => decide
  obtain ⟨segment, rfl, path⟩ := follow_of_lead named
  rw [path] at followed
  rw [readSchemas_eq] at done
  obtain ⟨raw, along, done⟩ := bind_eq_ok_iff.1 done
  obtain ⟨listed, reads, done⟩ := bind_eq_ok_iff.1 done
  cases done
  obtain ⟨v, found⟩ := lookupText_of_walk settled.isTree resolves words
    (fun front ahead => settled.placed front ahead pointer) followed along
  rw [OrderedMap.mem_keys_ofList]
  exact mem_keys_of_readNamedSchemas reads found

/-! Names that are not there. -/

section Refers

open Pointer (Left Preserved Spelled allOf of? schemaName? follow leftover)

variable {dialect : Dialect} {document : Entries} {r : Value}

theorem exists_part_of_mem_allOf {v : Value} (listed : pointer ∈ allOf v) :
    ∃ entries, Part v (.map entries) ∧ of? entries = some pointer := by
  induction hn : sizeOf v using Nat.strongRecOn generalizing v with
  | ind n ih =>
    cases v with
    | map entries =>
      rw [allOf, List.mem_append, Pointer.mem_allOfEntries] at listed
      rcases listed with own | ⟨e, there, inner⟩
      · exact ⟨entries, .refl _, by simpa using own⟩
      · obtain ⟨fields, part, found⟩ := ih _ (hn ▸ Pointer.sizeOf_entry there) inner rfl
        exact ⟨fields, .entry there part, found⟩
    | list items =>
      rw [allOf, Pointer.mem_allOfItems] at listed
      obtain ⟨item, there, inner⟩ := listed
      have smaller : sizeOf item < n := by
        have := List.sizeOf_lt_of_mem there
        rw [← hn, Value.list.sizeOf_spec]
        omega
      obtain ⟨fields, part, found⟩ := ih _ smaller inner rfl
      exact ⟨fields, .item there part, found⟩
    | _ => simp [allOf] at listed

theorem lookupText_of_of? {entries : Entries} (found : of? entries = some pointer) :
    Value.lookupText "$ref" entries = some (.str pointer) := by
  unfold of? at found
  split at found
  · cases found
    assumption
  · cases found

theorem Settled.no_map_of_left (settled : Settled dialect document) {entries fields : Entries}
    (left : Left (.map document) entries) {e : Value × Value} (listed : e ∈ entries) :
    ¬ Part e.2 (.map fields) := by
  have ⟨seen, pointer, reached, found, _, _⟩ := left
  have part : Part (.map document) (.map entries) := reached.part settled.isTree
  have single := settled.bare entries pointer part found (Pointer.cyclic_of_left left found)
  obtain ⟨only, rfl⟩ := List.length_eq_one_iff.1 single
  obtain rfl := List.mem_singleton.1 listed
  obtain ⟨k, there, -⟩ := Value.exists_of_lookupText (lookupText_of_of? found)
  obtain rfl := List.mem_singleton.1 there
  nofun

theorem Settled.outer (settled : Settled dialect document) {v : Value} {entries : Entries}
    (part : Part v (.map entries)) : Value.Outer (Left (.map document)) v (.map entries) := by
  generalize whole : Value.map entries = inner at part
  induction part with
  | refl v => exact .refl v
  | item listed _ ih => exact .item listed (ih whole)
  | entry listed inner ih =>
    subst whole
    exact .entry (fun left => settled.no_map_of_left left listed inner) listed (ih rfl)

theorem Settled.not_spelled (settled : Settled dialect document) {entries : Entries} {text : Text} :
    ¬ Spelled (.map document) entries text := by
  rintro ⟨origin, v, part, -, given, way⟩
  obtain ⟨next, ⟨fields, other, rfl, found, unnamed, -⟩, -⟩ := Relation.TransGen.head'_iff.1 way
  exact settled.direct origin fields part given ⟨other, found, unnamed⟩

theorem Settled.clean (settled : Settled dialect document)
    (resolves : Resolves (.map document) [] (.map document) r) :
    Pointer.Clean
      (fun pointer => schemaName? pointer = none ∨ Preserved (.map document) pointer) r := by
  refine ⟨(resolves.regular settled.regular (.refl _)).isTree, fun pointer listed => ?_⟩
  obtain ⟨entries, part, found⟩ := exists_part_of_mem_allOf listed
  rcases leftover settled.isTree (Value.keyed_of_written settled.written) .refl resolves
    (settled.outer part) found with preserved | cyclic | spelled
  · exact .inr preserved
  · exact .inl cyclic.1
  · exact absurd spelled settled.not_spelled

end Refers

theorem settled_of_named {document : Entries} (dialect : Dialect)
    (tree : (Value.map document).isTree = true) (written : Written (.map document))
    (unpaired : (Value.map document).isUnpaired = true)
    (named : ∀ pointer ∈ Pointer.allOf (.map document),
      (Pointer.schemaName? pointer).isSome = true) :
    Settled dialect document := by
  have never : ∀ entries, Part (.map document) (.map entries) → ¬ IsReference entries := by
    rintro entries part ⟨pointer, found, unnamed⟩
    have some := named pointer (Pointer.allOf_subset_of_part part (Pointer.of?_mem_allOf found))
    simp [unnamed] at some
  refine ⟨tree, written, unpaired, ?_, ?_, ?_⟩
  · intro entries fields part given
    exact never fields (part.trans (Value.part_of_lookupText given))
  · intro entries pointer part found cyclic
    exact absurd ⟨pointer, found, cyclic.1⟩ (never entries part)
  · intro keys _ pointer fields walked
    exact never fields (Pointer.part_of_walk tree walked)

def isListOf (name : Text) : Schema → Bool
  | .array _ _ (some (.reference target _)) => target == name
  | _ => false

theorem refers_of_isListOf {name : Text} {schema : Schema} (h : isListOf name schema = true) :
    schema.Refers name := by
  unfold isListOf at h
  split at h
  · cases beq_iff_eq.1 h
    exact .items .itself
  · cases h

/-- Every name that a description refers to is that of one of its schemas, unless the document has a
pointer to it in the place where the other dialect keeps its schemas. -/
theorem mem_schemas_of_refers {version : Text} {document : Entries} {d : Description}
    (settled : Settled (Dialect.ofVersion (.str version)) document)
    (done : (read (.str version) document).result = .ok d) {name : Text} (refers : d.Refers name) :
    name ∈ d.schemas.keys ∨
      ∃ pointer ∈ Pointer.allOf (.map document),
        Pointer.nameBehind? (Dialect.ofVersion (.str version)).other.lead pointer = some name ∧
          ∃ target, Pointer.follow (.map document) pointer = .ok target := by
  obtain ⟨entries, resolved⟩ := entries_of_read done
  obtain ⟨-, -, schemas, operations, -, -⟩ := (read_eq_ok_iff resolved).1 done
  rw [← Pointer.resolved_start] at resolved
  have resolves := Pointer.resolves_of_resolved settled.isTree _ .refl _ resolved
  have clean := settled.clean resolves
  have written := (resolves.regular settled.regular (.refl _)).written
  have within : ∀ schema ∈ d.allSchemas, schema.Within
      (Pointer.Names fun pointer => Pointer.schemaName? pointer = none ∨
        Pointer.Preserved (.map document) pointer) := by
    intro schema listed
    rcases List.mem_append.1 listed with ofSchemas | ofOperations
    · exact within_of_readSchemas clean schemas schema ofSchemas
    · obtain ⟨paths, given, reads⟩ := bind_eq_ok_iff.1 operations
      obtain ⟨operation, there, part⟩ := List.mem_flatMap.1 ofOperations
      exact within_of_readPaths (clean_of_entriesAt clean given)
        (written_of_entriesAt written given) reads
        operation there schema part
  obtain ⟨schema, listed, refers⟩ := refers
  obtain ⟨pointer, unnamed | ⟨mem, -, target, followed⟩, named⟩ := within schema listed name refers
  · rw [unnamed] at named
    cases named
  · rcases nameBehind?_of_schemaName? named (Dialect.ofVersion (.str version)) with own | other
    · exact .inl (mem_keys_of_follow settled resolves schemas own followed)
    · exact .inr ⟨pointer, mem, other, target, followed⟩

def catalog : Entries :=
  [(.str "swagger", .str "2.0"),
    (.str "definitions", .ofEntries
      [("Item", .ofEntries [("type", .str "string")]),
        ("Goods", .ofEntries
          [("type", .str "array"), ("items", .ofEntries [("$ref", .str "#/definitions/Item")])])])]

theorem mem_schemas_of_refers_catalog :
    ∃ d, (read (.str "2.0") catalog).result = .ok d ∧ d.Refers "Item" ∧
      (Text.ofString "Item" ∈ d.schemas.keys ∨
        ∃ pointer ∈ Pointer.allOf (.map catalog),
          Pointer.nameBehind? "#/components/schemas/" pointer = some "Item" ∧
            ∃ target, Pointer.follow (.map catalog) pointer = .ok target) := by
  have settled : Settled (Dialect.ofVersion (.str "2.0")) catalog :=
    settled_of_named _ rfl (by decide) rfl (by decide)
  have resolved : Pointer.resolve (.map catalog) = .ok (.map catalog) :=
    Pointer.resolve_eq_self rfl (by decide)
  have succeeds : (read (.str "2.0") catalog).result.toOption.any fun d =>
      d.schemas.values.any (isListOf "Item") := by
    unfold read readIn
    simp only [Traced.result_bind, resolved, Traced.ofExcept]
    decide +kernel
  cases done : (read (.str "2.0") catalog).result with
  | error e =>
    rw [done] at succeeds
    cases succeeds
  | ok d =>
    rw [done] at succeeds
    obtain ⟨schema, listed, list⟩ := List.any_eq_true.1 succeeds
    have refers : d.Refers "Item" :=
      ⟨schema, List.mem_append_left _ listed, refers_of_isListOf list⟩
    exact ⟨d, rfl, refers, mem_schemas_of_refers settled done refers⟩

def misplaced : Entries :=
  [(.str "openapi", .str "3.0.0"),
    (.str "definitions", .ofEntries [("Item", .ofEntries [("type", .str "string")])]),
    (.str "components", .ofEntries [("schemas", .ofEntries [("Goods", .ofEntries
      [("type", .str "array"), ("items", .ofEntries [("$ref", .str "#/definitions/Item")])])])])]

/-- The pointer is accepted, and its name is that of no schema. -/
theorem not_mem_schemas_misplaced :
    ∃ d, (read (.str "3.0.0") misplaced).result = .ok d ∧ d.Refers "Item" ∧
      Text.ofString "Item" ∉ d.schemas.keys := by
  have resolved : Pointer.resolve (.map misplaced) = .ok (.map misplaced) :=
    Pointer.resolve_eq_self rfl (by decide)
  have succeeds : (read (.str "3.0.0") misplaced).result.toOption.any fun d =>
      d.schemas.values.any (isListOf "Item") && !d.schemas.keys.contains "Item" := by
    unfold read readIn
    simp only [Traced.result_bind, resolved, Traced.ofExcept]
    decide +kernel
  cases done : (read (.str "3.0.0") misplaced).result with
  | error e =>
    rw [done] at succeeds
    cases succeeds
  | ok d =>
    rw [done] at succeeds
    simp only [Except.toOption, Option.any_some, Bool.and_eq_true, List.any_eq_true] at succeeds
    obtain ⟨⟨schema, listed, list⟩, missing⟩ := succeeds
    exact ⟨d, rfl, ⟨schema, List.mem_append_left _ listed, refers_of_isListOf list⟩,
      by simpa using missing⟩

end Api

end ApiModel

import ApiModel.Proofs.Representation
import ApiModel.Proofs.Run

/-! What a reference to a named schema denotes. Once all named schemas are lowered, each is found
under the name it was entered with and has the shape of its schema, unless another entry took that
name. -/
namespace ApiModel

open Compile

/-- The name under which a schema is entered if the given name is proposed for it. Only a list of
items without a name of their own may get another one. -/
def entryName (name : Text) : Schema → Text
  | .array _ _ (some items) =>
    if items.isReference then name else (Naming.listNames name).container
  | _ => name

def Schema.isStructured : Schema → Bool
  | .object _ _ _ none => true
  | .union _ _ _ => true
  | _ => false

/-- An entry of the kind that a schema asks for, with the members that it declares. -/
inductive HasShape (context : Context) : Schema → TypeEntry → Prop where
  | primitive {schema : Schema} {field : Field}
      (made : primitiveField? context.override schema = some field) :
      HasShape context schema (.field field)
  | map {notes : Notes} {required : List Text} {properties : List (Text × Schema)}
      {values : Schema} {value : Text} (made : mapValueType? values = some value) :
      HasShape context (.object notes required properties (some values))
        (.field (.map "String" value .unbounded))
  | list {notes : Notes} {length : LengthRange} {items : Schema} {element : Text} :
      HasShape context (.array notes length (some items)) (.field (.list element length))
  | object {notes : Notes} {required : List Text} {properties : List (Text × Schema)}
      {s : Structure} (keys : ∀ key, key ∈ s.members.keys ↔ key ∈ properties.map Prod.fst) :
      HasShape context (.object notes required properties none) (.structure s)
  | union {kind : UnionKind} {description : Option Text} {branches : List Schema} {s : Structure}
      (keys : ∀ key, key ∈ s.members.keys ↔
        key ∈ (unionDeclarations context.components branches).map Prod.fst) :
      HasShape context (.union kind description branches) (.structure s)

def Effect.write (name : Text) : TypeEntry → Effect
  | .field f => .field name f
  | .structure s => .structure name s

variable {context : Context} {name type : Text} {schema : Schema} {trace : List Effect}

theorem keys_declarations {required : List Text} {properties : List (Text × Schema)} :
    (declarations required properties).map Prod.fst = properties.map Prod.fst := by
  simp [declarations]

theorem mem_keys_unionDeclarations {components : OrderedMap Schema} {branch : Schema}
    {rest : List Schema} {key : Text} :
    key ∈ (unionDeclarations components (branch :: rest)).map Prod.fst ↔
      key ∈ (branchDeclarations components branch).map Prod.fst ∨
        key ∈ (unionDeclarations components rest).map Prod.fst := by
  unfold unionDeclarations
  rw [List.flatMap_cons, List.map_append, List.mem_append]

theorem keys_of_branches {pending : List Text} {n : Nat} {branches : List Schema} {key : Text}
    {members : List (Text × Member)}
    (lowered : LoweredBranches context.override (crossing context pending) name n branches trace
      members) :
    key ∈ members.map Prod.fst ↔
      key ∈ (unionDeclarations context.components branches).map Prod.fst := by
  induction lowered with
  | nil => rfl
  | named crossed others ih =>
    obtain ⟨notes, required, properties, found, -, gathered⟩ := crossing_eq_ok crossed
    rw [List.map_append, List.mem_append, mem_keys_unionDeclarations, keys_of_gathered gathered, ih]
    simp only [branchDeclarations, found, keys_declarations]
  | inline gathered others ih =>
    rw [List.map_append, List.mem_append, mem_keys_unionDeclarations, keys_of_gathered gathered, ih]
    simp only [branchDeclarations, keys_declarations]

theorem ownEntry_of_lower (inline : schema.isReference = false)
    (run : lower context name schema = ⟨trace, .ok type⟩) :
    type = entryName name schema ∧ ∃ before entry notice,
      trace = before ++ [.write type entry, .notice notice] ∧ HasShape context schema entry ∧
        (schema.isStructured = true ∨ ∃ f, entry = .field f) := by
  cases lowered_of_eq_ok run with
  | primitive made =>
    refine ⟨?_, [], .field _, _, rfl, .primitive made, .inr ⟨_, rfl⟩⟩
    cases schema with
    | array notes length items => cases made
    | _ => rfl
  | map found => exact ⟨rfl, [], .field _, _, rfl, .map found, .inr ⟨_, rfl⟩⟩
  | object gathered =>
    refine ⟨rfl, _, .structure _, _, rfl, .object ?_, .inl rfl⟩
    intro key
    rw [← keys_of_gathered gathered]
    exact OrderedMap.mem_keys_ofList
  | listOfNamed => exact ⟨rfl, [], .field _, _, rfl, .list, .inr ⟨_, rfl⟩⟩
  | list inlineItems lowered =>
    refine ⟨?_, _, .field _, _, rfl, .list, .inr ⟨_, rfl⟩⟩
    simp [entryName, inlineItems]
  | union lowered =>
    refine ⟨rfl, _, .structure _, _, rfl, .union ?_, .inl rfl⟩
    intro key
    rw [Members.mem_keys_renumber, OrderedMap.mem_keys_ofList]
    exact keys_of_branches lowered
  | reference => simp [Schema.isReference] at inline

theorem holds_applyAll_own (r : Registry) (before : List Effect) (name : Text) (entry : TypeEntry)
    (notice : Notice) :
    (r.applyAll (before ++ [.write name entry, .notice notice])).Holds (.write name entry) := by
  rw [Registry.applyAll_append]
  cases entry with
  | field f =>
    change (OrderedMap.insert _ name f).get? name = some f
    rw [OrderedMap.get?_insert, if_pos rfl]
  | «structure» s =>
    change (OrderedMap.insert _ name s).get? name = some s
    rw [OrderedMap.get?_insert, if_pos rfl]

/-- Nobody else has a say in what stands under the name of a schema: other named schemas write
nothing there but what this one leaves there itself, and none of its own parts hides its
structure. -/
structure Undisputed (context : Context) (name : Text) (schema : Schema) : Prop where
  others : ∀ other part, context.components.get? other = some part → other ≠ name →
    ∀ e ∈ (lower context other part).trace, e.name? = some (entryName name schema) →
      (Registry.empty.applyAll (lower context name schema).trace).Holds e
  unhidden : schema.isStructured = true → ∀ f,
    .field (entryName name schema) f ∉ (lower context name schema).trace

theorem Undisputed.of_mem (undisputed : Undisputed context name schema)
    {earlier later : List (Text × Schema)}
    (split : context.components.entries = earlier ++ (name, schema) :: later) {e : Effect}
    (effect : e ∈ (earlier ++ later).flatMap fun c => (lower context c.1 c.2).trace)
    (named : e.name? = some (entryName name schema)) :
    (Registry.empty.applyAll (lower context name schema).trace).Holds e := by
  obtain ⟨⟨other, part⟩, listed, effect⟩ := List.mem_flatMap.1 effect
  have distinct := context.components.nodup
  rw [split, List.map_append, List.map_cons, List.nodup_middle, List.nodup_cons,
    ← List.map_append] at distinct
  refine undisputed.others other part ?_ ?_ e effect named
  · apply OrderedMap.get?_eq_some_iff.2
    rw [split]
    simp only [List.mem_append, List.mem_cons] at *
    tauto
  · rintro rfl
    exact distinct.1 (List.mem_map.2 ⟨(other, part), listed, rfl⟩)

theorem Undisputed.mem_trace (undisputed : Undisputed context name schema)
    (listed : (name, schema) ∈ context.components.entries) {e : Effect}
    (effect : e ∈ context.components.entries.flatMap fun c => (lower context c.1 c.2).trace)
    (named : e.name? = some (entryName name schema)) : e ∈ (lower context name schema).trace := by
  obtain ⟨earlier, later, split⟩ := List.append_of_mem listed
  by_cases mine : e ∈ (lower context name schema).trace
  · exact mine
  have write : e.name?.isSome := by simp [named]
  have other : e ∈ (earlier ++ later).flatMap fun c => (lower context c.1 c.2).trace := by
    rw [split] at effect
    simp only [List.flatMap_append, List.flatMap_cons, List.mem_append] at *
    tauto
  exact (Registry.mem_of_holds_applyAll write (undisputed.of_mem split other named)).resolve_right
    (Registry.not_holds_empty write)

theorem Undisputed.holds (undisputed : Undisputed context name schema)
    (listed : (name, schema) ∈ context.components.entries) {before : List Effect}
    {entry : TypeEntry} {notice : Notice}
    (own : (lower context name schema).trace =
      before ++ [.write (entryName name schema) entry, .notice notice]) (r : Registry) :
    (r.applyAll (context.components.entries.flatMap fun c => (lower context c.1 c.2).trace)).Holds
      (.write (entryName name schema) entry) := by
  have left : ∀ q : Registry, (q.applyAll (lower context name schema).trace).Holds
      (.write (entryName name schema) entry) := by
    intro q
    rw [own]
    exact holds_applyAll_own ..
  obtain ⟨earlier, later, split⟩ := List.append_of_mem listed
  rw [split, List.flatMap_append, List.flatMap_cons, Registry.applyAll_append,
    Registry.applyAll_append]
  refine Registry.holds_applyAll_of_agree (left _) (left .empty) ?_
  intro e effect named
  apply undisputed.of_mem split
  · rw [List.flatMap_append]
    exact List.mem_append_right _ effect
  · rw [named]
    cases entry <;> rfl

theorem Undisputed.fields_get? (undisputed : Undisputed context name schema)
    (listed : (name, schema) ∈ context.components.entries)
    (structured : schema.isStructured = true) :
    (Registry.empty.applyAll (context.components.entries.flatMap fun c =>
      (lower context c.1 c.2).trace)).fields.get? (entryName name schema) = none := by
  cases hidden : (Registry.empty.applyAll (context.components.entries.flatMap fun c =>
      (lower context c.1 c.2).trace)).fields.get? (entryName name schema) with
  | none => rfl
  | some f =>
    rcases Registry.mem_of_holds_applyAll (e := .field _ f) rfl hidden with written | nothing
    · exact absurd (undisputed.mem_trace listed written rfl) (undisputed.unhidden structured f)
    · exact absurd nothing (Registry.not_holds_empty rfl)

theorem lookup_of_holds {r : Registry} {entry : TypeEntry} (held : r.Holds (.write name entry))
    (bare : ∀ s, entry = .structure s → r.fields.get? name = none) :
    r.lookup name = some entry := by
  unfold Registry.lookup
  cases entry with
  | field f => rw [show r.fields.get? name = some f from held]
  | «structure» s =>
    rw [bare s rfl, show r.structures.get? name = some s from held]
    rfl

/-- Once all named schemas are lowered, the name of an undisputed one stands for an entry of its
shape. -/
theorem lookup_entryName {info : Api.Info} {p : Progress} {u : Unit}
    (run : Runs (lowerComponents context context.components.entries) (start info) u p)
    (found : context.components.get? name = some schema) (inline : schema.isReference = false)
    (undisputed : Undisputed context name schema) :
    ∃ entry, p.model.registry.lookup (entryName name schema) = some entry ∧
      HasShape context schema entry := by
  obtain ⟨accepted, registry⟩ := lowerComponents_runs run
  have listed := OrderedMap.get?_eq_some_iff.1 found
  obtain ⟨type, lowered⟩ := accepted _ listed
  obtain ⟨rfl, before, entry, notice, own, shape, kind⟩ := ownEntry_of_lower inline lowered
  refine ⟨entry, ?_, shape⟩
  rw [registry]
  apply lookup_of_holds (undisputed.holds listed own _)
  rintro s rfl
  rcases kind with structured | ⟨f, impossible⟩
  · exact undisputed.fields_get? listed structured
  · cases impossible

theorem undisputed_of_unnamed
    (others : ∀ c ∈ context.components.entries, c.1 ≠ name →
      entryName name schema ∉ (lower context c.1 c.2).trace.filterMap Effect.name?)
    (unhidden : schema.isStructured = true →
      entryName name schema ∉ (Effect.fields (lower context name schema).trace).map Prod.fst) :
    Undisputed context name schema where
  others other part found different e effect named := by
    have absent := others _ (OrderedMap.get?_eq_some_iff.1 found) different
    exact absurd (List.mem_filterMap.2 ⟨e, effect, named⟩) absent
  unhidden structured f written :=
    unhidden structured (List.mem_map.2 ⟨_, Effect.mem_fields.2 written, rfl⟩)

def page : Schema :=
  .union .allOf none
    [.reference ⟨"Note", by decide⟩ none,
      .object default [] [("size", .integer default default)] none]

def library : Context :=
  ⟨default, .ofList
    [("Page", page), ("Tag", .array default default (some (.string default default))),
      ("Note", .object default [] [("tags", .reference ⟨"Tag", by decide⟩ none)] none)]⟩

theorem lookup_entryName_page :
    ∃ p, Runs (lowerComponents library library.components.entries) (start ⟨"", "", none⟩) () p ∧
      library.components.get? "Page" = some page ∧ page.isReference = false ∧
      Undisputed library "Page" page ∧
      ∃ entry, p.model.registry.lookup "Page" = some entry ∧ HasShape library page entry := by
  have run : Runs (lowerComponents library library.components.entries)
      (start ⟨"", "", none⟩) () _ := runs_of_isOk (by decide +kernel)
  have undisputed : Undisputed library "Page" page := by
    apply undisputed_of_unnamed
    · decide +kernel
    · decide +kernel
  exact ⟨_, run, rfl, rfl, undisputed, lookup_entryName run rfl rfl undisputed⟩

/-- A named schema whose own name stands for something of another shape. -/
def Misread (context : Context) (name : Text) : Prop :=
  ∃ schema p entry,
    Runs (lowerComponents context context.components.entries) (start ⟨"", "", none⟩) () p ∧
      context.components.get? name = some schema ∧ schema.isReference = false ∧
      p.model.registry.lookup name = some entry ∧ ¬ HasShape context schema entry

def tagged : Context :=
  ⟨default, .ofList [("Tag", .array default default (some (.string default default)))]⟩

def widgets : Context :=
  ⟨default, .ofList
    [("WidgetColor", .object default [] [("red", .integer default default)] none),
      ("Widget", .object default [] [("color", .string default default)] none)]⟩

def shelves : Context :=
  ⟨default, .ofList
    [("Shelf", .object default []
      [("s", .array default default (some (.string default default)))] none)]⟩

theorem misread_tag_color_shelf :
    Misread tagged "Tag" ∧ Misread widgets "WidgetColor" ∧ Misread shelves "Shelf" := by
  refine ⟨⟨_, _, _, rfl, rfl, rfl, rfl, ?_⟩, ⟨_, _, _, rfl, rfl, rfl, rfl, ?_⟩,
    ⟨_, _, _, rfl, rfl, rfl, rfl, ?_⟩⟩
  · intro shape
    cases shape with
    | primitive made => cases made
  · intro shape
    cases shape with
    | primitive made => cases made
  · intro shape
    cases shape with
    | primitive made => cases made

end ApiModel

import ApiModel.Proofs.Components

/-! The parts of a schema by their places. Lowering enters every part once, under a name made from
its place. -/
namespace ApiModel

open Compile

/-! Places inside a schema. -/

/-- A step from a schema to one of its parts; the branches of a union are counted from one. -/
inductive Step where
  | property (key : Text)
  | items
  | branch (n : Nat)

/-- The parts of a schema with their places and the names under which they are entered if the given
name is proposed for the whole. References have no entry; those in place of a branch of a union are
read through the named schemas. -/
inductive Entered (components : OrderedMap Schema) :
    Text → Schema → List Step → Text → Prop where
  | own {name : Text} {schema : Schema} (inline : schema.isReference = false) :
      Entered components name schema [] (entryName name schema)
  | property {name entry key : Text} {notes : Notes} {required : List Text}
      {properties : List (Text × Schema)} {part : Declaration} {rest : List Step}
      (declared : (OrderedMap.ofList (declarations required properties)).get? key = some part)
      (below : Entered components (Naming.partName name key) part.schema rest entry) :
      Entered components name (.object notes required properties none) (.property key :: rest) entry
  | items {name entry : Text} {notes : Notes} {length : LengthRange} {items : Schema}
      {rest : List Step}
      (below : Entered components (Naming.listNames name).element items rest entry) :
      Entered components name (.array notes length (some items)) (.items :: rest) entry
  | branch {name entry key : Text} {kind : UnionKind} {description : Option Text}
      {branches : List Schema} {i : Nat} {branch : Schema} {part : Declaration} {rest : List Step}
      (listed : branches[i]? = some branch)
      (declared :
        (OrderedMap.ofList (branchDeclarations components branch)).get? key = some part)
      (below : Entered components (Naming.partName (name ++ toString (1 + i)) key) part.schema rest
        entry) :
      Entered components name (.union kind description branches)
        (.branch (1 + i) :: .property key :: rest) entry

/-- The parts of what an object or a branch declares. -/
def EnteredAmong (components : OrderedMap Schema) (enclosing : Text)
    (declared : List (Text × Declaration)) (path : List Step) (entry : Text) : Prop :=
  ∃ key part rest, path = .property key :: rest ∧
    (OrderedMap.ofList declared).get? key = some part ∧
    Entered components (Naming.partName enclosing key) part.schema rest entry

/-- The parts of the branches of a union, counted from the given number. -/
def EnteredFrom (components : OrderedMap Schema) (name : Text) (n : Nat) (branches : List Schema)
    (path : List Step) (entry : Text) : Prop :=
  ∃ i branch rest, branches[i]? = some branch ∧ path = .branch (n + i) :: rest ∧
    EnteredAmong components (name ++ toString (n + i)) (branchDeclarations components branch) rest
      entry

/-- A trace enters the places of a relation, each once and in some order, and nothing else. -/
def Charts (trace : List Effect) (places : List Step → Text → Prop) : Prop :=
  ∃ nodes : List (List Step × Text), (nodes.map Prod.fst).Nodup ∧
    (∀ path entry, (path, entry) ∈ nodes ↔ places path entry) ∧
    trace.filterMap Effect.name? = nodes.map Prod.snd

variable {components : OrderedMap Schema} {context : Context} {override : ModelOverride}
  {cross : Crossing} {name enclosing entry key : Text} {schema : Schema} {path rest : List Step}
  {trace trace' : List Effect} {places places' : List Step → Text → Prop}

theorem Entered.inline (h : Entered components name schema path entry) :
    schema.isReference = false := by
  cases h with
  | own inline => exact inline
  | _ => rfl

theorem Entered.not_reference {target : SchemaName} {note : Option Text} :
    ¬ Entered components name (.reference target note) path entry := by
  intro entered
  cases entered with
  | own inline => cases inline

theorem entered_object {notes : Notes} {required : List Text} {properties : List (Text × Schema)}
    {step : Step} :
    Entered components name (.object notes required properties none) (step :: rest) entry ↔
      EnteredAmong components name (declarations required properties) (step :: rest) entry := by
  constructor
  · intro entered
    cases entered with
    | property declared below => exact ⟨_, _, _, rfl, declared, below⟩
  · rintro ⟨key, part, _, ⟨rfl, rfl⟩, declared, below⟩
    exact .property declared below

theorem entered_array {notes : Notes} {length : LengthRange} {items : Schema} {step : Step} :
    Entered components name (.array notes length (some items)) (step :: rest) entry ↔
      ∃ below, step :: rest = .items :: below ∧
        Entered components (Naming.listNames name).element items below entry := by
  constructor
  · intro entered
    cases entered with
    | items below => exact ⟨_, rfl, below⟩
  · rintro ⟨_, ⟨rfl, rfl⟩, below⟩
    exact .items below

theorem entered_union {kind : UnionKind} {description : Option Text} {branches : List Schema}
    {step : Step} :
    Entered components name (.union kind description branches) (step :: rest) entry ↔
      EnteredFrom components name 1 branches (step :: rest) entry := by
  constructor
  · intro entered
    cases entered with
    | branch listed declared below =>
      exact ⟨_, _, _, listed, rfl, _, _, _, rfl, declared, below⟩
  · rintro ⟨i, branch, _, listed, ⟨rfl, rfl⟩, key, part, rest, rfl, declared, below⟩
    exact .branch listed declared below

namespace Charts

theorem congr (charted : Charts trace places)
    (same : ∀ path entry, places path entry ↔ places' path entry) : Charts trace places' := by
  obtain ⟨nodes, distinct, listed, named⟩ := charted
  exact ⟨nodes, distinct, fun path entry => (listed path entry).trans (same path entry), named⟩

theorem of_unnamed (unnamed : trace.filterMap Effect.name? = [])
    (none : ∀ path entry, ¬ places path entry) : Charts trace places :=
  ⟨[], List.nodup_nil, fun path entry => by simp [none path entry], unnamed⟩

theorem append (first : Charts trace places) (second : Charts trace' places')
    (apart : ∀ path entry entry', places path entry → ¬ places' path entry') :
    Charts (trace ++ trace') fun path entry => places path entry ∨ places' path entry := by
  obtain ⟨nodes, distinct, listed, named⟩ := first
  obtain ⟨nodes', distinct', listed', named'⟩ := second
  refine ⟨nodes ++ nodes', ?_, ?_, ?_⟩
  · rw [List.map_append]
    refine distinct.append distinct' ?_
    intro path here there
    obtain ⟨⟨_, entry⟩, node, rfl⟩ := List.mem_map.1 here
    obtain ⟨⟨_, entry'⟩, node', rfl⟩ := List.mem_map.1 there
    exact apart _ entry entry' ((listed _ _).1 node) ((listed' _ _).1 node')
  · intro path entry
    rw [List.mem_append, listed, listed']
  · rw [List.filterMap_append, List.map_append, named, named']

theorem under (step : Step) (charted : Charts trace places) :
    Charts trace fun path entry => ∃ rest, path = step :: rest ∧ places rest entry := by
  obtain ⟨nodes, distinct, listed, named⟩ := charted
  refine ⟨nodes.map fun node => (step :: node.1, node.2), ?_, ?_, ?_⟩
  · have deeper : (nodes.map fun node => (step :: node.1, node.2)).map Prod.fst =
        (nodes.map Prod.fst).map (step :: ·) := by simp
    rw [deeper]
    exact distinct.map (List.cons_injective)
  · intro path entry
    simp only [List.mem_map, Prod.exists, Prod.mk.injEq, listed]
    constructor
    · rintro ⟨rest, _, below, rfl, rfl⟩
      exact ⟨rest, rfl, below⟩
    · rintro ⟨rest, rfl, below⟩
      exact ⟨rest, entry, below, rfl, rfl⟩
  · rw [named]
    simp

theorem flatMap (placesOf : Text → List Step → Text → Prop) {parts : List (Text × Lowering Member)}
    (distinct : (parts.map Prod.fst).Nodup)
    (charted : ∀ part ∈ parts, Charts part.2.trace (placesOf part.1)) :
    Charts (parts.flatMap fun part => part.2.trace) fun path entry =>
      ∃ part ∈ parts, ∃ rest, path = .property part.1 :: rest ∧ placesOf part.1 rest entry := by
  induction parts with
  | nil => exact of_unnamed rfl (by simp)
  | cons part others ih =>
    obtain ⟨new, distinct⟩ := List.nodup_cons.1 distinct
    obtain ⟨first, later⟩ := List.forall_mem_cons.1 charted
    refine ((first.under (.property part.1)).append (ih distinct later) ?_).congr ?_
    · rintro path entry entry' ⟨rest, rfl, -⟩ ⟨other, listed, rest', same, -⟩
      injection same with same
      injection same with same
      exact new (List.mem_map.2 ⟨other, listed, same.symm⟩)
    · intro path entry
      simp

theorem with_own {effects : List Effect} (charted : Charts trace places)
    (inline : schema.isReference = false) (proper : ∀ entry, ¬ places [] entry)
    (parts : ∀ step rest entry,
      places (step :: rest) entry ↔ Entered components name schema (step :: rest) entry)
    (written : effects.filterMap Effect.name? = [entryName name schema]) :
    Charts (trace ++ effects) (Entered components name schema) := by
  have own : Charts effects fun path entry => path = [] ∧ entry = entryName name schema :=
    ⟨[([], entryName name schema)], by simp, by simp, by simp [written]⟩
  refine (charted.append own ?_).congr ?_
  · rintro path entry entry' below ⟨rfl, -⟩
    exact proper entry below
  · intro path entry
    cases path with
    | nil =>
      constructor
      · rintro (below | ⟨-, rfl⟩)
        · exact absurd below (proper entry)
        · exact .own inline
      · intro entered
        cases entered with
        | own => exact .inr ⟨rfl, rfl⟩
    | cons step rest => simp [parts step rest entry]

theorem of_leaf {effects : List Effect} (inline : schema.isReference = false)
    (leaf : ∀ step rest entry, ¬ Entered components name schema (step :: rest) entry)
    (written : effects.filterMap Effect.name? = [entryName name schema]) :
    Charts effects (Entered components name schema) := by
  have none : Charts [] fun _ _ => False := of_unnamed rfl (by simp)
  exact none.with_own inline (by simp) (by simpa using leaf) written

theorem nodup_iff (charted : Charts trace places) :
    (trace.filterMap Effect.name?).Nodup ↔
      ∀ path path' entry, places path entry → places path' entry → path = path' := by
  obtain ⟨nodes, distinct, listed, named⟩ := charted
  rw [named, List.nodup_map_iff_inj_on distinct.of_map]
  constructor
  · intro unique path path' entry here there
    exact congrArg Prod.fst
      (unique _ ((listed path entry).2 here) _ ((listed path' entry).2 there) rfl)
  · rintro unique ⟨path, entry⟩ here ⟨path', _⟩ there rfl
    rw [unique path path' entry ((listed _ _).1 here) ((listed _ _).1 there)]

end Charts

/-! What lowering enters. -/

theorem get?_declarations {required : List Text} {properties : List (Text × Schema)}
    {part : Declaration} :
    (OrderedMap.ofList (declarations required properties)).get? key = some part ↔
      (OrderedMap.ofList properties).get? key = some part.schema ∧
        part.required = required.contains key := by
  rw [declarations, OrderedMap.get?_ofList_map fun key schema =>
    (⟨schema, required.contains key⟩ : Declaration), Option.map_eq_some_iff]
  constructor
  · rintro ⟨schema, found, rfl⟩
    exact ⟨found, rfl⟩
  · rintro ⟨found, marked⟩
    exact ⟨part.schema, found, by rw [← marked]⟩

namespace Compile

theorem charts_lowerProperty {required : List Text} {member : Member}
    (ofSchema : ∀ name trace type, lowerSchema override cross name schema = ⟨trace, .ok type⟩ →
      Charts trace (Entered components name schema))
    (run : lowerProperty override cross enclosing required key schema = ⟨trace, .ok member⟩) :
    Charts trace (Entered components (Naming.partName enclosing key) schema) := by
  by_cases inline : schema.isReference = false
  · rw [lowerProperty_inline override cross enclosing required key inline] at run
    obtain ⟨type, first, last, lowered, returned, rfl⟩ := Traced.bind_eq_ok run
    obtain ⟨rfl, -⟩ := Traced.pure_eq_ok returned
    rw [List.append_nil]
    exact ofSchema _ first type lowered
  · cases schema <;> simp [Schema.isReference] at inline
    obtain ⟨rfl, -⟩ := Traced.pure_eq_ok run
    exact .of_unnamed rfl fun _ _ => Entered.not_reference

theorem charts_of_gathered {required : List Text} {properties : List (Text × Schema)}
    {members : List (Text × Member)}
    (ofPart : ∀ e ∈ properties, ∀ name trace type,
      lowerSchema override cross name e.2 = ⟨trace, .ok type⟩ →
        Charts trace (Entered components name e.2))
    (gathered : Gathered (lowerProperties override cross enclosing required properties) trace
      members) :
    Charts trace (EnteredAmong components enclosing (declarations required properties)) := by
  have found (key : Text) : (OrderedMap.ofList
      (lowerProperties override cross enclosing required properties)).get? key =
        ((OrderedMap.ofList properties).get? key).map
          (lowerProperty override cross enclosing required key) := by
    rw [lowerProperties_eq_map, OrderedMap.get?_ofList_map fun key schema =>
      lowerProperty override cross enclosing required key schema]
  have listed {part : Text × Lowering Member} : part ∈ (OrderedMap.ofList
        (lowerProperties override cross enclosing required properties)).sortedEntries ↔
      ∃ schema, (OrderedMap.ofList properties).get? part.1 = some schema ∧
        lowerProperty override cross enclosing required part.1 schema = part.2 := by
    rw [OrderedMap.sortedEntries, (perm_sortByKey _).mem_iff, ← Option.map_eq_some_iff, ← found]
    exact OrderedMap.get?_eq_some_iff.symm
  have done {key : Text} {schema : Schema}
      (declared : (OrderedMap.ofList properties).get? key = some schema) :
      ∃ member,
        (lowerProperty override cross enclosing required key schema).result = .ok member := by
    have known : key ∈ members.map Prod.fst := by
      rw [keys_of_gathered gathered]
      exact List.mem_map_of_mem (OrderedMap.mem_of_get?_ofList declared)
    obtain ⟨⟨_, member⟩, made, rfl⟩ := List.mem_map.1 known
    obtain ⟨work, original, ofKey, finished, -⟩ := gathered.made _ member made
    rw [found, declared] at ofKey
    cases ofKey
    exact ⟨original, finished.1⟩
  rw [gathered.consecutive]
  refine (Charts.flatMap (fun key rest entry => ∃ schema,
    (OrderedMap.ofList properties).get? key = some schema ∧
      Entered components (Naming.partName enclosing key) schema rest entry) ?_ ?_).congr ?_
  · exact ((perm_sortByKey _).map Prod.fst).nodup_iff.2 (OrderedMap.nodup _)
  · intro part member
    obtain ⟨schema, declared, work⟩ := listed.1 member
    obtain ⟨_, ok⟩ := done declared
    rw [← work]
    refine (charts_lowerProperty (ofPart _ (OrderedMap.mem_of_get?_ofList declared))
      (result_of_eq ok)).congr ?_
    intro path entry
    simp [declared]
  · intro path entry
    constructor
    · rintro ⟨part, -, rest, rfl, schema, declared, below⟩
      exact ⟨part.1, ⟨schema, required.contains part.1⟩, rest, rfl,
        get?_declarations.2 ⟨declared, rfl⟩, below⟩
    · rintro ⟨key, part, rest, rfl, declared, below⟩
      have known := (get?_declarations.1 declared).1
      exact ⟨(key, lowerProperty override cross enclosing required key part.schema),
        listed.2 ⟨part.schema, known, rfl⟩, rest, rfl, part.schema, known, below⟩

/-- The way into named schemas enters what the named object declares. -/
def CrossCharts (components : OrderedMap Schema) (cross : Crossing) : Prop :=
  ∀ union enclosing (target : SchemaName) trace members note,
    cross union enclosing target = ⟨trace, .ok members⟩ →
      Charts trace (EnteredAmong components enclosing
        (branchDeclarations components (.reference target note)))

theorem charts_cons_branch {n : Nat} {branch : Schema} {others : List Schema}
    (first : Charts trace (EnteredAmong components (name ++ toString n)
      (branchDeclarations components branch)))
    (later : Charts trace' (EnteredFrom components name (n + 1) others)) :
    Charts (trace ++ trace') (EnteredFrom components name n (branch :: others)) := by
  refine ((first.under (.branch n)).append later ?_).congr ?_
  · rintro path entry entry' ⟨rest, rfl, -⟩ ⟨i, other, rest', -, same, -⟩
    injection same with same
    injection same with same
    omega
  · intro path entry
    constructor
    · rintro (⟨rest, rfl, among⟩ | ⟨i, other, rest, listed, rfl, among⟩)
      · exact ⟨0, branch, rest, rfl, rfl, among⟩
      · rw [Nat.add_assoc, Nat.add_comm 1] at *
        exact ⟨i + 1, other, rest, listed, rfl, among⟩
    · rintro ⟨i, other, rest, listed, rfl, among⟩
      cases i with
      | zero =>
        cases listed
        exact .inl ⟨rest, rfl, among⟩
      | succ i =>
        rw [← Nat.add_assoc, Nat.add_right_comm] at *
        exact .inr ⟨i, other, rest, listed, rfl, among⟩

theorem charts_of_branches {n : Nat} {branches : List Schema} {members : List (Text × Member)}
    (crossed : CrossCharts components cross)
    (ofPart : ∀ notes required properties, .object notes required properties none ∈ branches →
      ∀ e ∈ properties, ∀ name trace type,
        lowerSchema override cross name e.2 = ⟨trace, .ok type⟩ →
          Charts trace (Entered components name e.2))
    (lowered : LoweredBranches override cross name n branches trace members) :
    Charts trace (EnteredFrom components name n branches) := by
  induction lowered with
  | nil => exact .of_unnamed rfl (by simp [EnteredFrom])
  | named crossing others ih =>
    refine charts_cons_branch (crossed _ _ _ _ _ _ crossing) (ih ?_)
    intro notes required properties listed
    exact ofPart notes required properties (List.mem_cons_of_mem _ listed)
  | @inline n notes required properties _ _ _ _ _ gathered others ih =>
    refine charts_cons_branch ?_ (ih ?_)
    · exact charts_of_gathered (ofPart notes required properties List.mem_cons_self) gathered
    · intro notes required properties listed
      exact ofPart notes required properties (List.mem_cons_of_mem _ listed)

theorem charts_lowerSchema (crossed : CrossCharts components cross) (schema : Schema) :
    ∀ name trace type, lowerSchema override cross name schema = ⟨trace, .ok type⟩ →
      Charts trace (Entered components name schema) := by
  induction schema using Schema.sizeInduction with
  | step schema ih =>
    intro name trace type run
    cases lowered_of_eq_ok run with
    | primitive found =>
      -- only schemas without parts are primitive
      cases schema with
      | object _ _ _ additional => cases found
      | array _ _ items => cases found
      | union => cases found
      | reference => cases found
      | _ =>
        refine .of_leaf rfl ?_ rfl
        intro step rest entry entered
        cases entered
    | map found =>
      refine .of_leaf rfl ?_ rfl
      intro step rest entry entered
      cases entered
    | object gathered =>
      refine (charts_of_gathered (fun e listed => ih e.2 (Schema.sizeOf_property listed))
        gathered).with_own rfl (by simp [EnteredAmong]) ?_ rfl
      exact fun _ _ _ => entered_object.symm
    | listOfNamed =>
      refine .of_leaf rfl ?_ rfl
      intro step rest entry entered
      obtain ⟨_, -, below⟩ := entered_array.1 entered
      exact below.not_reference
    | list inline lowered =>
      refine ((ih _ Schema.sizeOf_items _ _ _ lowered).under .items).with_own rfl (by simp) ?_ ?_
      · exact fun _ _ _ => entered_array.symm
      · simp [entryName, inline, Effect.name?]
    | union lowered =>
      refine (charts_of_branches crossed (fun notes required properties listed e found =>
        ih e.2 (Schema.sizeOf_branchProperty listed found)) lowered).with_own rfl
          (by simp [EnteredFrom]) ?_ rfl
      exact fun _ _ _ => entered_union.symm
    | reference => exact .of_unnamed rfl fun _ _ => Entered.not_reference

theorem crossCharts_crossing (context : Context) (pending : List Text) :
    CrossCharts context.components (crossing context pending) := by
  apply crossing_induction
  intro pending ih union enclosing target trace members note run
  obtain ⟨notes, required, properties, found, waiting, gathered⟩ := crossing_eq_ok run
  simp only [branchDeclarations, found]
  exact charts_of_gathered (fun e _ => charts_lowerSchema (ih target waiting) e.2) gathered

end Compile

end ApiModel

import ApiModel.Proofs.BodyNames
import ApiModel.Proofs.Places

/-! The names of the parts of one schema. Concatenation is not injective, so two places can get one
name. They cannot where no property of an object begins like another and no list stands directly in
a list. -/
namespace ApiModel

open Compile

variable {components : OrderedMap Schema} {context : Context} {name enclosing entry key : Text}
  {schema : Schema} {path rest : List Step}

/-! Parts that can be told apart by their names. -/

theorem listNames_append (front : Text) {word : Text} (nonempty : word ≠ []) :
    Naming.listNames (front ++ word) =
      ⟨front ++ (Naming.listNames word).container, front ++ (Naming.listNames word).element⟩ := by
  obtain rfl | ⟨most, last, rfl⟩ := word.eq_nil_or_concat'
  · exact absurd rfl nonempty
  · rw [← List.append_assoc, Naming.listNames_concat, Naming.listNames_concat]
    split <;> simp

namespace Schema

def isInlineList : Schema → Bool
  | .array _ _ (some items) => !items.isReference
  | _ => false

def stem (name : Text) (schema : Schema) : Text :=
  if schema.isInlineList then (Naming.listNames name).element else name

theorem stem_append (front : Text) {word : Text} (nonempty : schema.stem word ≠ []) :
    schema.stem (front ++ word) = front ++ schema.stem word := by
  unfold stem at *
  split
  · rename_i list
    have written : word ≠ [] := by
      rintro rfl
      rw [if_pos list] at nonempty
      exact nonempty rfl
    rw [listNames_append front written]
  · rfl

end Schema

theorem entryName_eq (name : Text) (schema : Schema) : entryName name schema =
    if schema.isInlineList then (Naming.listNames name).container else name := by
  cases schema with
  | array notes length items =>
    cases items with
    | none => rfl
    | some items =>
      cases inline : items.isReference <;> simp [entryName, Schema.isInlineList, inline]
  | _ => rfl

def propertyStem (e : Text × Declaration) : Text :=
  e.2.schema.stem (Text.upperFirst e.1)

/-- A text that is neither taken for the number of a branch nor for the ending of a list. -/
def IsWord (text : Text) : Prop :=
  text ≠ [] ∧ (∀ c ∈ text.head?, c.isDigit = false) ∧ ∀ c ∈ ("sS" : Text), text ≠ [c]

instance (text : Text) : Decidable (IsWord text) :=
  inferInstanceAs (Decidable (_ ∧ _ ∧ _))

/-- Every property begins with a word, and none like another. References have no names of their
own. -/
def Distinguished (declared : List (Text × Declaration)) : Prop :=
  ∀ e ∈ declared, e.2.schema.isReference = false → IsWord (propertyStem e) ∧
    ∀ e' ∈ declared, e'.2.schema.isReference = false →
      propertyStem e <+: propertyStem e' → e.1 = e'.1

instance (declared : List (Text × Declaration)) : Decidable (Distinguished declared) :=
  inferInstanceAs (Decidable (∀ e ∈ declared, _ → _ ∧ _))

mutual

/-- Whether no property of an object begins like another and no list stands directly in a list,
everywhere inside a schema. References are not followed. -/
def Schema.isTidy : Schema → Bool
  | .object _ required properties none =>
    decide (Distinguished (declarations required properties)) && tidyProperties properties
  | .array _ _ (some items) => !items.isInlineList && items.isTidy
  | .union _ _ branches => tidyBranches branches
  | _ => true

def tidyProperties : List (Text × Schema) → Bool
  | [] => true
  | (_, schema) :: rest => schema.isTidy && tidyProperties rest

def tidyBranches : List Schema → Bool
  | [] => true
  | branch :: rest => branch.isTidy && tidyBranches rest

end

theorem isTidy_of_tidyProperties {properties : List (Text × Schema)}
    (tidy : tidyProperties properties = true) : ∀ e ∈ properties, e.2.isTidy = true := by
  induction properties with
  | nil => simp
  | cons e rest ih =>
    obtain ⟨key, schema⟩ := e
    rw [tidyProperties, Bool.and_eq_true] at tidy
    exact List.forall_mem_cons.2 ⟨tidy.1, ih tidy.2⟩

theorem isTidy_of_tidyBranches {branches : List Schema} (tidy : tidyBranches branches = true) :
    ∀ branch ∈ branches, branch.isTidy = true := by
  induction branches with
  | nil => simp
  | cons branch rest ih =>
    rw [tidyBranches, Bool.and_eq_true] at tidy
    exact List.forall_mem_cons.2 ⟨tidy.1, ih tidy.2⟩

/-- Tidiness of what an object or a branch declares. -/
structure TidyParts (declared : List (Text × Declaration)) : Prop where
  distinguished : Distinguished declared
  parts : ∀ e ∈ declared, e.2.schema.isTidy = true

theorem TidyParts.isTidy {declared : List (Text × Declaration)} {part : Declaration}
    (tidy : TidyParts declared) (found : (OrderedMap.ofList declared).get? key = some part) :
    part.schema.isTidy = true :=
  tidy.parts _ (OrderedMap.mem_of_get?_ofList found)

theorem tidyParts_of_object {notes : Notes} {required : List Text}
    {properties : List (Text × Schema)}
    (tidy : (Schema.object notes required properties none).isTidy = true) :
    TidyParts (declarations required properties) := by
  rw [Schema.isTidy, Bool.and_eq_true, decide_eq_true_eq] at tidy
  refine ⟨tidy.1, ?_⟩
  intro e listed
  obtain ⟨property, found, rfl⟩ := List.mem_map.1 listed
  exact isTidy_of_tidyProperties tidy.2 property found

/-- All named schemas are tidy. -/
def TidyComponents (components : OrderedMap Schema) : Prop :=
  ∀ e ∈ components.entries, e.2.isTidy = true

instance (components : OrderedMap Schema) : Decidable (TidyComponents components) :=
  inferInstanceAs (Decidable (∀ e ∈ components.entries, _))

theorem tidyParts_of_branch (known : TidyComponents components) {branch : Schema}
    (tidy : branch.isTidy = true) : TidyParts (branchDeclarations components branch) := by
  have none : TidyParts [] := ⟨by simp [Distinguished], by simp⟩
  unfold branchDeclarations
  split
  · exact tidyParts_of_object tidy
  · split
    · rename_i found
      exact tidyParts_of_object (known _ (OrderedMap.get?_eq_some_iff.1 found))
    · exact none
  · exact none

theorem tidyParts_of_union (known : TidyComponents components) {kind : UnionKind}
    {description : Option Text} {branches : List Schema} {i : Nat} {branch : Schema}
    (tidy : (Schema.union kind description branches).isTidy = true)
    (listed : branches[i]? = some branch) : TidyParts (branchDeclarations components branch) := by
  rw [Schema.isTidy] at tidy
  exact tidyParts_of_branch known (isTidy_of_tidyBranches tidy _ (List.mem_of_getElem? listed))

theorem isTidy_items {notes : Notes} {length : LengthRange} {items : Schema}
    (tidy : (Schema.array notes length (some items)).isTidy = true) :
    items.isInlineList = false ∧ items.isTidy = true := by
  rw [Schema.isTidy, Bool.and_eq_true, Bool.not_eq_true'] at tidy
  exact tidy

/-! Names of different places. -/

section Unique

variable {declared : List (Text × Declaration)} {part part' : Declaration} {key' : Text}

theorem TidyParts.begins (tidy : TidyParts declared)
    (found : (OrderedMap.ofList declared).get? key = some part)
    (inline : part.schema.isReference = false)
    (below : part.schema.stem (Naming.partName enclosing key) <+: entry) :
    IsWord (propertyStem (key, part)) ∧ enclosing ++ propertyStem (key, part) <+: entry := by
  obtain ⟨word, -⟩ := tidy.distinguished _ (OrderedMap.mem_of_get?_ofList found) inline
  rw [Naming.partName, Schema.stem_append enclosing word.1] at below
  exact ⟨word, below⟩

theorem Entered.begins (known : TidyComponents components)
    (entered : Entered components name schema path entry) (tidy : schema.isTidy = true) :
    schema.stem name <+: entry := by
  induction entered with
  | @own name schema inline =>
    rw [entryName_eq, Schema.stem]
    split
    · obtain ⟨c, -, plural⟩ := Naming.container_eq name
      rw [plural]
      exact List.prefix_append _ _
    · exact List.prefix_refl _
  | property declared below ih =>
    have parts := tidyParts_of_object tidy
    have inPart := ih (parts.isTidy declared)
    exact (List.prefix_append _ _).trans (parts.begins declared below.inline inPart).2
  | @items name entry notes length items rest below ih =>
    obtain ⟨single, tidyItems⟩ := isTidy_items tidy
    have inItems := ih tidyItems
    rw [Schema.stem, if_neg (by simp [single])] at inItems
    rw [Schema.stem, if_pos (by simp [Schema.isInlineList, below.inline])]
    exact inItems
  | branch listed declared below ih =>
    have parts := tidyParts_of_union known tidy listed
    have inPart := ih (parts.isTidy declared)
    have inBranch := (parts.begins declared below.inline inPart).2
    rw [List.append_assoc] at inBranch
    exact (List.prefix_append _ _).trans inBranch

theorem Entered.begins_property (known : TidyComponents components) (tidy : TidyParts declared)
    (found : (OrderedMap.ofList declared).get? key = some part)
    (below : Entered components (Naming.partName enclosing key) part.schema rest entry) :
    IsWord (propertyStem (key, part)) ∧ enclosing ++ propertyStem (key, part) <+: entry :=
  tidy.begins found below.inline (below.begins known (tidy.isTidy found))

theorem Entered.key_eq (known : TidyComponents components) (tidy : TidyParts declared)
    (found : (OrderedMap.ofList declared).get? key = some part)
    (found' : (OrderedMap.ofList declared).get? key' = some part')
    {rest' : List Step}
    (below : Entered components (Naming.partName enclosing key) part.schema rest entry)
    (below' : Entered components (Naming.partName enclosing key') part'.schema rest' entry) :
    key = key' := by
  have first := (begins_property known tidy found below).2
  have second := (begins_property known tidy found' below').2
  have apart := tidy.distinguished _ (OrderedMap.mem_of_get?_ofList found) below.inline
  have apart' := tidy.distinguished _ (OrderedMap.mem_of_get?_ofList found') below'.inline
  rcases List.prefix_or_prefix_of_prefix first second with longer | longer
  · exact apart.2 _ (OrderedMap.mem_of_get?_ofList found') below'.inline
      ((List.prefix_append_right_inj _).1 longer)
  · exact (apart'.2 _ (OrderedMap.mem_of_get?_ofList found) below.inline
      ((List.prefix_append_right_inj _).1 longer)).symm

theorem number_eq {m n : Nat} {word word' : Text} (isWord : IsWord word) (isWord' : IsWord word')
    (first : name ++ Text.ofNat m ++ word <+: entry)
    (second : name ++ Text.ofNat n ++ word' <+: entry) : m = n := by
  have ordered {m n : Nat} {word word' : Text} (isWord : IsWord word) (isWord' : IsWord word')
      (longer : name ++ Text.ofNat m ++ word <+: name ++ Text.ofNat n ++ word') : m = n := by
    rw [List.append_assoc, List.append_assoc, List.prefix_append_right_inj] at longer
    obtain ⟨nonempty, undigit, -⟩ := isWord
    obtain ⟨nonempty', undigit', -⟩ := isWord'
    obtain ⟨c, more, rfl⟩ := List.exists_cons_of_ne_nil nonempty
    obtain ⟨c', more', rfl⟩ := List.exists_cons_of_ne_nil nonempty'
    exact Text.ofNat_inj.1 (Text.eq_of_append_cons_prefix CodePoint.isDigit
      (fun _ => Text.isDigit_of_mem_ofNat) (fun _ => Text.isDigit_of_mem_ofNat) (undigit c rfl)
      (undigit' c' rfl) longer).1
  rcases List.prefix_or_prefix_of_prefix first second with longer | longer
  · exact ordered isWord isWord' longer
  · exact (ordered isWord' isWord longer).symm

theorem Entered.ne_plural (known : TidyComponents components)
    (entered : Entered components name schema path entry) (tidy : schema.isTidy = true)
    (single : schema.isInlineList = false) {c : CodePoint} (plural : c ∈ ("sS" : Text)) :
    entry ≠ name ++ [c] := by
  intro same
  cases entered with
  | own inline => simp [entryName_eq, single] at same
  | property declared below =>
    obtain ⟨⟨nonempty, -, unending⟩, longer⟩ :=
      begins_property known (tidyParts_of_object tidy) declared below
    rw [same, List.prefix_append_right_inj] at longer
    have long := List.length_pos_of_ne_nil nonempty
    exact unending c plural (longer.eq_of_length_le long)
  | items below => simp [Schema.isInlineList, below.inline] at single
  | @branch _ _ _ _ _ _ i _ _ _ listed declared below =>
    obtain ⟨⟨nonempty, -⟩, longer⟩ :=
      begins_property known (tidyParts_of_union known tidy listed) declared below
    -- a number and a word are more than one letter
    rw [same, List.append_assoc, List.prefix_append_right_inj] at longer
    have long := List.length_pos_of_ne_nil nonempty
    have number := List.length_pos_of_ne_nil (Text.ofNat_ne_nil (1 + i))
    have short := longer.length_le
    rw [List.length_append] at short
    change (Text.ofNat (1 + i)).length + _ ≤ 1 at short
    omega

theorem Entered.path_eq_nil (known : TidyComponents components)
    (entered : Entered components name schema path entry) (tidy : schema.isTidy = true)
    (own : entry = entryName name schema) : path = [] := by
  cases entered with
  | own inline => rfl
  | property declared below =>
    obtain ⟨⟨nonempty, -⟩, longer⟩ :=
      begins_property known (tidyParts_of_object tidy) declared below
    have same := (List.prefix_append name _).eq_of_length_le (own ▸ longer.length_le)
    exact absurd (List.self_eq_append_right.1 same) nonempty
  | items below =>
    rw [entryName_eq, if_pos (by simp [Schema.isInlineList, below.inline])] at own
    obtain ⟨single, tidyItems⟩ := isTidy_items tidy
    obtain ⟨c, plural, longer⟩ := Naming.container_eq name
    exact absurd (own.trans longer) (below.ne_plural known tidyItems single plural)
  | branch listed declared below =>
    obtain ⟨⟨nonempty, -⟩, longer⟩ :=
      begins_property known (tidyParts_of_union known tidy listed) declared below
    rw [List.append_assoc] at longer
    have same := (List.prefix_append name _).eq_of_length_le (own ▸ longer.length_le)
    exact absurd (List.append_eq_nil_iff.1 (List.self_eq_append_right.1 same)).2 nonempty

theorem Entered.path_eq (known : TidyComponents components)
    (entered : Entered components name schema path entry) (tidy : schema.isTidy = true)
    {path' : List Step} (other : Entered components name schema path' entry) : path = path' := by
  induction entered generalizing path' with
  | own inline => exact (other.path_eq_nil known tidy rfl).symm
  | property declared below ih =>
    have parts := tidyParts_of_object tidy
    cases other with
    | own => exact path_eq_nil known (.property declared below) tidy rfl
    | property declared' below' =>
      obtain rfl := key_eq known parts declared declared' below below'
      obtain rfl := Option.some.inj (declared.symm.trans declared')
      rw [ih (parts.isTidy declared) below']
  | items below ih =>
    cases other with
    | own => exact path_eq_nil known (.items below) tidy rfl
    | items below' => rw [ih (isTidy_items tidy).2 below']
  | branch listed declared below ih =>
    cases other with
    | own => exact path_eq_nil known (.branch listed declared below) tidy rfl
    | branch listed' declared' below' =>
      have parts := tidyParts_of_union known tidy listed
      have parts' := tidyParts_of_union known tidy listed'
      obtain ⟨word, begins⟩ := begins_property known parts declared below
      obtain ⟨word', begins'⟩ := begins_property known parts' declared' below'
      obtain rfl := Nat.add_left_cancel (number_eq word word' begins begins')
      obtain rfl := Option.some.inj (listed.symm.trans listed')
      obtain rfl := key_eq known parts declared declared' below below'
      obtain rfl := Option.some.inj (declared.symm.trans declared')
      rw [ih (parts.isTidy declared) below']

end Unique

/-- A run that succeeds enters every part of the schema once, under the name made from its place,
and nothing else. So it writes no name twice exactly if no two places have one name, and none if the
schema and the named schemas are tidy. -/
theorem names_of_places {type : Text} (accepted : (lower context name schema).result = .ok type) :
    Charts (lower context name schema).trace (Entered context.components name schema) ∧
      (((lower context name schema).trace.filterMap Effect.name?).Nodup ↔
        ∀ path path' entry, Entered context.components name schema path entry →
          Entered context.components name schema path' entry → path = path') ∧
      (schema.isTidy = true → TidyComponents context.components →
        ((lower context name schema).trace.filterMap Effect.name?).Nodup) := by
  have charted : Charts (lower context name schema).trace
      (Entered context.components name schema) :=
    charts_lowerSchema (crossCharts_crossing context _) schema name _ type (result_of_eq accepted)
  refine ⟨charted, charted.nodup_iff, ?_⟩
  intro tidy known
  rw [charted.nodup_iff]
  intro path path' entry here there
  exact here.path_eq known tidy there

/-- Lists, branches and a named schema behind one of them. -/
theorem names_of_places_drawing :
    (lower shapes "Drawing" drawing).result = .ok ("Drawing" : Text) ∧ drawing.isTidy = true ∧
      TidyComponents shapes.components ∧
      ((lower shapes "Drawing" drawing).trace.filterMap Effect.name?).Nodup := by
  have accepted : (lower shapes "Drawing" drawing).result = .ok ("Drawing" : Text) := by
    decide +kernel
  have tidy : drawing.isTidy = true := by decide +kernel
  have known : TidyComponents shapes.components := by decide +kernel
  exact ⟨accepted, tidy, known, (names_of_places accepted).2.2 tidy known⟩

/-- The parents of both names are named uniquely, but concatenation does not tell them apart. -/
theorem names_of_places_order :
    (lower ⟨default, .empty⟩ "Order" order).result = .ok ("Order" : Text) ∧
      Entered .empty "Order" order [.property "user", .property "id"] "OrderUserId" ∧
      Entered .empty "Order" order [.property "userId"] "OrderUserId" ∧
      ¬ ((lower ⟨default, .empty⟩ "Order" order).trace.filterMap Effect.name?).Nodup := by
  refine ⟨rfl, .property rfl (.property rfl (.own rfl)), .property rfl (.own rfl), ?_⟩
  decide +kernel

end ApiModel

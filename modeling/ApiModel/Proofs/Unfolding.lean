import ApiModel.Proofs.CommittedTypes
import ApiModel.Proofs.PartNames
import Mathlib.Data.List.TFAE
import Mathlib.Logic.Relation
import Mathlib.Tactic.TFAE

/-! Types as trees. A type mentions the types of its parts, and these mention others in turn. For a
schema without references this comes to an end, unless the naming of lists leads back: the names of
parts begin like the name of the whole, but for the letter that tells a list from its elements. -/
namespace ApiModel

open Compile
open Naming (root isEnding)
open Relation (TransGen ReflTransGen)

/-! The names of entries. -/

theorem root_entryName (name : Text) (schema : Schema) :
    root (entryName name schema) = root name := by
  rw [entryName_eq]
  split
  · rw [Naming.root_container, Naming.root_element]
  · rfl

theorem entryName_eq_or (name : Text) (schema : Schema) :
    entryName name schema = name ∨ entryName name schema = name ++ "s" := by
  rw [entryName_eq]
  split
  · exact Naming.container_eq_or name
  · exact .inl rfl

/-! The schemas inside a schema. -/

mutual

def Schema.parts : Schema → List Schema
  | .array notes length (some items) => .array notes length (some items) :: items.parts
  | .object notes required properties none =>
    .object notes required properties none :: propertyParts properties
  | .object notes required properties (some values) =>
    .object notes required properties (some values) :: (propertyParts properties ++ values.parts)
  | .union kind description branches => .union kind description branches :: branchParts branches
  | schema => [schema]

def propertyParts : List (Text × Schema) → List Schema
  | [] => []
  | (_, schema) :: rest => schema.parts ++ propertyParts rest

def branchParts : List Schema → List Schema
  | [] => []
  | branch :: rest => branch.parts ++ branchParts rest

end

namespace Schema

variable {notes : Notes} {required : List Text} {properties : List (Text × Schema)}
  {additional : Option Schema} {kind : UnionKind} {description : Option Text}
  {branches : List Schema}
  {length : LengthRange} {schema branch items : Schema} {entry : Text × Schema}

theorem self_mem_parts (schema : Schema) : schema ∈ schema.parts := by
  cases schema with
  | array notes length items => cases items <;> simp [parts]
  | object notes required properties additional => cases additional <;> simp [parts]
  | _ => simp [parts]

theorem propertyParts_eq_flatMap (properties : List (Text × Schema)) :
    propertyParts properties = properties.flatMap fun e => e.2.parts := by
  induction properties with
  | nil => rfl
  | cons first rest ih => rw [propertyParts, ih, List.flatMap_cons]

theorem branchParts_eq_flatMap (branches : List Schema) :
    branchParts branches = branches.flatMap parts := by
  induction branches with
  | nil => rfl
  | cons first rest ih => rw [branchParts, ih, List.flatMap_cons]

theorem parts_property (listed : entry ∈ properties) :
    entry.2.parts ⊆ (object notes required properties additional).parts := by
  have among : entry.2.parts ⊆ propertyParts properties := by
    rw [propertyParts_eq_flatMap]
    exact fun part inner => List.mem_flatMap.2 ⟨entry, listed, inner⟩
  cases additional with
  | none =>
    rw [parts]
    exact List.subset_cons_of_subset _ among
  | some values =>
    rw [parts]
    exact List.subset_cons_of_subset _ (List.subset_append_of_subset_left _ among)

theorem parts_items : items.parts ⊆ (array notes length (some items)).parts := by
  rw [parts]
  exact List.subset_cons_self _ _

theorem parts_values {values : Schema} :
    values.parts ⊆ (object notes required properties (some values)).parts := by
  rw [parts]
  exact List.subset_cons_of_subset _ (List.subset_append_right _ _)

theorem parts_branch (listed : branch ∈ branches) :
    branch.parts ⊆ (union kind description branches).parts := by
  rw [parts, branchParts_eq_flatMap]
  exact List.subset_cons_of_subset _ fun part inner => List.mem_flatMap.2 ⟨branch, listed, inner⟩

def hasWords : Schema → Bool
  | object _ _ properties _ =>
    properties.all fun e => (Text.upperFirst e.1).any fun c => !isEnding c
  | _ => true

def isNested : Schema → Bool
  | array _ _ (some items) => items.isInlineList
  | _ => false

end Schema

/-! How the names of parts are made. -/

/-- The type of a member is named after the structure. -/
inductive MemberName (known : Schema → Prop) (name : Text) : Text → Prop where
  | property {key : Text} {notes : Notes} {required : List Text} {properties : List (Text × Schema)}
      {part : Schema} (declaring : known (.object notes required properties none))
      (listed : (key, part) ∈ properties) :
      MemberName known name (entryName (Naming.partName name key) part)
  | branch {key : Text} {n : Nat} {part : Schema} :
      MemberName known name (entryName (Naming.partName (name ++ toString n) key) part)

/-- The elements of a list are named after it. -/
inductive ElementName (known : Schema → Prop) : Text → Text → Prop where
  | items {name : Text} {notes : Notes} {length : LengthRange} {items : Schema}
      (declaring : known (.array notes length (some items))) :
      ElementName known (Naming.listNames name).container
        (entryName (Naming.listNames name).element items)

/-- Entries whose parts are named after them. -/
def Effect.NamesParts (known : Schema → Prop) : Effect → Prop
  | .structure name s => ∀ type ∈ (Effect.structure name s).mentions, MemberName known name type
  | .field name (.list element _) => ElementName known name element
  | .field _ f => ∀ type ∈ f.referred, isBuiltin type = true
  | .notice _ => True

section Runs

variable {context : Context} {known : Schema → Prop} {schema : Schema} {name type enclosing : Text}
  {trace : List Effect} {members : List (Text × Member)}

theorem namesParts_of_unlisted {f : Field} (builtin : ∀ type ∈ f.referred, isBuiltin type = true)
    (unlisted : ∀ element length, f ≠ .list element length) :
    (Effect.field name f).NamesParts known := by
  cases f with
  | list element length => exact absurd rfl (unlisted element length)
  | _ => exact builtin

/-- What lowering promises of one schema, for any name and any run. -/
def LowersNaming (context : Context) (known : Schema → Prop) (schema : Schema) : Prop :=
  ∀ name type trace, lower context name schema = ⟨trace, .ok type⟩ → ∀ e ∈ trace, e.NamesParts known

theorem namesParts_of_gathered {required : List Text} {properties : List (Text × Schema)}
    (ih : ∀ entry ∈ properties, LowersNaming context known entry.2)
    (plain : ∀ entry ∈ properties, entry.2.isReference = false)
    (gathered :
      Gathered (lowerProperties context.override context.cross enclosing required properties)
      trace members) :
    (∀ e ∈ trace, e.NamesParts known) ∧ ∀ key member, (key, member) ∈ members →
      ∃ part, (key, part) ∈ properties ∧
        member.valueType = entryName (Naming.partName enclosing key) part := by
  constructor
  · intro e effect
    obtain ⟨entry, listed, sub, type, run, -, part⟩ := effect_of_gathered gathered effect
    exact ih entry listed _ _ _ run e part
  · intro key member listed
    obtain ⟨part, declared, typed, -⟩ := member_of_gathered gathered listed
    have property := OrderedMap.mem_of_get?_ofList declared
    refine ⟨part, property, ?_⟩
    have inline := plain _ property
    generalize member.valueType = type at typed
    cases typed with
    | named => cases inline
    | lowered _ run _ => exact (ownEntry_of_lower inline run).1

theorem namesParts_of_branches {n : Nat} {branches : List Schema}
    (ih : ∀ notes required properties, .object notes required properties none ∈ branches →
      ∀ entry ∈ properties, LowersNaming context known entry.2)
    (plain : ∀ branch ∈ branches, ∀ part ∈ branch.parts, part.isReference = false)
    (lowered : LoweredBranches context.override context.cross name n branches trace members) :
    (∀ e ∈ trace, e.NamesParts known) ∧
      ∀ key member, (key, member) ∈ members → MemberName known name member.valueType := by
  induction lowered with
  | nil => simp
  | named crossed others induction =>
    have inline := plain _ List.mem_cons_self _ (Schema.self_mem_parts _)
    cases inline
  | inline gathered others induction =>
    obtain ⟨named, made⟩ := namesParts_of_gathered (ih _ _ _ List.mem_cons_self)
      (fun entry listed => plain _ List.mem_cons_self _
        (Schema.parts_property listed (Schema.self_mem_parts _))) gathered
    obtain ⟨named', made'⟩ := induction
      (fun notes required properties listed =>
        ih notes required properties (List.mem_cons_of_mem _ listed))
      (fun branch listed => plain branch (List.mem_cons_of_mem _ listed))
    constructor
    · intro e effect
      exact (List.mem_append.1 effect).elim (named e) (named' e)
    · intro key member listed
      rcases List.mem_append.1 listed with here | there
      · obtain ⟨part, -, same⟩ := made key member here
        rw [same]
        exact .branch
      · exact made' key member there

theorem namesParts_append {e : Effect} {notice : Notice} (parts : ∀ e ∈ trace, e.NamesParts known)
    (own : e.NamesParts known) : ∀ e' ∈ trace ++ [e, .notice notice], e'.NamesParts known := by
  intro e' effect
  simp only [List.mem_append, List.mem_cons, List.not_mem_nil, or_false] at effect
  rcases effect with effect | rfl | rfl
  · exact parts e' effect
  · exact own
  · trivial

theorem namesParts_of_lower (schema : Schema) :
    (∀ part ∈ schema.parts, part.isReference = false) → (∀ part ∈ schema.parts, known part) →
      LowersNaming context known schema := by
  induction schema using Schema.sizeInduction with
  | step schema ih =>
    intro plain all name type trace run
    have none : ∀ e ∈ ([] : List Effect), e.NamesParts known := by simp
    cases lowered_of_eq_ok run with
    | primitive made =>
      apply namesParts_append none
      have bare := referred_primitiveField? made
      apply namesParts_of_unlisted
      · simp [bare]
      · rintro element length rfl
        cases bare
    | map found =>
      apply namesParts_append none
      have inline := plain _ (Schema.parts_values (Schema.self_mem_parts _))
      unfold mapValueType? at found
      split at found
      · cases found
        exact namesParts_of_unlisted (by decide) (by simp)
      · cases inline
      · cases found
    | object gathered =>
      obtain ⟨named, made⟩ := namesParts_of_gathered
        (fun entry listed => ih entry.2 (Schema.sizeOf_property listed)
          (fun part inner => plain part (Schema.parts_property listed inner))
          fun part inner => all part (Schema.parts_property listed inner))
        (fun entry listed =>
          plain _ (Schema.parts_property listed (Schema.self_mem_parts _))) gathered
      apply namesParts_append named
      refine forall_mentions ?_ fun _ _ => taken_structureOf
      intro key member listed
      obtain ⟨part, declared, same⟩ := made key member listed
      rw [same]
      exact .property (all _ (Schema.self_mem_parts _)) declared
    | listOfNamed =>
      have inline := plain _ (Schema.parts_items (Schema.self_mem_parts _))
      cases inline
    | list inline lowered =>
      have named :=
        ih _ Schema.sizeOf_items (fun part inner => plain part (Schema.parts_items inner))
        (fun part inner => all part (Schema.parts_items inner)) _ _ _ lowered
      apply namesParts_append named
      rw [(ownEntry_of_lower inline lowered).1]
      exact .items (all _ (Schema.self_mem_parts _))
    | union lowered =>
      obtain ⟨named, made⟩ := namesParts_of_branches
        (fun notes required properties branch entry listed =>
          ih entry.2 (Schema.sizeOf_branchProperty branch listed)
            (fun part inner =>
              plain part (Schema.parts_branch branch (Schema.parts_property listed inner)))
            fun part inner =>
              all part (Schema.parts_branch branch (Schema.parts_property listed inner)))
        (fun branch listed part inner => plain part (Schema.parts_branch listed inner)) lowered
      apply namesParts_append named
      exact forall_mentions made fun _ _ => taken_renumber
    | reference =>
      have inline := plain _ (Schema.self_mem_parts _)
      cases inline

end Runs

/-! Types and the types that they mention. -/

def TypeEntry.mentions : TypeEntry → List Text
  | .field f => f.referred
  | .structure s => s.members.values.map Member.valueType

namespace Registry

variable {r : Registry} {known : Schema → Prop} {type part whole : Text}

/-- The entry of a type refers to another one, which is not built in. -/
def Mentions (r : Registry) (type part : Text) : Prop :=
  isBuiltin part = false ∧ ∃ entry, r.lookup type = some entry ∧ part ∈ entry.mentions

def Reaches (r : Registry) : Text → Text → Prop := ReflTransGen r.Mentions

/-- A type with a finite unfolding: all types that it mentions have one. -/
def Unfolds (r : Registry) : Text → Prop := Acc fun part whole => r.Mentions whole part

theorem Unfolds.of_reaches (h : r.Unfolds type) (path : r.Reaches type part) : r.Unfolds part := by
  induction path with
  | refl => exact h
  | tail _ step ih => exact ih.inv step

theorem Unfolds.acyclic (h : r.Unfolds type) : ¬ TransGen r.Mentions type type := by
  induction h with
  | intro type _ ih =>
    intro cycle
    obtain ⟨next, step, back⟩ := TransGen.head'_iff.1 cycle
    exact ih next step (TransGen.tail' back step)

/-- Where a type cannot be left again and again, it unfolds unless it leads to one that mentions
itself. -/
theorem unfolds_of_irreflexive
    (founded : WellFounded fun part whole => r.Mentions whole part ∧ part ≠ whole)
    (type : Text) (irreflexive : ∀ part, r.Reaches type part → ¬ r.Mentions part part) :
    r.Unfolds type := by
  induction type using founded.induction with
  | _ type ih =>
    constructor
    intro part step
    have proper : part ≠ type := by
      rintro rfl
      exact irreflexive part .refl step
    exact ih part ⟨step, proper⟩ fun later path => irreflexive later (.head step path)

/-- Every entry names its parts after itself. -/
def NamesParts (r : Registry) (known : Schema → Prop) : Prop :=
  ∀ e, r.Holds e → e.NamesParts known

theorem NamesParts.cases (named : r.NamesParts known) (h : r.Mentions whole part) :
    (∃ length, r.fields.get? whole = some (.list part length) ∧ ElementName known whole part) ∨
      MemberName known whole part := by
  obtain ⟨foreign, entry, found, mentioned⟩ := h
  unfold lookup at found
  cases field : r.fields.get? whole with
  | some f =>
    rw [field] at found
    cases found
    have parts := named (.field whole f) field
    cases f with
    | list element length =>
      obtain rfl := List.mem_singleton.1 mentioned
      exact .inl ⟨length, rfl, parts⟩
    | map key value length =>
      rw [parts part mentioned] at foreign
      cases foreign
    | _ => cases mentioned
  | none =>
    rw [field] at found
    obtain ⟨s, held, rfl⟩ := Option.map_eq_some_iff.1 found
    exact .inr (named (.structure whole s) held part mentioned)

end Registry

section Names

variable {known : Schema → Prop} {whole part : Text}

theorem MemberName.prefix_root (h : MemberName known whole part) : root whole <+: root part := by
  cases h with
  | property declaring listed =>
    rw [root_entryName, Naming.partName]
    exact Naming.prefix_root_append _ _
  | branch =>
    rw [root_entryName, Naming.partName, List.append_assoc]
    exact Naming.prefix_root_append _ _

theorem isEnding_of_isDigit {c : CodePoint} (digit : c.isDigit = true) : isEnding c = false := by
  apply decide_eq_false
  intro ending
  rcases Naming.eq_or_of_ending ending with rfl | rfl
  · cases digit
  · cases digit

theorem MemberName.length_root_lt (words : ∀ schema, known schema → schema.hasWords = true)
    (h : MemberName known whole part) : (root whole).length < (root part).length := by
  cases h with
  | @property key _ _ _ _ declaring listed =>
    have lasting := words _ declaring
    obtain ⟨c, inKey, other⟩ := List.any_eq_true.1 (List.all_eq_true.1 lasting _ listed)
    rw [root_entryName, Naming.partName]
    exact Naming.length_root_lt inKey (by simpa using other)
  | @branch key n _ =>
    -- the number of the branch makes the difference, whatever the key is
    obtain ⟨c, digits, number⟩ := List.exists_cons_of_ne_nil (Text.ofNat_ne_nil n)
    have first : c ∈ Text.ofNat n := number ▸ List.mem_cons_self
    have digit := Text.isDigit_of_mem_ofNat first
    rw [root_entryName, Naming.partName, List.append_assoc]
    exact Naming.length_root_lt (List.mem_append_left _ first) (isEnding_of_isDigit digit)

theorem ElementName.cases (h : ElementName known whole part) :
    ∃ front, ∃ c ∈ ("sS" : Text), whole = front ++ [c] ∧ (part = front ∨ part = front ++ "s") := by
  cases h with
  | @items name _ _ items declaring =>
    obtain ⟨c, ending, plural⟩ := Naming.container_eq name
    exact ⟨_, c, ending, plural, entryName_eq_or _ items⟩

theorem ElementName.root_eq (h : ElementName known whole part) : root part = root whole := by
  cases h with
  | items declaring => rw [root_entryName, Naming.root_container]

theorem ElementName.isBuiltin_eq (h : ElementName known whole part) : isBuiltin whole = false := by
  obtain ⟨front, c, ending, rfl, -⟩ := h.cases
  have singular : ∀ name ∈ builtinNames, ∀ last ∈ name.getLast?, last ∉ ("sS" : Text) := by decide
  cases builtin : isBuiltin (front ++ [c]) with
  | false => rfl
  | true =>
    have listed : front ++ [c] ∈ builtinNames := List.contains_iff_mem.1 builtin
    exact absurd ending (singular _ listed c List.getLast?_concat)

theorem ElementName.ne (single : ∀ schema, known schema → schema.isNested = false)
    (h : ElementName known whole part) : part ≠ whole := by
  cases h with
  | @items name _ _ items declaring =>
    have flat : items.isInlineList = false := single _ declaring
    obtain ⟨c, -, plural⟩ := Naming.container_eq name
    rw [entryName_eq, if_neg (by simp [flat]), plural]
    intro same
    have longer := congrArg List.length same
    simp at longer

/-- What becomes less from a type to the types that it mentions: what is missing of the longest
root, then the length. A capital ending counts more than a small one. -/
def Naming.weight (longest : Nat) (name : Text) : Nat × Nat :=
  (longest + 1 - (root name).length,
    2 * name.length + if name.getLast? = some (.char 'S') then 1 else 0)

theorem weight_of_member {longest : Nat} (words : ∀ schema, known schema → schema.hasWords = true)
    (short : whole.length ≤ longest) (h : MemberName known whole part) :
    Prod.Lex (· < ·) (· < ·) (Naming.weight longest part) (Naming.weight longest whole) := by
  apply Prod.Lex.left
  have longer := h.length_root_lt words
  have shorter : (root whole).length ≤ whole.length := (List.rdropWhile_prefix _ _).length_le
  omega

theorem weight_of_element {longest : Nat} (proper : part ≠ whole)
    (h : ElementName known whole part) :
    Prod.Lex (· < ·) (· < ·) (Naming.weight longest part) (Naming.weight longest whole) := by
  rw [Prod.lex_def]
  refine .inr ⟨by simp only [Naming.weight, h.root_eq], ?_⟩
  obtain ⟨front, c, ending, rfl, rfl | rfl⟩ := h.cases
  · simp only [Naming.weight, List.length_append, List.length_singleton]
    split <;> omega
  · -- the names differ in their last letter, so the one of the list is a capital
    rcases Naming.eq_or_of_ending ending with rfl | rfl
    · exact absurd rfl proper
    · have small : (front ++ ("s" : Text)).getLast? = some (.char 's') := List.getLast?_concat
      have length : (front ++ ("s" : Text)).length = front.length + 1 := List.length_append
      unfold Naming.weight
      dsimp only
      rw [small, length, List.getLast?_concat, List.length_append, List.length_singleton,
        if_neg (by decide), if_pos rfl]
      omega

end Names

namespace Registry.NamesParts

variable {r : Registry} {known : Schema → Prop} {whole part : Text}

theorem prefix_root (named : r.NamesParts known) (path : r.Reaches whole part) :
    root whole <+: root part := by
  induction path with
  | refl => exact List.prefix_refl _
  | tail _ step ih =>
    rcases named.cases step with ⟨_, _, element⟩ | member
    · rw [element.root_eq]
      exact ih
    · exact ih.trans member.prefix_root

theorem founded (named : r.NamesParts known)
    (words : ∀ schema, known schema → schema.hasWords = true) :
    WellFounded fun part whole => r.Mentions whole part ∧ part ≠ whole := by
  let names := r.fields.keys ++ r.structures.keys
  have short {name : Text} (defined : r.Defines name) : name.length ≤ names.flatten.length :=
    (List.sublist_flatten_of_mem (List.mem_append.2 defined)).length_le
  have lex : WellFounded (Prod.Lex (· < ·) (· < ·) : Nat × Nat → Nat × Nat → Prop) :=
    (Prod.lex ⟨_, Nat.lt_wfRel.wf⟩ ⟨_, Nat.lt_wfRel.wf⟩).wf
  refine Subrelation.wf ?_ (InvImage.wf (Naming.weight names.flatten.length) lex)
  rintro part whole ⟨step, proper⟩
  rcases named.cases step with ⟨_, _, element⟩ | member
  · exact weight_of_element proper element
  · obtain ⟨-, entry, found, -⟩ := step
    exact weight_of_member words (short (defines_iff_lookup.2 ⟨entry, found⟩)) member

theorem list_of_self (named : r.NamesParts known)
    (words : ∀ schema, known schema → schema.hasWords = true)
    (self : r.Mentions whole whole) :
    ∃ length, r.fields.get? whole = some (.list whole length) := by
  rcases named.cases self with ⟨length, found, -⟩ | member
  · exact ⟨length, found⟩
  · exact absurd (member.length_root_lt words) (Nat.lt_irrefl _)

theorem elementName (named : r.NamesParts known) {length : LengthRange}
    (found : r.fields.get? whole = some (.list part length)) : ElementName known whole part :=
  named (.field whole (.list part length)) found

theorem mentions_of_list (named : r.NamesParts known) {length : LengthRange}
    (found : r.fields.get? whole = some (.list whole length)) : r.Mentions whole whole := by
  refine ⟨(named.elementName found).isBuiltin_eq, .field (.list whole length), ?_,
    List.mem_cons_self⟩
  simp [lookup, found]

end Registry.NamesParts

section Unfolding

variable {context : Context} {schema : Schema} {name type : Text}

theorem namesParts_scratch (plain : ∀ part ∈ schema.parts, part.isReference = false)
    (accepted : (lower context name schema).result = .ok type) :
    (scratch (lower context name schema)).NamesParts (· ∈ schema.parts) := by
  have named := namesParts_of_lower schema plain (fun _ listed => listed) name type _
    (result_of_eq accepted)
  intro e held
  by_cases write : e.name?.isSome = true
  · rcases Registry.mem_of_holds_applyAll write held with written | nothing
    · exact named e written
    · exact absurd nothing (Registry.not_holds_empty write)
  · cases e with
    | notice n => trivial
    | _ => exact absurd rfl write

/-- Types that a schema without references is lowered to lead round only among names that differ in
the endings of lists. If all properties are named by more than such endings, then the type of the
schema has a finite unfolding exactly if no list that it leads to is its own element; this is so if
no list stands directly in a list. -/
theorem types_unfold (plain : ∀ part ∈ schema.parts, part.isReference = false)
    (accepted : (lower context name schema).result = .ok type) :
    let r := scratch (lower context name schema)
    (∀ t u, r.Reaches t u → r.Reaches u t → root t = root u) ∧
      ((∀ part ∈ schema.parts, part.hasWords = true) →
        [r.Unfolds type,
          ∀ part, r.Reaches type part → ¬ TransGen r.Mentions part part,
          ∀ list element length, r.Reaches type list →
            r.fields.get? list = some (.list element length) → element ≠ list].TFAE ∧
        ((∀ part ∈ schema.parts, part.isNested = false) → r.Unfolds type)) := by
  intro r
  have named : r.NamesParts (· ∈ schema.parts) := namesParts_scratch plain accepted
  refine ⟨?_, fun words => ?_⟩
  · intro t u there back
    exact (named.prefix_root there).eq_of_length_le (named.prefix_root back).length_le
  have unfolds (proper : ∀ list element length, r.Reaches type list →
      r.fields.get? list = some (.list element length) → element ≠ list) : r.Unfolds type := by
    apply Registry.unfolds_of_irreflexive (named.founded words)
    intro part path self
    obtain ⟨length, found⟩ := named.list_of_self words self
    exact proper part part length path found rfl
  refine ⟨?_, fun single => ?_⟩
  · tfae_have 1 → 2 := fun finite part path => (finite.of_reaches path).acyclic
    tfae_have 2 → 3 := by
      rintro acyclic list element length path found rfl
      exact acyclic element path (.single (named.mentions_of_list found))
    tfae_have 3 → 1 := unfolds
    tfae_finish
  · apply unfolds
    intro list element length _ found
    exact (named.elementName found).ne single

def album : Schema :=
  .object default ["tracks"]
    [("tracks", .array default default (some (.object default []
        [("class", .string default default),
          ("discs", .array default default (some (.integer default default)))] none))),
      ("moods", .object default [] [] (some (.string default default))),
      ("cover", .union .oneOf none
        [.object default [] [("width", .number default default)] none,
          .object default [] [("address", .string default default)] none])] none

theorem types_unfold_album :
    (∀ part ∈ album.parts, part.isReference = false) ∧
      (lower ⟨default, .empty⟩ "Album" album).result = .ok ("Album" : Text) ∧
      (∀ part ∈ album.parts, part.hasWords = true) ∧ (∀ part ∈ album.parts, part.isNested = false) ∧
      (scratch (lower ⟨default, .empty⟩ "Album" album)).Unfolds "Album" := by
  have plain : ∀ part ∈ album.parts, part.isReference = false := by decide +kernel
  have accepted : (lower ⟨default, .empty⟩ "Album" album).result = .ok ("Album" : Text) := by
    decide +kernel
  have words : ∀ part ∈ album.parts, part.hasWords = true := by decide +kernel
  have single : ∀ part ∈ album.parts, part.isNested = false := by decide +kernel
  exact ⟨plain, accepted, words, single, ((types_unfold plain accepted).2 words).2 single⟩

def grid : Schema :=
  .array default default (some (.array default default (some (.integer default default))))

def rack : Schema :=
  .object default [] [("s", .array default default (some (.object default [] [] none)))] none

/-- The outer list of a grid takes the name of the inner one. The objects on a rack take the name of
the rack. -/
theorem cycles_of_grid_rack :
    (lower ⟨default, .empty⟩ "Grid" grid).result = .ok ("Grids" : Text) ∧
      (∀ part ∈ grid.parts, part.isReference = false) ∧
      TransGen (scratch (lower ⟨default, .empty⟩ "Grid" grid)).Mentions "Grids" "Grids" ∧
      (lower ⟨default, .empty⟩ "Rack" rack).result = .ok ("Rack" : Text) ∧
      (∀ part ∈ rack.parts, part.isReference = false) ∧
      TransGen (scratch (lower ⟨default, .empty⟩ "Rack" rack)).Mentions "Rack" "Rack" := by
  refine ⟨rfl, by decide +kernel, .single ⟨rfl, _, rfl, by decide +kernel⟩,
    rfl, by decide +kernel, ?_⟩
  have list : (scratch (lower ⟨default, .empty⟩ "Rack" rack)).Mentions "Rack" "RackS" :=
    ⟨rfl, _, rfl, by decide +kernel⟩
  have element : (scratch (lower ⟨default, .empty⟩ "Rack" rack)).Mentions "RackS" "Rack" :=
    ⟨rfl, _, rfl, by decide +kernel⟩
  exact .head list (.single element)

end Unfolding

end ApiModel

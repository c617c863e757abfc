import ApiModel.Proofs.ComponentOrder
import ApiModel.Proofs.EmittedName

/-! Colliding names. Which names are mapped, and to what, is read off the registries: the form that
they share, a word where the kinds differ, and a number where several names are of one kind. The
order in which types were registered plays no part. -/
namespace ApiModel

namespace OrderedMap

variable {α ι : Type} {key : Text}

theorem lookup_reverse_flatMap {l : List ι} {f : ι → List (Text × α)} {i : ι} (nodup : l.Nodup)
    (listed : i ∈ l) (only : ∀ j ∈ l, key ∈ (f j).map Prod.fst → j = i) :
    (l.flatMap f).reverse.lookup key = (f i).reverse.lookup key := by
  have absent (j : ι) (h : key ∉ (f j).map Prod.fst) : (f j).reverse.lookup key = none := by
    rw [List.lookup_eq_none_iff]
    intro e there
    rw [bne_iff_ne]
    rintro rfl
    exact h (List.mem_map_of_mem (List.mem_reverse.1 there))
  induction l with
  | nil => cases listed
  | cons j rest ih =>
    obtain ⟨fresh, distinct⟩ := List.nodup_cons.1 nodup
    rw [List.flatMap_cons, List.reverse_append, List.lookup_append]
    by_cases here : j = i
    · subst here
      have nothing : (rest.flatMap f).reverse.lookup key = none := by
        rw [List.lookup_eq_none_iff]
        intro e there
        obtain ⟨k, later, own⟩ := List.mem_flatMap.1 (List.mem_reverse.1 there)
        rw [bne_iff_ne]
        rintro rfl
        have same := only k (List.mem_cons_of_mem _ later) (List.mem_map_of_mem own)
        exact fresh (same ▸ later)
      rw [nothing, Option.none_or]
    · have further : i ∈ rest := (List.mem_cons.1 listed).resolve_left fun same => here same.symm
      rw [ih distinct further fun k later => only k (List.mem_cons_of_mem _ later),
        absent j fun own => here (only j List.mem_cons_self own), Option.or_none]

end OrderedMap

namespace EmittedName

variable {entries front back : List Entry} {form word a t number : Text}

theorem firstSeen_append {texts more : List Text} {last : Text} (fresh : last ∉ texts)
    (only : ∀ t ∈ more, t = last) (some : more ≠ []) :
    firstSeen (texts ++ more) = firstSeen texts ++ [last] := by
  have settled (seen : List Text) (known : last ∈ seen) (more : List Text)
      (only : ∀ t ∈ more, t = last) :
      more.foldl (fun seen t => if seen.contains t then seen else seen ++ [t]) seen = seen := by
    induction more with
    | nil => rfl
    | cons t rest ih =>
      rw [List.foldl_cons, only t List.mem_cons_self, if_pos (by simpa using known)]
      exact ih fun t listed => only t (List.mem_cons_of_mem _ listed)
  obtain ⟨t, rest, rfl⟩ := List.exists_cons_of_ne_nil some
  obtain rfl := only t List.mem_cons_self
  have unseen : t ∉ firstSeen texts := fun seen => fresh (mem_firstSeen.1 seen)
  unfold firstSeen at *
  rw [List.foldl_append, List.foldl_cons, if_neg (by simpa using unseen)]
  exact settled _ (by simp) rest fun t listed => only t (List.mem_cons_of_mem _ listed)

theorem number_of_numbered {names : List Text} (ascending : names.Pairwise (· < ·))
    (h : (a, number) ∈ numbered names) :
    number = if 2 ≤ names.length then Text.ofNat (rank names a + 1) else [] := by
  unfold numbered at h
  split at h
  · obtain ⟨rfl, rfl⟩ := Prod.mk.inj (List.mem_singleton.1 h)
    rfl
  · rename_i several
    obtain ⟨⟨_, i⟩, listed, same⟩ := List.mem_map.1 h
    cases same
    have place := List.mem_zipIdx_iff_getElem?.1 listed
    have long : 2 ≤ names.length := by
      cases names with
      | nil => simp at place
      | cons first rest =>
        cases rest with
        | nil => exact absurd rfl (several first)
        | cons second rest => simp
    rw [if_pos long, rank_of_pairwise ascending place]

theorem shownWord_eq (listed : word ∈ entries.map Entry.word) :
    shownWord entries word = if ∃ e ∈ entries, e.word ≠ word then word else [] := by
  by_cases mixed : ∃ e ∈ entries, e.word ≠ word
  · rw [if_pos mixed]
    obtain ⟨e, there, differ⟩ := mixed
    have seen := mem_firstSeen.2 listed
    have seen' := mem_firstSeen.2 (List.mem_map_of_mem (f := Entry.word) there)
    unfold shownWord
    rw [if_pos]
    generalize firstSeen (entries.map Entry.word) = words at *
    match words with
    | [only] =>
      exact absurd ((List.mem_singleton.1 seen').trans (List.mem_singleton.1 seen).symm) differ
    | _ :: _ :: _ => simp
  · rw [if_neg mixed]
    apply shownWord_of_only
    intro e there
    by_contra differ
    exact mixed ⟨e, there, differ⟩

theorem label_eq (listed : word ∈ entries.map Entry.word) :
    label form entries word number =
      if form = "String" ∧ ∀ e ∈ entries, e.word = "String" then ("String" : Text)
      else form ++ (if ∃ e ∈ entries, e.word ≠ word then word else []) ++ number := by
  have text : (word = "String" ∧ form = "String" ∧ shownWord entries word = []) ↔
      form = "String" ∧ ∀ e ∈ entries, e.word = "String" := by
    constructor
    · rintro ⟨rfl, ofForm, hidden⟩
      exact ⟨ofForm, only_of_shownWord listed (by decide) hidden⟩
    · rintro ⟨ofForm, only⟩
      obtain ⟨e, there, rfl⟩ := List.mem_map.1 listed
      rw [only e there]
      exact ⟨rfl, ofForm, shownWord_of_only only⟩
  unfold label
  exact if_congr text rfl (by rw [shownWord_eq listed])

theorem get?_mappings {e : Entry} (listed : e ∈ entries) :
    (mappings entries).get? e.name =
      if (sharing entries e.form).length < 2 then none
      else (OrderedMap.ofList (mapClass e.form (sharing entries e.form))).get? e.name := by
  rw [mappings_eq, OrderedMap.get?_ofList, OrderedMap.lookup_reverse_flatMap (i := e.form)
    (nodup_firstSeen _) (mem_firstSeen.2 (List.mem_map_of_mem listed))]
  · split
    · rfl
    · rw [OrderedMap.get?_ofList]
  · intro form _ there
    split at there
    · cases there
    · obtain ⟨⟨_, u⟩, ofClass, same⟩ := List.mem_map.1 there
      obtain ⟨other, ofOther, rfl⟩ := mem_names_of_mapClass ofClass
      rw [← (mem_sharing.1 ofOther).2]
      exact congrArg Text.upperFirst same

theorem mem_numbered_of_last (fresh : ∀ e ∈ front, e.word ≠ word) (only : ∀ e ∈ back, e.word = word)
    (named : ∃ e ∈ back, e.name = a)
    (h : (OrderedMap.ofList (mapClass form (front ++ back))).get? a = some t) :
    ∃ number,
      (a, number) ∈ numbered (((front ++ back).filter fun e => e.word == word).map Entry.name) ∧
        t = label form (front ++ back) word number := by
  obtain ⟨e, there, rfl⟩ := named
  have own : e.name ∈ ((front ++ back).filter fun e => e.word == word).map Entry.name := by
    refine List.mem_map_of_mem (List.mem_filter.2 ⟨List.mem_append_right _ there, ?_⟩)
    rw [only e there, beq_self_eq_true]
  have last : firstSeen ((front ++ back).map Entry.word) =
      firstSeen (front.map Entry.word) ++ [word] := by
    rw [List.map_append]
    apply firstSeen_append
    · intro seen
      obtain ⟨other, ofFront, same⟩ := List.mem_map.1 seen
      exact fresh other ofFront same
    · intro t listed
      obtain ⟨other, ofBack, rfl⟩ := List.mem_map.1 listed
      exact only other ofBack
    · exact List.ne_nil_of_mem (List.mem_map_of_mem there)
  rw [mapClass_eq, last, List.flatMap_append, List.flatMap_singleton, OrderedMap.get?_ofList,
    List.reverse_append, List.lookup_append] at h
  obtain ⟨number, given⟩ := exists_numbered own
  rcases Option.or_eq_some_iff.1 h with found | ⟨absent, -⟩
  · obtain ⟨n, listed, same⟩ := List.mem_map.1 (List.mem_reverse.1 (OrderedMap.mem_of_lookup found))
    obtain ⟨ofName, rfl⟩ := Prod.mk.inj same
    rw [← ofName]
    exact ⟨n.2, listed, rfl⟩
  · have passed :=
      List.lookup_eq_none_iff.1 absent _ (List.mem_reverse.2 (List.mem_map_of_mem given))
    simp at passed

end EmittedName

namespace Registry

open EmittedName (Entry sharing)

variable {r : Registry} {name form word : Text}

/-! What the registries say of a form. -/

def kinds (r : Registry) : List Entry :=
  (r.fields.entries.map fun (name, f) => ⟨name, f.typeWord⟩)
    ++ r.structures.keys.map fun name => ⟨name, []⟩

def kindsOf (r : Registry) (form : Text) : List Entry :=
  r.kinds.filter fun e => Text.upperFirst e.name == form

/-- The word for the kind of a name. Under one name a structure counts more than a field. -/
def kindWord (r : Registry) (name : Text) : Text :=
  if name ∈ r.structures.keys then [] else ((r.fields.get? name).map Field.typeWord).getD []

def peers (r : Registry) (name : Text) : List Text :=
  ((r.kindsOf (Text.upperFirst name)).filter fun e => e.word == r.kindWord name).map Entry.name

def collisionName (r : Registry) (name : Text) : Text :=
  let form := Text.upperFirst name
  if form = "String" ∧ ∀ e ∈ r.kindsOf form, e.word = "String" then "String"
  else
    form ++ (if ∃ e ∈ r.kindsOf form, e.word ≠ r.kindWord name then r.kindWord name else [])
      ++ (if 2 ≤ (r.peers name).length then Text.ofNat (rank (r.peers name) name + 1) else [])

/-! The sorted entries are those of the registries. -/

theorem perm_kindsOf (r : Registry) (form : Text) :
    (sharing r.namedKinds form).Perm (r.kindsOf form) := by
  apply List.Perm.filter
  exact ((perm_sortByKey _).map _).append ((perm_sortBy _ _).map _)

theorem perm_peers (r : Registry) (name : Text) :
    (((sharing r.namedKinds (Text.upperFirst name)).filter fun e => e.word == r.kindWord name).map
      Entry.name).Perm (r.peers name) :=
  ((perm_kindsOf r _).filter _).map _

theorem kindWord_mem (h : r.Defines name) : ⟨name, r.kindWord name⟩ ∈ r.namedKinds := by
  rw [mem_namedKinds]
  unfold kindWord
  by_cases known : name ∈ r.structures.keys
  · rw [if_pos known]
    exact .inr ⟨known, rfl⟩
  · rw [if_neg known]
    obtain ⟨f, found⟩ := OrderedMap.mem_keys_iff.1 (h.resolve_right known)
    exact .inl ⟨f, found, by rw [found]; rfl⟩

theorem typeWord_ne_nil (f : Field) : f.typeWord ≠ [] := by
  cases f <;> simp only [Field.typeWord] <;> decide

theorem pairwise_namedKinds (r : Registry) :
    r.namedKinds.Pairwise fun e e' => e.word = e'.word → e.name < e'.name := by
  rw [namedKinds, List.pairwise_append, List.pairwise_map, List.pairwise_map]
  refine ⟨?_, ?_, ?_⟩
  · apply (List.pairwise_map.1 (pairwise_keys_sortByKey r.fields.nodup)).imp
    intro e e' less _
    exact less
  · apply (pairwise_sortTexts r.structures.nodup).imp
    intro name name' less _
    exact less
  · intro e ofField e' ofStructure same
    obtain ⟨⟨name, f⟩, -, rfl⟩ := List.mem_map.1 ofField
    obtain ⟨name', -, rfl⟩ := List.mem_map.1 ofStructure
    exact absurd same (typeWord_ne_nil f)

theorem pairwise_names (r : Registry) (form word : Text) :
    (((sharing r.namedKinds form).filter fun e => e.word == word).map
      Entry.name).Pairwise (· < ·) := by
  rw [List.pairwise_map, List.pairwise_filter, sharing, List.pairwise_filter]
  apply r.pairwise_namedKinds.imp
  intro e e' less _ _ ofE ofE'
  exact less (by rw [beq_iff_eq.1 ofE, beq_iff_eq.1 ofE'])

theorem mem_numbered_of_mapped {t : Text} (h : r.typeMappings.get? name = some t) :
    let same := sharing r.namedKinds (Text.upperFirst name)
    ∃ number, (name, number) ∈ EmittedName.numbered
        ((same.filter fun e => e.word == r.kindWord name).map Entry.name) ∧
      t = EmittedName.label (Text.upperFirst name) same (r.kindWord name) number := by
  intro same
  by_cases known : name ∈ r.structures.keys
  · -- the name may be that of a field too, but structures come last
    have cut : same = sharing (r.fields.sortedEntries.map fun (name, f) => ⟨name, f.typeWord⟩)
          (Text.upperFirst name) ++
        sharing (r.structures.sortedKeys.map fun name => ⟨name, ""⟩) (Text.upperFirst name) :=
      List.filter_append ..
    have found := h
    have listed : ⟨name, []⟩ ∈ r.namedKinds := mem_namedKinds.2 (.inr ⟨known, rfl⟩)
    rw [typeMappings, EmittedName.get?_mappings listed] at found
    split at found
    · cases found
    rw [kindWord, if_pos known]
    change (OrderedMap.ofList (EmittedName.mapClass (Text.upperFirst name) same)).get? name =
        some t at found
    rw [cut] at found ⊢
    apply EmittedName.mem_numbered_of_last _ _ _ found
    · intro e there
      obtain ⟨⟨_, f⟩, -, rfl⟩ := List.mem_map.1 (EmittedName.mem_sharing.1 there).1
      exact typeWord_ne_nil f
    · intro e there
      obtain ⟨_, -, rfl⟩ := List.mem_map.1 (EmittedName.mem_sharing.1 there).1
      rfl
    · refine ⟨⟨name, ""⟩, EmittedName.mem_sharing.2 ⟨List.mem_map_of_mem ?_, rfl⟩, rfl⟩
      rwa [OrderedMap.sortedKeys, sortTexts, (perm_sortBy _ _).mem_iff]
  · obtain ⟨word, -, number, listed, rfl⟩ :=
      EmittedName.mem_mapClass.1 (EmittedName.of_get?_mappings h)
    obtain ⟨e, found, rfl⟩ := List.mem_map.1 (EmittedName.mem_of_numbered listed)
    obtain ⟨shared, ofWord⟩ := List.mem_filter.1 found
    have kind : word = r.kindWord e.name := by
      rw [beq_iff_eq] at ofWord
      rcases mem_namedKinds.1 (EmittedName.mem_sharing.1 shared).1 with
        ⟨f, field, word⟩ | ⟨structural, -⟩
      · rw [kindWord, if_neg known, field, ← ofWord, word]
        rfl
      · exact absurd structural known
    rw [← kind]
    exact ⟨number, listed, rfl⟩

instance (r : Registry) (name : Text) : Decidable (r.Defines name) :=
  inferInstanceAs (Decidable (name ∈ r.fields.keys ∨ name ∈ r.structures.keys))

theorem get?_typeMappings (r : Registry) (name : Text) :
    r.typeMappings.get? name =
      if r.Defines name ∧ 2 ≤ (r.kindsOf (Text.upperFirst name)).length then
        some (r.collisionName name)
      else none := by
  have perm := perm_kindsOf r (Text.upperFirst name)
  by_cases known : r.Defines name
  · have listed := kindWord_mem known
    by_cases shared : 2 ≤ (r.kindsOf (Text.upperFirst name)).length
    · rw [if_pos ⟨known, shared⟩]
      rw [← perm.length_eq] at shared
      obtain ⟨t, mapped⟩ := EmittedName.exists_get?_mappings listed shared
      obtain ⟨number, numbered, rfl⟩ := mem_numbered_of_mapped mapped
      have own : r.kindWord name ∈
          (sharing r.namedKinds (Text.upperFirst name)).map Entry.word :=
        List.mem_map_of_mem (EmittedName.mem_sharing.2 ⟨listed, rfl⟩)
      rw [typeMappings, mapped, EmittedName.label_eq own,
        EmittedName.number_of_numbered (pairwise_names r _ _) numbered]
      simp only [perm.mem_iff, (perm_peers r name).length_eq, rank, (perm_peers r name).countP_eq,
        collisionName]
    · rw [if_neg fun both => shared both.2, typeMappings, EmittedName.get?_mappings listed, if_pos]
      have few := perm.length_eq
      change (sharing r.namedKinds (Text.upperFirst name)).length < 2
      omega
  · rw [if_neg fun both => known both.1]
    cases mapped : r.typeMappings.get? name with
    | none => rfl
    | some t =>
      obtain ⟨e, listed, rfl⟩ :=
        EmittedName.mem_names_of_mapClass (EmittedName.of_get?_mappings mapped)
      exact absurd (defines_iff_namedKinds.2 ⟨e, (EmittedName.mem_sharing.1 listed).1, rfl⟩) known

end Registry

open Text (upperFirst)

/-- Exactly the names whose form stands for two entries are mapped, each to what the registries say
of its form. Two names of one form are mapped alike only if the form is `String` and stands for text
alone, and the order of the registries is immaterial. -/
theorem typeMappings_collisions (r : Registry) :
    (∀ name, r.typeMappings.get? name =
      if r.Defines name ∧ 2 ≤ (r.kindsOf (upperFirst name)).length then some (r.collisionName name)
      else none) ∧
    (∀ a b t u, a ≠ b → upperFirst a = upperFirst b → r.typeMappings.get? a = some t →
      r.typeMappings.get? b = some u →
        (t = u ↔ r.OnlyStrings (upperFirst a)) ∧ (r.OnlyStrings (upperFirst a) → t = "String")) ∧
    ∀ r' : Registry, r.fields.entries.Perm r'.fields.entries →
      r.structures.entries.Perm r'.structures.entries → r.typeMappings = r'.typeMappings := by
  refine ⟨r.get?_typeMappings, ?_, ?_⟩
  · intro a b t u distinct form mappedA mappedB
    have inA := EmittedName.of_get?_mappings mappedA
    have inB := EmittedName.of_get?_mappings mappedB
    rw [← form] at inB
    rw [Registry.onlyStrings_iff]
    refine ⟨⟨?_, ?_⟩, fun only => EmittedName.eq_string_of_mapClass only.1 only.2 inA⟩
    · rintro rfl
      refine (EmittedName.mapClass_inj ?_ inA inB).resolve_left distinct
      exact fun e listed => Registry.word_plain (EmittedName.mem_sharing.1 listed).1
    · rintro ⟨ofForm, only⟩
      rw [EmittedName.eq_string_of_mapClass ofForm only inA,
        EmittedName.eq_string_of_mapClass ofForm only inB]
  · intro r' fields structures
    apply Registry.SameEntries.typeMappings_eq
    exact ⟨OrderedMap.perm_entries_iff.1 fields, OrderedMap.perm_entries_iff.1 structures⟩

/-- Four entries of one form under three names. The third begins with a dotless letter. -/
def crossroads : Registry :=
  let text : Field := .string none default []
  ⟨.ofList [("item", text), ("Item", text), ("\u0131tem", .boolean), ("other", text)],
    .ofList [("item", default)]⟩

def crossroadsBackward : Registry :=
  ⟨.ofList crossroads.fields.entries.reverse, .ofList crossroads.structures.entries.reverse⟩

theorem typeMappings_collisions_crossroads :
    crossroads.typeMappings.get? "item" = some "Item" ∧
      crossroads.typeMappings.get? "Item" = some "ItemString1" ∧
      crossroads.typeMappings.get? "\u0131tem" = some "ItemBoolean" ∧
      crossroads.typeMappings.get? "other" = none ∧
      crossroads.typeMappings.get? "item" ≠ crossroads.typeMappings.get? "Item" ∧
      crossroads.typeMappings = crossroadsBackward.typeMappings := by
  obtain ⟨mapped, told, order⟩ := typeMappings_collisions crossroads
  have ofItem : crossroads.typeMappings.get? "item" = some "Item" := by
    rw [mapped]
    decide +kernel
  have ofItem' : crossroads.typeMappings.get? "Item" = some "ItemString1" := by
    rw [mapped]
    decide +kernel
  refine ⟨ofItem, ofItem', ?_, ?_, ?_, ?_⟩
  · rw [mapped]
    decide +kernel
  · rw [mapped]
    decide +kernel
  · rw [ofItem, ofItem']
    intro same
    have only := (told "item" "Item" _ _ (by decide) (by decide +kernel) ofItem ofItem').1.1
      (Option.some.inj same)
    exact absurd only.1 (by decide +kernel)
  · have keys : (crossroads.fields.entries.reverse.map Prod.fst).Nodup ∧
        (crossroads.structures.entries.reverse.map Prod.fst).Nodup := by decide +kernel
    apply order
    · rw [crossroadsBackward, OrderedMap.entries_ofList keys.1]
      exact (List.reverse_perm _).symm
    · rw [crossroadsBackward, OrderedMap.entries_ofList keys.2]
      exact (List.reverse_perm _).symm

end ApiModel

import ApiModel.Proofs.Concur
import ApiModel.Proofs.Resolution

/-! Pointers that name schemas. They stay where they are, so a document without other pointers
resolves to itself, as long as each of them leads somewhere. -/
namespace ApiModel

namespace Text

variable {sep : CodePoint} {a b lead text rest : Text}

theorem eq_append_of_dropLeading? (h : dropLeading? lead text = some rest) :
    text = lead ++ rest := by
  induction lead generalizing text with
  | nil =>
    cases h
    rfl
  | cons l lead ih =>
    cases text with
    | nil => cases h
    | cons c cs =>
      rw [dropLeading?] at h
      split at h
      · rename_i same
        rw [same, ih h, List.cons_append]
      · cases h

theorem dropLeading?_append (lead rest : Text) : dropLeading? lead (lead ++ rest) = some rest := by
  induction lead with
  | nil => rfl
  | cons l lead ih => rw [List.cons_append, dropLeading?, if_pos rfl, ih]

theorem split_of_not_mem (h : sep ∉ a) : split sep a = [a] := by
  rw [split_eq_splitOn, List.splitOn_eq_singleton h]

theorem split_append (h : sep ∉ a) : split sep (a ++ sep :: b) = a :: split sep b := by
  rw [split_eq_splitOn, split_eq_splitOn, List.splitOn_append_cons_self_of_not_mem h]

end Text

namespace Value

/-- No mapping in the value holds a key twice. -/
def Keyed (v : Value) : Prop :=
  ∀ entries, Part v (.map entries) → entries.Pairwise fun a b => a.1.sameKey b.1 = false

theorem Keyed.part {v part : Value} (h : Keyed v) (inner : Part v part) : Keyed part :=
  fun entries further => h entries (inner.trans further)

theorem isText_iff {v : Value} {text : Text} : v.isText text = true ↔ v = .str text := by
  cases v <;> simp [isText]

theorem part_of_lookupText {key : Text} {entries : List (Value × Value)} {v : Value}
    (h : lookupText key entries = some v) : Part (.map entries) v := by
  obtain ⟨k, listed, -⟩ := exists_of_lookupText h
  exact .entry listed (.refl _)

theorem lookupText_filter (keep : Value → Bool) (key : Text) (entries : List (Value × Value)) :
    lookupText key (entries.filter fun e => keep e.1) =
      if keep (.str key) then lookupText key entries else none := by
  induction entries with
  | nil => simp [lookupText]
  | cons e rest ih =>
    obtain ⟨k, v⟩ := e
    by_cases here : k = .str key
    · subst here
      by_cases kept : keep (.str key) = true
      · simp [kept, lookupText, isText]
      · rw [List.filter_cons, if_neg kept, ih, if_neg kept, if_neg kept]
    · have other : ¬ k.isText key = true := fun same => here (isText_iff.1 same)
      have skipped (rest : List (Value × Value)) :
          lookupText key ((k, v) :: rest) = lookupText key rest := by
        rw [lookupText, if_neg other]
      rw [skipped, List.filter_cons]
      split
      · rw [skipped, ih]
      · exact ih

theorem lookupText_map {key : Text} {entries : List (Value × Value)} (f : Value → Value → Value) :
    lookupText key (entries.map fun e => (e.1, f e.1 e.2)) =
      (lookupText key entries).map (f (.str key)) := by
  induction entries with
  | nil => rfl
  | cons e rest ih =>
    obtain ⟨k, v⟩ := e
    rw [List.map_cons, lookupText, lookupText, ih]
    split
    · rename_i here
      rw [isText_iff.1 here]
      rfl
    · rfl

theorem lookupText_of_mem {entries : List (Value × Value)} {key : Text} {v : Value}
    (distinct : entries.Pairwise fun a b => a.1.sameKey b.1 = false)
    (h : (.str key, v) ∈ entries) : lookupText key entries = some v := by
  induction entries with
  | nil => simp at h
  | cons e rest ih =>
    rw [List.pairwise_cons] at distinct
    unfold lookupText
    rcases List.mem_cons.1 h with here | later
    · subst here
      simp [isText]
    · have differ : e.1.isText key = false := by
        rw [Bool.eq_false_iff]
        intro same
        have clash := distinct.1 _ later
        rw [isText_iff.1 same] at clash
        simp [sameKey] at clash
      rw [differ]
      exact ih distinct.2 later

end Value

open Value (Part Keyed)

namespace Pointer

variable {root v w : Value} {pointer : Text}

/-! Where such pointers lead. -/

theorem nameBehind?_eq_some {lead name : Text} (h : nameBehind? lead pointer = some name) :
    ∃ segment : Text, pointer = lead ++ segment ∧ .char '/' ∉ segment ∧
      unescape segment = name := by
  unfold nameBehind? at h
  split at h
  · rename_i segment found
    split at h
    · cases h
    · rename_i single
      refine ⟨segment, Text.eq_append_of_dropLeading? found, ?_, Option.some.inj h⟩
      intro slash
      simp [slash] at single
  · cases h

theorem follow_split {path : Text} {segments : List Text} (h : Text.split '/' path = segments)
    (root : Value) : follow root ("#/" ++ path) = walk ("#/" ++ path) segments root := by
  unfold follow
  rw [Text.dropLeading?_append, ← h]

theorem walk_single (pointer segment : Text) (v : Value) :
    walk pointer [segment] v = step pointer (unescape segment) v := by
  unfold walk
  cases step pointer (unescape segment) v <;> rfl

theorem walk_map {es : List (Value × Value)} {rest : List Text}
    (tree : (Value.map es).isTree = true) (pointer segment : Text) :
    walk pointer (segment :: rest) (.map es) =
      match Value.lookupText (unescape segment) es with
      | some v => walk pointer rest v
      | none => .error (.missingSegment pointer (unescape segment)) := by
  rw [walk, step]
  cases found : Value.lookupText (unescape segment) es with
  | none => rfl
  | some v =>
    dsimp only
    rw [Value.within_of_isTree _ ((Value.part_of_lookupText found).isTree tree)]

theorem follow_of_definition {name : Text} (h : nameBehind? "#/definitions/" pointer = some name) :
    ∃ segment : Text, ∀ root,
      follow root pointer = walk pointer [("definitions" : Text), segment] root := by
  obtain ⟨segment, rfl, single, -⟩ := nameBehind?_eq_some h
  refine ⟨segment, fun root => ?_⟩
  have pieces : Text.split '/' (("definitions" : Text) ++ .char '/' :: segment) =
      [("definitions" : Text), segment] := by
    rw [Text.split_append (by decide), Text.split_of_not_mem single]
  exact follow_split pieces root

theorem isSome_schemaName? (h : (nameBehind? "#/definitions/" pointer).isSome = true) :
    (schemaName? pointer).isSome = true := by
  obtain ⟨name, found⟩ := Option.isSome_iff_exists.1 h
  rw [schemaName?, List.findSome?_isSome_iff]
  exact ⟨_, by simp [schemaLeads], h⟩

theorem follow_of_schemaName? (h : (schemaName? pointer).isSome) :
    ∃ segment : Text,
      (∃ name, nameBehind? "#/definitions/" pointer = some name) ∧
          (∀ root, follow root pointer = walk pointer [("definitions" : Text), segment] root) ∨
        ∀ root, follow root pointer =
          walk pointer [("components" : Text), ("schemas" : Text), segment] root := by
  obtain ⟨name, found⟩ := Option.isSome_iff_exists.1 h
  obtain ⟨lead, listed, behind⟩ := List.exists_of_findSome?_eq_some found
  simp only [schemaLeads, List.mem_cons, List.not_mem_nil, or_false] at listed
  rcases listed with rfl | rfl
  · obtain ⟨segment, rfl, single, -⟩ := nameBehind?_eq_some behind
    refine ⟨segment, .inr fun root => ?_⟩
    have pieces : Text.split '/' (("components" : Text) ++ .char '/' :: (("schemas" : Text) ++
        .char '/' :: segment)) = [("components" : Text), ("schemas" : Text), segment] := by
      rw [Text.split_append (by decide), Text.split_append (by decide),
        Text.split_of_not_mem single]
    exact follow_split pieces root
  · obtain ⟨segment, path⟩ := follow_of_definition behind
    exact ⟨segment, .inl ⟨⟨name, behind⟩, path⟩⟩

/-! Resolution. -/

/-- A value without loops whose pointers all have a property. -/
structure Clean (q : Text → Prop) (v : Value) : Prop where
  isTree : v.isTree = true
  each : ∀ pointer ∈ allOf v, q pointer

namespace Clean

variable {q : Text → Prop} {entries : List (Value × Value)} {items : List Value}

theorem part {part : Value} (h : Clean q v) (inner : Part v part) : Clean q part :=
  ⟨inner.isTree h.isTree, fun pointer found => h.each pointer (allOf_subset_of_part inner found)⟩

theorem own (h : Clean q (.map entries)) (found : of? entries = some pointer) : q pointer :=
  h.each pointer (of?_mem_allOf found)

theorem map (parts : ∀ e ∈ entries, Clean q e.2)
    (own : ∀ pointer, of? entries = some pointer → q pointer) :
    Clean q (.map entries) := by
  refine ⟨?_, ?_⟩
  · rw [Value.isTree, Value.holdTrees_iff]
    exact fun e listed => (parts e listed).isTree
  · intro pointer found
    rw [allOf, List.mem_append, mem_allOfEntries] at found
    rcases found with here | ⟨e, listed, below⟩
    · exact own pointer (by simpa using here)
    · exact (parts e listed).each pointer below

theorem list (parts : ∀ part ∈ items, Clean q part) : Clean q (.list items) := by
  refine ⟨?_, ?_⟩
  · rw [Value.isTree, Value.areTrees_iff]
    exact fun part listed => (parts part listed).isTree
  · intro pointer found
    rw [allOf, mem_allOfItems] at found
    obtain ⟨part, listed, below⟩ := found
    exact (parts part listed).each pointer below

end Clean

/-- A value without loops whose pointers all lead somewhere. -/
abbrev Sound (root : Value) : Value → Prop :=
  Clean fun pointer => ∃ target, follow root pointer = .ok target

theorem resolveValue_of_sound (pending : List Text) (sound : Sound root v)
    (named : ∀ pointer ∈ allOf v, (schemaName? pointer).isSome) :
    resolveValue root pending v = .ok v := by
  induction hn : sizeOf v using Nat.strongRecOn generalizing v with
  | ind n ih =>
    subst hn
    have inner {part : Value} (smaller : sizeOf part < sizeOf v) (there : Part v part) :
        resolveValue root pending part = .ok part :=
      ih _ smaller (sound.part there)
        (fun pointer found => named pointer (allOf_subset_of_part there found)) rfl
    cases v with
    | map entries =>
      have kept (keep : Bool) : resolveEntries root pending keep entries = .ok entries := by
        rw [resolveEntries_eq_mapM, mapM_eq_ok_iff, List.forall₂_same]
        intro e listed
        unfold resolveEntry
        split
        · rfl
        · rw [inner (sizeOf_entry listed) (.entry listed (.refl _))]
          rfl
      rw [resolveValue]
      cases found : of? entries with
      | none =>
        dsimp only
        rw [kept]
        rfl
      | some pointer =>
        have listed := of?_mem_allOf found
        obtain ⟨target, followed⟩ := sound.each pointer listed
        dsimp only
        rw [if_pos (named pointer listed), followed]
        dsimp only
        rw [kept]
        rfl
    | list items =>
      have kept : items.mapM (resolveValue root pending) = .ok items := by
        rw [mapM_eq_ok_iff, List.forall₂_same]
        intro part listed
        refine inner ?_ (.item listed (.refl _))
        have := List.sizeOf_lt_of_mem listed
        simp only [Value.list.sizeOf_spec]
        omega
      rw [resolveValue, resolveItems_eq_mapM, kept]
      rfl
    | loop kind levels => exact absurd sound.isTree (by simp [Value.isTree])
    | _ => rw [resolveValue] <;> simp

theorem eq_str_of_pinned {entries : List (Value × Value)} {e : Value × Value}
    (keyed : Keyed (.map entries)) (listed : e ∈ entries) (pinned : e.1.isText "$ref" = true)
    (found : of? entries = some pointer) : e.2 = .str pointer := by
  obtain ⟨k, part⟩ := e
  obtain rfl := Value.isText_iff.1 pinned
  rw [of?, Value.lookupText_of_mem (keyed entries (.refl _)) listed] at found
  cases part with
  | str text =>
    cases found
    rfl
  | _ => cases found

theorem sound_of_resolveValue {pending : List Text} (keyed : Keyed v)
    (named : ∀ pointer ∈ allOf v, (schemaName? pointer).isSome)
    (h : resolveValue root pending v = .ok w) : Sound root v := by
  induction hn : sizeOf v using Nat.strongRecOn generalizing v w with
  | ind n ih =>
    subst hn
    have inner {part result : Value} (smaller : sizeOf part < sizeOf v) (there : Part v part)
        (done : resolveValue root pending part = .ok result) : Sound root part :=
      ih _ smaller (keyed.part there)
        (fun pointer found => named pointer (allOf_subset_of_part there found)) done rfl
    cases v with
    | map entries =>
      -- an entry that is kept is the pointer itself, which is a text
      have values {keep : Bool} {done : List (Value × Value)}
          (kept : keep = true → ∃ pointer, of? entries = some pointer)
          (run : resolveEntries root pending keep entries = .ok done) : ∀ e ∈ entries,
            Sound root e.2 := by
        intro e listed
        rw [resolveEntries_eq_mapM] at run
        obtain ⟨result, resolved⟩ := mapM_isOk_iff.1 ⟨_, run⟩ e listed
        unfold resolveEntry at resolved
        split at resolved
        · rename_i pinned
          rw [Bool.and_eq_true] at pinned
          obtain ⟨pointer, found⟩ := kept pinned.1
          rw [eq_str_of_pinned keyed listed pinned.2 found]
          exact ⟨rfl, by simp [allOf]⟩
        · cases done : resolveValue root pending e.2 with
          | error error => simp [done, bind, Except.bind] at resolved
          | ok part => exact inner (sizeOf_entry listed) (.entry listed (.refl _)) done
      rw [resolveValue] at h
      cases found : of? entries with
      | none =>
        simp only [found] at h
        cases run : resolveEntries root pending false entries with
        | error error => simp [run, Except.map] at h
        | ok done => exact .map (values (by simp) run) (by simp [found])
      | some pointer =>
        simp only [found, named pointer (of?_mem_allOf found), if_true] at h
        cases followed : follow root pointer with
        | error error => simp [followed] at h
        | ok target =>
          simp only [followed] at h
          cases run : resolveEntries root pending true entries with
          | error error => simp [run, Except.map] at h
          | ok done =>
            refine .map (values (fun _ => ⟨pointer, found⟩) run) ?_
            intro other same
            rw [found] at same
            cases same
            exact ⟨target, followed⟩
    | list items =>
      rw [resolveValue, resolveItems_eq_mapM] at h
      cases run : items.mapM (resolveValue root pending) with
      | error error => simp [run, Except.map] at h
      | ok done =>
        refine .list fun part listed => ?_
        obtain ⟨result, resolved⟩ := mapM_isOk_iff.1 ⟨_, run⟩ part listed
        refine inner ?_ (.item listed (.refl _)) resolved
        have := List.sizeOf_lt_of_mem listed
        simp only [Value.list.sizeOf_spec]
        omega
    | loop kind levels =>
      rw [resolveValue] at h
      cases h
    | _ => exact ⟨rfl, by simp [allOf]⟩

theorem resolve_eq_ok_iff (keyed : Keyed root)
    (named : ∀ pointer ∈ allOf root, (schemaName? pointer).isSome) :
    resolve root = .ok w ↔ w = root ∧ Sound root root := by
  unfold resolve
  constructor
  · intro done
    have sound := sound_of_resolveValue keyed named done
    rw [resolveValue_of_sound _ sound named] at done
    cases done
    exact ⟨rfl, sound⟩
  · rintro ⟨rfl, sound⟩
    exact resolveValue_of_sound _ sound named

theorem resolveValue_eq_self (pending : List Text) (tree : v.isTree = true)
    (leads : ∀ pointer ∈ allOf v,
      (schemaName? pointer).isSome = true ∧ (follow root pointer).toOption.isSome = true) :
    resolveValue root pending v = .ok v := by
  refine resolveValue_of_sound _ ⟨tree, fun pointer listed => ?_⟩
    fun pointer listed => (leads pointer listed).1
  have found := (leads pointer listed).2
  cases followed : follow root pointer with
  | ok target => exact ⟨target, rfl⟩
  | error e =>
    rw [followed] at found
    cases found

theorem resolve_eq_self (tree : root.isTree = true)
    (leads : ∀ pointer ∈ allOf root,
      (schemaName? pointer).isSome = true ∧ (follow root pointer).toOption.isSome = true) :
    resolve root = .ok root :=
  resolveValue_eq_self _ tree leads

end Pointer

end ApiModel

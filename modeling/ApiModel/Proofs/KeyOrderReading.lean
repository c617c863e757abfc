import ApiModel.Proofs.KeyOrder

/-! Reading rearranged schemas. Both are refused, or they are the same up to the order of properties
and the way in which required names are listed. -/
namespace ApiModel

open Value (Matched Arranged TextKeyed)
open Validation (Checked)

section Required

theorem itemsFrom_text_cases (n : Nat) (items : List Value) :
    (∃ texts, Validation.itemsFrom Validation.text n items = .accepted texts ∧
        (∀ v ∈ items, ∃ text, Validation.text v = .accepted text) ∧
        ∀ text, text ∈ texts ↔ ∃ v ∈ items, Validation.text v = .accepted text) ∨
      (∃ faults, Validation.itemsFrom Validation.text n items = .refused faults) ∧
        ∃ v ∈ items, ∃ faults, Validation.text v = .refused faults := by
  induction items generalizing n with
  | nil => exact .inl ⟨[], rfl, by simp, by simp⟩
  | cons v rest ih =>
    rw [Validation.itemsFrom]
    cases first : Validation.text v with
    | refused faults =>
      refine .inr ⟨?_, v, List.mem_cons_self, faults, first⟩
      cases Validation.itemsFrom Validation.text (n + 1) rest <;> exact ⟨_, rfl⟩
    | accepted text =>
      rcases ih (n + 1) with ⟨texts, more, each, listed⟩ | ⟨⟨faults, more⟩, other, there, bad⟩
      · rw [more]
        refine .inl ⟨text :: texts, rfl, ?_, ?_⟩
        · intro other there
          rcases List.mem_cons.1 there with rfl | there
          · exact ⟨text, first⟩
          · exact each other there
        · intro other
          rw [List.mem_cons, List.exists_mem_cons_iff, listed, first]
          simp [eq_comm]
      · rw [more]
        exact .inr ⟨⟨faults, rfl⟩, other, List.mem_cons_of_mem v there, bad⟩

theorem itemsFrom_text_agree {items items' : List Value} (members : ∀ v, v ∈ items ↔ v ∈ items') :
    Checked.Agree (fun texts texts' => ∀ text, text ∈ texts ↔ text ∈ texts')
      (Validation.itemsFrom Validation.text 0 items)
        (Validation.itemsFrom Validation.text 0 items') := by
  rcases itemsFrom_text_cases 0 items with
      ⟨texts, done, each, listed⟩ | ⟨⟨faults, done⟩, v, there, _, bad⟩ <;>
    rcases itemsFrom_text_cases 0 items' with
      ⟨texts', done', each', listed'⟩ | ⟨⟨faults', done'⟩, v', there', _, bad'⟩ <;>
    rw [done, done']
  · refine .accepted fun text => ?_
    rw [listed, listed']
    simp only [members]
  · obtain ⟨text, good⟩ := each v' ((members v').2 there')
    rw [good] at bad'
    cases bad'
  · obtain ⟨text, good⟩ := each' v ((members v).1 there)
    rw [good] at bad
    cases bad
  · exact .refused _ _

end Required

namespace Schema

variable {es es' : List (Value × Value)} {key : Text}

/-- The keywords of a schema, matched one by one. -/
structure KeywordsMatch (es es' : List (Value × Value)) : Prop where
  look : ∀ key role, (key, role) ∈ Role.keywords →
    Option.Rel (Matched role) (Value.lookupText key es) (Value.lookupText key es')
  negation : Value.has "not" es = Value.has "not" es'

theorem keywordsMatch_of_arranged {role : Role} (among : role ∈ [Role.schema, .parameter, .header])
    (h : Arranged role es es') : KeywordsMatch es es' where
  look key inner listed := by
    have roles : ∀ role ∈ [Role.schema, .parameter, .header], ∀ e ∈ Role.keywords,
        role.part e.1 = e.2 := by decide +kernel
    have found := h.look key
    rwa [show role.part key = inner from roles role among _ listed] at found
  negation := Value.has_eq (h.look "not")

theorem KeywordsMatch.plain (h : KeywordsMatch es es') : SamePlain es es' where
  look key listed := by
    have fixed : ∀ key ∈ plainKeywords, (key, Role.fixed) ∈ Role.keywords := by
      simp [plainKeywords, Role.keywords]
    have found := h.look key .fixed (fixed key listed)
    generalize Value.lookupText key es = part at *
    generalize Value.lookupText key es' = part' at *
    cases found with
    | none => rfl
    | some related => rw [related.eq_of_fixed]
  presence := by
    simp only [List.forall_mem_cons]
    exact ⟨Value.has_eq (h.look "properties" .properties (by simp [Role.keywords])),
      Value.has_eq (h.look "additionalProperties" .schema (by simp [Role.keywords])),
      Value.has_eq (h.look "items" .schema (by simp [Role.keywords])), h.negation, by simp⟩

theorem keywordsMatch_filter (h : KeywordsMatch es es') (keep : Value → Bool) :
    KeywordsMatch (es.filter fun e => keep e.1) (es'.filter fun e => keep e.1) where
  look key role listed := by
    rw [Value.lookupText_filter, Value.lookupText_filter]
    split
    · exact h.look key role listed
    · exact .none
  negation := by
    rw [Value.has, Value.has, Value.lookupText_filter, Value.lookupText_filter]
    split
    · exact h.negation
    · rfl

/-- The list of required names, in whatever order and number. -/
theorem requiredItems_concur (h : KeywordsMatch es es') :
    Concur (fun items items' => ∀ v, v ∈ items ↔ v ∈ items') (requiredItems es)
      (requiredItems es') := by
  have found := Value.rel_getPresent? (h.look "required" .required (by simp [Role.keywords]))
  unfold requiredItems
  generalize Value.getPresent? "required" es = part at *
  generalize Value.getPresent? "required" es' = part' at *
  cases found with
  | none => exact .ok fun _ => .rfl
  | @some v v' related =>
    cases related.view with
    | map entries => exact .ok fun key => entries.keys.mem_iff
    | @list items items' each =>
      have same : items = items' := by
        rw [← List.forall₂_eq_eq_eq]
        exact each.imp fun _ _ item => item.eq_of_fixed
      subst same
      exact .ok fun _ => .rfl
    | required _ members => exact .ok members
    | leaf =>
      refine (Concur.refl v.items).imp ?_
      rintro items _ rfl _
      rfl

theorem distinctProperties_eq {properties : List (Text × Schema)}
    (distinct : (properties.map Prod.fst).Nodup) : distinctProperties properties = properties := by
  rw [distinctProperties_eq_entries, OrderedMap.entries_ofList distinct]

/-- Smaller values are read alike. -/
def ReadsAlike (n : Nat) : Prop :=
  ∀ v v', sizeOf v < n → Matched .schema v v' → ∀ location,
    Concur Rearranged (read location v) (read location v')

section Parts

variable {n : Nat} {location : Location} {v v' : Value}

theorem partBy_concur (reads : ReadsAlike n) {part part' : Option Value}
    (found : Option.Rel (Matched .schema) part part') (small : ∀ v, part = some v → sizeOf v < n) :
    Concur (Option.Rel Rearranged) (partBy read location part) (partBy read location part') := by
  cases found with
  | none => exact .ok .none
  | @some v v' related =>
    exact (reads v v' (small v rfl) related location).map fun _ _ => Option.Rel.some

theorem forall₂_zipIdx {α β : Type} {R : α → β → Prop} {l : List α} {l' : List β}
    (each : List.Forall₂ R l l') (n : Nat) :
    List.Forall₂ (fun a b => R a.1 b.1 ∧ a.2 = b.2) (l.zipIdx n) (l'.zipIdx n) := by
  induction each generalizing n with
  | nil => exact .nil
  | cons first _ ih => exact .cons ⟨first, rfl⟩ (ih (n + 1))

theorem readBranchesBy_map (location : Location) (keyed : TextKeyed (.map es)) (present : es ≠ []) :
    ∃ e, readBranchesBy read location (.map es) = .error e := by
  cases es with
  | nil => exact absurd rfl present
  | cons e rest =>
    obtain ⟨key, named, -⟩ := keyed.lookup List.mem_cons_self
    obtain ⟨k, v⟩ := e
    cases named
    exact ⟨_, rfl⟩

theorem readBranchesBy_concur (reads : ReadsAlike n) (h : Matched .branches v v')
    (small : sizeOf v < n) :
    Concur (List.Forall₂ Rearranged) (readBranchesBy read location v)
      (readBranchesBy read location v') := by
  cases h.view with
  | @map es es' entries =>
    have count : es.length = es'.length := by simpa using entries.keys.length_eq
    by_cases present : es = []
    · subst present
      obtain rfl := List.eq_nil_of_length_eq_zero count.symm
      exact .ok .nil
    · have present' : es' ≠ [] := by
        rintro rfl
        exact present (List.eq_nil_of_length_eq_zero count)
      obtain ⟨e, failed⟩ := readBranchesBy_map location entries.keyed present
      obtain ⟨e', failed'⟩ := readBranchesBy_map location entries.keyed' present'
      rw [failed, failed']
      exact .error e e'
  | @list items items' each =>
    have within : ∀ item ∈ items, sizeOf item < n := by
      intro item listed
      have := List.sizeOf_lt_of_mem listed
      simp only [Value.list.sizeOf_spec] at small
      omega
    refine Ending.mapM ((forall₂_zipIdx ((List.forall₂_and_left _ _).2 ⟨within, each⟩) 0).imp ?_)
    rintro ⟨item, i⟩ ⟨item', _⟩ ⟨⟨smaller, related⟩, rfl⟩
    exact reads item item' smaller related _
  | required isRequired => cases isRequired
  | leaf =>
    refine (Concur.refl _).imp ?_
    rintro branches _ rfl
    exact List.forall₂_same.2 fun s _ => .same s

theorem readProperty_eq_ok_iff {next : Reader} {e : Value × Value} {p : Text × Schema} :
    (do
      let key ← e.1.shown
      return (key, ← next (location.below key) e.2) : Except ReadError (Text × Schema)) = .ok p ↔
      e.1.shown = .ok p.1 ∧ next (location.below p.1) e.2 = .ok p.2 := by
  obtain ⟨key, s⟩ := p
  cases e.1.shown with
  | error e => simp [bind, Except.bind]
  | ok key' =>
    simp only [bind, Except.bind, pure, Except.pure, Except.ok.injEq]
    constructor
    · intro done
      cases read : next (location.below key') e.2 with
      | error e => simp [read] at done
      | ok s' =>
        rw [read] at done
        cases done
        exact ⟨rfl, read⟩
    · rintro ⟨rfl, read⟩
      rw [read]

theorem readPropertiesBy_isOk_iff {next : Reader} (keyed : TextKeyed (.map es)) :
    (∃ ps, readPropertiesBy next location es = .ok ps) ↔
      ∀ key v, Value.lookupText key es = some v → ∃ s, next (location.below key) v = .ok s := by
  rw [readPropertiesBy, mapM_isOk_iff]
  simp only [readProperty_eq_ok_iff]
  constructor
  · intro each key v found
    obtain ⟨p, shown, read⟩ := each _ (keyed.mem_iff.2 found)
    cases shown
    exact ⟨p.2, read⟩
  · intro each e listed
    obtain ⟨key, named, found⟩ := keyed.lookup listed
    obtain ⟨s, read⟩ := each key e.2 found
    exact ⟨(key, s), named ▸ rfl, read⟩

theorem readPropertiesBy_spec {next : Reader} {ps : List (Text × Schema)}
    (keyed : TextKeyed (.map es)) (done : readPropertiesBy next location es = .ok ps) :
    es.map Prod.fst = ps.map (fun p => Value.str p.1) ∧
      ∀ key s, (key, s) ∈ ps →
        ∃ v, Value.lookupText key es = some v ∧ next (location.below key) v = .ok s := by
  have each : List.Forall₂ (fun e p => e ∈ es ∧ e.1.shown = .ok p.1 ∧
      next (location.below p.1) e.2 = .ok p.2) es ps := by
    have taken := mapM_eq_ok_iff.1 done
    simp only [readProperty_eq_ok_iff] at taken
    exact (List.forall₂_and_left _ _).2 ⟨fun _ listed => listed, taken⟩
  have named : List.Forall₂ (fun e p => e.1 = .str p.1 ∧
      Value.lookupText p.1 es = some e.2 ∧ next (location.below p.1) e.2 = .ok p.2) es ps := by
    refine each.imp ?_
    rintro e p ⟨listed, shown, read⟩
    obtain ⟨key, name, found⟩ := keyed.lookup listed
    rw [name] at shown
    cases shown
    exact ⟨name, found, read⟩
  constructor
  · rw [← List.forall₂_eq_eq_eq, List.forall₂_map_left_iff, List.forall₂_map_right_iff]
    exact named.imp fun _ _ h => h.1
  · intro key s listed
    obtain ⟨e, -, -, found, read⟩ := exists_of_forall₂ named listed
    exact ⟨e.2, found, read⟩

/-- Properties in some order. -/
structure SameProperties (ps ps' : List (Text × Schema)) : Prop where
  keys : (ps.map Prod.fst).Perm (ps'.map Prod.fst)
  distinct : (ps.map Prod.fst).Nodup
  parts : ∀ key s s', (key, s) ∈ ps → (key, s') ∈ ps' → Rearranged s s'

theorem readPropertiesBy_concur (reads : ReadsAlike n) (h : Arranged .properties es es')
    (small : sizeOf (Value.map es) ≤ n) :
    Concur SameProperties (readPropertiesBy read location es)
      (readPropertiesBy read location es') := by
  have value {key : Text} {v v' : Value} (found : Value.lookupText key es = some v)
      (found' : Value.lookupText key es' = some v') :
      Concur Rearranged (read (location.below key) v) (read (location.below key) v') := by
    have related := h.look key
    rw [found, found'] at related
    cases related with
    | some related =>
      refine reads v v' ?_ related _
      have := Value.sizeOf_lookupText found
      simp only [Value.map.sizeOf_spec] at small
      omega
  -- the properties stand in different orders, so success is compared key by key
  refine Concur.of_isOk_iff ?_ fun ps ps' done done' => ?_
  · rw [readPropertiesBy_isOk_iff h.keyed, readPropertiesBy_isOk_iff h.keyed']
    refine forall_congr' fun key => ?_
    have together := h.look key
    cases found : Value.lookupText key es with
    | none =>
      rw [found] at together
      cases found' : Value.lookupText key es' with
      | none => simp
      | some v' => rw [found'] at together; cases together
    | some v =>
      rw [found] at together
      cases found' : Value.lookupText key es' with
      | none => rw [found'] at together; cases together
      | some v' => simpa using (value found found').isOk_iff
  · obtain ⟨keys, values⟩ := readPropertiesBy_spec h.keyed done
    obtain ⟨keys', values'⟩ := readPropertiesBy_spec h.keyed' done'
    have distinct {es : List (Value × Value)} {ps : List (Text × Schema)}
        (keyed : TextKeyed (.map es)) (keys : es.map Prod.fst = ps.map (fun p => Value.str p.1)) :
        (ps.map Prod.fst).Nodup := by
      obtain ⟨names, nodup, listed⟩ := keyed es (.refl _)
      have same : ps.map Prod.fst = names := by
        refine List.map_injective_iff.2 (fun a b => Value.str.inj) ?_
        rw [← listed, keys, List.map_map]
        rfl
      exact same ▸ nodup
    refine ⟨?_, distinct h.keyed keys, fun key s s' listed listed' => ?_⟩
    · refine (List.perm_ext_iff_of_nodup (distinct h.keyed keys)
        (distinct h.keyed' keys')).2 fun key => ?_
      have there : Value.str key ∈ es.map Prod.fst ↔ Value.str key ∈ es'.map Prod.fst :=
        h.keys.mem_iff
      rw [keys, keys'] at there
      simpa using there
    · obtain ⟨v, found, read⟩ := values key s listed
      obtain ⟨v', found', read'⟩ := values' key s' listed'
      have related := value found found'
      rw [read, read'] at related
      cases related with
      | ok related => exact related

theorem propertiesBy_concur (reads : ReadsAlike n) (h : KeywordsMatch es es')
    (small : sizeOf es ≤ n) :
    Concur SameProperties (propertiesBy read location es) (propertiesBy read location es') := by
  have found := Value.rel_getPresent? (h.look "properties" .properties (by simp [Role.keywords]))
  have smaller : ∀ v, Value.getPresent? "properties" es = some v → sizeOf v ≤ n := fun v given =>
    Nat.le_trans (Nat.le_of_lt (Value.sizeOf_getPresent? given)) small
  unfold propertiesBy
  generalize Value.getPresent? "properties" es = part at *
  generalize Value.getPresent? "properties" es' = part' at *
  cases found with
  | none => exact .ok ⟨.nil, .nil, by simp⟩
  | @some v v' related =>
    cases related.view with
    | map entries => exact readPropertiesBy_concur reads entries (smaller _ rfl)
    | list => exact .error _ _
    | required isRequired => cases isRequired
    | leaf noMap =>
      cases v with
      | map fields => exact absurd rfl (noMap fields)
      | _ => exact .error _ _

theorem rel_additionalPart? (h : KeywordsMatch es es') :
    Option.Rel (Matched .schema) (additionalPart? es) (additionalPart? es') := by
  have found :=
    Value.rel_getSome? (h.look "additionalProperties" .schema (by simp [Role.keywords]))
  unfold additionalPart?
  generalize Value.getSome? "additionalProperties" es = part at *
  generalize Value.getSome? "additionalProperties" es' = part' at *
  cases found with
  | none => exact .none
  | @some v v' related =>
    cases related.view with
    | map _ => exact .some related
    | list _ => exact .some related
    | required isRequired => cases isRequired
    | leaf =>
      cases v with
      | bool b => exact .none
      | _ => exact .some related

theorem rel_unionPart? (h : KeywordsMatch es es') :
    Option.Rel (fun u u' => u.1 = u'.1 ∧ Matched .branches u.2 u'.2) (unionPart? es)
      (unionPart? es') := by
  have all := h.look "allOf" .branches (by simp [Role.keywords])
  have any := h.look "anyOf" .branches (by simp [Role.keywords])
  have one := h.look "oneOf" .branches (by simp [Role.keywords])
  unfold unionPart?
  generalize Value.lookupText "allOf" es = a at *
  generalize Value.lookupText "allOf" es' = a' at *
  generalize Value.lookupText "anyOf" es = b at *
  generalize Value.lookupText "anyOf" es' = b' at *
  generalize Value.lookupText "oneOf" es = c at *
  generalize Value.lookupText "oneOf" es' = c' at *
  cases all with
  | some related => exact .some ⟨rfl, related⟩
  | none =>
    cases any with
    | some related => exact .some ⟨rfl, related⟩
    | none =>
      cases one with
      | some related => exact .some ⟨rfl, related⟩
      | none => exact .none

theorem readTypedBy_concur (reads : ReadsAlike n) (h : KeywordsMatch es es') (small : sizeOf es ≤ n)
    (type : TypeName) :
    Concur Rearranged (readTypedBy read location es type) (readTypedBy read location es' type) := by
  have alike {x : Except ReadError Schema} : Concur Rearranged x x :=
    (Concur.refl x).imp fun s _ same => same ▸ .same s
  cases type with
  | boolean | untyped =>
    simp only [readTypedBy, h.plain.readNotes_eq]
    exact alike
  | integer | number =>
    simp only [readTypedBy, h.plain.readNotes_eq, h.plain.readRange_eq]
    exact alike
  | string =>
    simp only [readTypedBy, h.plain.readNotes_eq, h.plain.readFacets_eq]
    exact alike
  | array =>
    simp only [readTypedBy, h.plain.readNotes_eq, h.plain.readItemCount_eq]
    have found := Value.rel_getSome? (h.look "items" .schema (by simp [Role.keywords]))
    refine (partBy_concur reads found fun v given =>
      Nat.lt_of_lt_of_le (Value.sizeOf_getSome? given) small).bind fun items items' related => ?_
    refine (Checked.Agree.seq ((Checked.Agree.refl (readNotes es')).map ?_)
      (Checked.Agree.refl (readItemCount es'))).orStop .schema .schema
    rintro notes _ rfl count _ rfl
    cases related with
    | none => exact .same _
    | some related => exact .array related
  | object =>
    simp only [readTypedBy, h.plain.readNotes_eq]
    refine (requiredItems_concur h).bind fun required required' members => ?_
    refine (propertiesBy_concur reads h small).bind fun properties properties' same => ?_
    refine (partBy_concur reads (rel_additionalPart? h) fun v found =>
      Nat.lt_of_lt_of_le (sizeOf_additionalPart? found) small).bind
        fun additional additional' related => ?_
    refine (Checked.Agree.seq ((Checked.Agree.refl (readNotes es')).map ?_)
      ((itemsFrom_text_agree members).under _ _)).orStop .schema .schema
    rintro notes _ rfl required required' listed
    rw [distinctProperties_eq same.distinct,
      distinctProperties_eq (same.keys.nodup_iff.1 same.distinct)]
    refine .object listed same.keys same.distinct same.parts ?_ ?_
    · cases related <;> rfl
    · rintro s s' rfl rfl
      cases related with
      | some related => exact related

theorem readMapBy_concur (reads : ReadsAlike n) (h : KeywordsMatch es es') (small : sizeOf es ≤ n) :
    Concur Rearranged (readMapBy read location es) (readMapBy read location es') := by
  have alike {x : Except ReadError Schema} : Concur Rearranged x x :=
    (Concur.refl x).imp fun s _ same => same ▸ .same s
  have union := rel_unionPart? h
  have smaller : ∀ kind v, unionPart? es = some (kind, v) → sizeOf v < n := fun kind v found =>
    Nat.lt_of_lt_of_le (sizeOf_unionPart? found) small
  unfold readMapBy
  rw [h.plain.of?_eq, h.negation, h.plain.typeName_eq, h.plain.readDescription_eq]
  cases Pointer.of? es' with
  | some pointer => exact alike
  | none =>
    dsimp only
    generalize unionPart? es = part at *
    generalize unionPart? es' = part' at *
    cases union with
    | @some u u' related =>
      obtain ⟨kind, v⟩ := u
      obtain ⟨kind', v'⟩ := u'
      obtain ⟨rfl, related⟩ := related
      refine (readBranchesBy_concur reads related (smaller kind v rfl)).bind
        fun branches branches' each => ?_
      refine (Concur.refl ((readDescription es').orStop .schema)).bind ?_
      rintro description _ rfl
      obtain ⟨count, parts⟩ := List.forall₂_iff_zip.1 each
      exact .ok (.union count fun s s' both => parts both)
    | none =>
      dsimp only
      split
      · exact alike
      · refine (Concur.refl (typeName es')).bind ?_
        rintro type _ rfl
        exact readTypedBy_concur reads h small type

end Parts

theorem readsAlike (n : Nat) : ReadsAlike n := by
  induction n with
  | zero => exact fun v v' small => absurd small (by omega)
  | succ n ih =>
    intro v v' small h location
    cases h.view with
    | map entries =>
      rw [read_map, read_map]
      refine readMapBy_concur ih (keywordsMatch_of_arranged (by decide) entries) ?_
      simp only [Value.map.sizeOf_spec] at small
      omega
    | list =>
      rw [read_of_no_map location (by simp), read_of_no_map location (by simp)]
      exact .error _ _
    | required isRequired => cases isRequired
    | leaf => exact (Concur.refl _).imp fun s _ same => same ▸ .same s

theorem read_matched {v v' : Value} (h : Matched .schema v v') (location : Location) :
    Concur Rearranged (read location v) (read location v') :=
  readsAlike (sizeOf v + 1) v v' (by omega) h location

end Schema

end ApiModel

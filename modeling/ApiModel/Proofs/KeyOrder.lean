import ApiModel.Api.Basic
import ApiModel.Proofs.Rearrangement
import ApiModel.Proofs.SchemaPointers
import ApiModel.Proofs.SchemaReading

/-! Documents up to the order of keys. Where a value stands decides what may change about it: the
keys of most mappings may come in any order, those of paths, responses and the like may not. -/
namespace ApiModel

inductive Role where
  | document
  | components
  | schemas
  | schema
  | properties
  | branches
  | required
  | paths
  | pathItem
  | operation
  | parameters
  | parameter
  | requestBody
  | content
  | media
  | responses
  | response
  | headers
  | header
  /-- What is taken as it stands. -/
  | fixed
  /-- What is not read. -/
  | unread
  deriving DecidableEq, Repr

namespace Role

def keywords : List (Text × Role) :=
  [("$ref", fixed), ("type", fixed), ("format", fixed), ("description", fixed),
    ("minimum", fixed), ("maximum", fixed), ("exclusiveMinimum", fixed),
    ("exclusiveMaximum", fixed),
    ("minLength", fixed), ("maxLength", fixed), ("pattern", fixed), ("enum", fixed),
    ("minItems", fixed), ("maxItems", fixed), ("items", schema), ("additionalProperties", schema),
    ("properties", properties), ("required", required),
    ("allOf", branches), ("anyOf", branches), ("oneOf", branches)]

/-- The parts of a mapping: those under certain keys, and what stands under any other key.
Parameters and headers may hold the keywords of a schema beside their own. -/
def parts : Role → List (Text × Role) × Role
  | document =>
    ([("info", fixed), ("servers", fixed), ("host", fixed), ("schemes", fixed), ("basePath", fixed),
      ("consumes", fixed), ("produces", fixed), ("paths", paths), ("components", components),
      ("definitions", schemas)], unread)
  | components => ([("schemas", schemas)], unread)
  | schemas => ([], schema)
  | schema => (keywords, unread)
  | properties => ([], schema)
  | paths => ([], pathItem)
  | pathItem =>
    (("parameters", parameters) :: Api.Method.all.map fun m => (m.word, operation), unread)
  | operation =>
    ([("operationId", fixed), ("summary", fixed), ("description", fixed), ("consumes", fixed),
      ("produces", fixed), ("parameters", parameters), ("requestBody", requestBody),
      ("responses", responses)], unread)
  | parameter =>
    (("name", fixed) :: ("in", fixed) :: ("required", required) :: ("description", fixed) ::
      ("schema", schema) :: ("content", content) :: keywords, unread)
  | requestBody => ([("required", required), ("description", fixed), ("content", content)], unread)
  | content => ([], media)
  | media => ([("schema", schema)], unread)
  | responses => ([], response)
  | response =>
    ([("description", fixed), ("schema", schema), ("content", content),
      ("headers", headers)], unread)
  | headers => ([], header)
  | header =>
    (("required", required) :: ("description", fixed) :: ("schema", schema) ::
      ("content", content) ::
      keywords, unread)
  | fixed => ([], fixed)
  | _ => ([("required", required)], unread)

def part (role : Role) (key : Text) : Role := (role.parts.1.lookup key).getD role.parts.2

def item : Role → Role
  | branches => schema
  | parameters => parameter
  | required => fixed
  | fixed => fixed
  | _ => unread

def isOrdered : Role → Bool
  | schemas | paths | content | responses | headers | fixed => true
  | _ => false

end Role

namespace Value

/-- Values that differ at most in the order of keys, where that does not count, and in how the
required names are listed, at any depth. -/
inductive Rearranged : Role → Value → Value → Prop where
  | same {role : Role} (v : Value) : Rearranged role v v
  | list {role : Role} {items items' : List Value} (free : role ≠ .fixed)
      (count : items.length = items'.length)
      (parts : ∀ v v', (v, v') ∈ items.zip items' → Rearranged role.item v v') :
      Rearranged role (.list items) (.list items')
  | map {role : Role} {entries entries' : List (Value × Value)} (free : role ≠ .fixed)
      (keys : (entries.map Prod.fst).Perm (entries'.map Prod.fst))
      (order : role.isOrdered = true → entries.map Prod.fst = entries'.map Prod.fst)
      (parts : ∀ key v v', lookupText key entries = some v → lookupText key entries' = some v' →
        Rearranged (role.part key) v v') :
      Rearranged role (.map entries) (.map entries')
  | required {items items' : List Value} (members : ∀ v, v ∈ items ↔ v ∈ items') :
      Rearranged .required (.list items) (.list items')

/-- The values that stand in a value at any depth, also in pairs and sets. -/
inductive Inside : Value → Value → Prop where
  | refl (v : Value) : Inside v v
  | item {items : List Value} {v part : Value} (listed : v ∈ items) (inner : Inside v part) :
      Inside (list items) part
  | entry {entries : List (Value × Value)} {e : Value × Value} {part : Value} (listed : e ∈ entries)
      (inner : Inside e.2 part) : Inside (map entries) part
  | first {a b part : Value} (inner : Inside a part) : Inside (pair a b) part
  | second {a b part : Value} (inner : Inside b part) : Inside (pair a b) part
  | member {items : List Value} {v part : Value} (listed : v ∈ items) (inner : Inside v part) :
      Inside (set items) part

theorem Inside.trans {a b c : Value} (h : Inside a b) (h' : Inside b c) : Inside a c := by
  induction h with
  | refl v => exact h'
  | item listed _ ih => exact .item listed (ih h')
  | entry listed _ ih => exact .entry listed (ih h')
  | first _ ih => exact .first (ih h')
  | second _ ih => exact .second (ih h')
  | member listed _ ih => exact .member listed (ih h')

theorem Part.inside {v part : Value} (h : Part v part) : Inside v part := by
  induction h with
  | refl v => exact .refl v
  | item listed _ ih => exact .item listed ih
  | entry listed _ ih => exact .entry listed ih

/-- All mappings in the value have texts for keys, each once. -/
def TextKeyed (v : Value) : Prop :=
  ∀ entries, Inside v (.map entries) →
    ∃ keys : List Text, keys.Nodup ∧ entries.map Prod.fst = keys.map .str

section Look

variable {key : Text} {entries entries' : List (Value × Value)} {v v' : Value}

theorem isSome_lookupText : (lookupText key entries).isSome = true ↔
    .str key ∈ entries.map Prod.fst := by
  induction entries with
  | nil => simp [lookupText]
  | cons e rest ih =>
    obtain ⟨k, v⟩ := e
    rw [List.map_cons, List.mem_cons, lookupText]
    split
    · rename_i here
      simp [isText_iff.1 here]
    · rename_i elsewhere
      rw [ih]
      constructor
      · exact .inr
      · rintro (rfl | there)
        · exact absurd (isText_iff.2 rfl) elsewhere
        · exact there

theorem TextKeyed.inside (h : TextKeyed v) (inner : Inside v v') : TextKeyed v' :=
  fun entries further => h entries (inner.trans further)

theorem TextKeyed.part (h : TextKeyed v) (inner : Part v v') : TextKeyed v' := h.inside inner.inside

section Texts

variable {keys : List Text} (distinct : keys.Nodup) (texts : entries.map Prod.fst = keys.map .str)
include distinct texts

theorem pairwise_of_texts : entries.Pairwise fun a b => a.1.sameKey b.1 = false := by
  have apart : (entries.map Prod.fst).Pairwise fun a b => a.sameKey b = false := by
    rw [texts, List.pairwise_map]
    exact distinct.imp fun ne => by simpa [sameKey] using ne
  exact List.pairwise_map.1 apart

theorem lookup_of_texts {e : Value × Value} (listed : e ∈ entries) :
    ∃ key, e.1 = .str key ∧ lookupText key entries = some e.2 := by
  have there : e.1 ∈ keys.map .str := texts ▸ List.mem_map_of_mem listed
  obtain ⟨key, -, named⟩ := List.mem_map.1 there
  refine ⟨key, named.symm, lookupText_of_mem (pairwise_of_texts distinct texts) ?_⟩
  rw [named]
  exact listed

end Texts

theorem TextKeyed.keyed (h : TextKeyed v) : Keyed v := by
  intro entries inner
  obtain ⟨keys, distinct, texts⟩ := h entries inner.inside
  exact pairwise_of_texts distinct texts

theorem TextKeyed.lookup (h : TextKeyed (.map entries)) {e : Value × Value} (listed : e ∈ entries) :
    ∃ key, e.1 = .str key ∧ lookupText key entries = some e.2 := by
  obtain ⟨keys, distinct, texts⟩ := h entries (.refl _)
  exact lookup_of_texts distinct texts listed

theorem TextKeyed.mem_iff (h : TextKeyed (.map entries)) :
    (.str key, v) ∈ entries ↔ lookupText key entries = some v := by
  constructor
  · intro listed
    obtain ⟨_, named, found⟩ := h.lookup listed
    cases named
    exact found
  · intro found
    obtain ⟨k, listed, named⟩ := exists_of_lookupText found
    rwa [isText_iff.1 named] at listed

theorem lookupText_ofEntries (l : List (Text × Value)) :
    lookupText key (l.map fun e => (.str e.1, e.2)) = l.lookup key := by
  induction l with
  | nil => rfl
  | cons e rest ih =>
    obtain ⟨first, v⟩ := e
    by_cases here : key = first
    · subst here
      simp [lookupText, isText]
    · have other : ¬ (str first).isText key = true := fun same =>
        here (str.inj (isText_iff.1 same)).symm
      rw [lookup_cons_of_ne here, List.map_cons, lookupText, if_neg other, ih]

theorem Rearranged.ofEntries {role : Role} {l l' : List (Text × Value)} (free : role ≠ .fixed)
    (keys : (l.map Prod.fst).Perm (l'.map Prod.fst))
    (order : role.isOrdered = true → l.map Prod.fst = l'.map Prod.fst)
    (parts : ∀ e ∈ l, Rearranged (role.part e.1) e.2 ((l'.lookup e.1).getD .null)) :
    Rearranged role (Value.ofEntries l) (Value.ofEntries l') := by
  have named (l : List (Text × Value)) : (l.map fun e => (str e.1, e.2)).map Prod.fst =
      (l.map Prod.fst).map .str := by
    simp
  refine .map free ?_ ?_ fun key v v' found found' => ?_
  · rw [named, named]
    exact keys.map _
  · intro ordered
    rw [named, named, order ordered]
  · rw [lookupText_ofEntries] at found found'
    have part := parts _ (OrderedMap.mem_of_lookup found)
    rwa [found'] at part

theorem textKeyed_list_iff {items : List Value} :
    TextKeyed (.list items) ↔ ∀ v ∈ items, TextKeyed v := by
  constructor
  · exact fun h v listed => h.inside (.item listed (.refl _))
  · intro parts entries inner
    cases inner with
    | item listed further => exact parts _ listed entries further

theorem textKeyed_map_iff : TextKeyed (.map entries) ↔
    (∃ keys : List Text, keys.Nodup ∧ entries.map Prod.fst = keys.map .str) ∧
      ∀ e ∈ entries, TextKeyed e.2 := by
  constructor
  · exact fun h => ⟨h entries (.refl _), fun e listed => h.inside (.entry listed (.refl _))⟩
  · rintro ⟨keys, parts⟩ further inner
    cases inner with
    | refl => exact keys
    | entry listed deeper => exact parts _ listed further deeper

theorem textKeyed_ofEntries {l : List (Text × Value)} (distinct : (l.map Prod.fst).Nodup)
    (parts : ∀ e ∈ l, TextKeyed e.2) : TextKeyed (Value.ofEntries l) := by
  refine textKeyed_map_iff.2 ⟨⟨l.map Prod.fst, distinct, by simp⟩, fun e listed => ?_⟩
  obtain ⟨e, there, rfl⟩ := List.mem_map.1 listed
  exact parts e there

theorem textKeyed_str (text : Text) : TextKeyed (.str text) := fun _ inner => nomatch inner

theorem textKeyed_int (n : Int) : TextKeyed (.int n) := fun _ inner => nomatch inner

theorem texts_of_perm {keys : List Text} {l : List Value} (distinct : keys.Nodup)
    (perm : (keys.map .str).Perm l) : ∃ keys' : List Text, keys'.Nodup ∧ l = keys'.map .str := by
  refine ⟨l.filterMap text?, ?_, ?_⟩
  · have same : (keys.map Value.str).filterMap text? = keys := by
      rw [List.filterMap_map]
      exact List.filterMap_some
    exact (same ▸ perm.filterMap text?).nodup_iff.1 distinct
  · have each : ∀ v ∈ l, ∃ text, v = .str text := fun v listed => by
      obtain ⟨text, -, rfl⟩ := List.mem_map.1 (perm.mem_iff.2 listed)
      exact ⟨text, rfl⟩
    clear perm
    induction l with
    | nil => rfl
    | cons v rest ih =>
      obtain ⟨text, rfl⟩ := each v List.mem_cons_self
      exact congrArg (_ :: ·) (ih fun other listed => each other (List.mem_cons_of_mem _ listed))

theorem Rearranged.textKeyed {role : Role} (h : Rearranged role v v') (keyed : TextKeyed v) :
    TextKeyed v' := by
  induction h with
  | same => exact keyed
  | list _ count _ ih =>
    rw [textKeyed_list_iff] at keyed ⊢
    intro v' listed'
    obtain ⟨v, listed, both⟩ :=
      exists_of_forall₂ (List.forall₂_iff_zip.2 ⟨count, fun both => both⟩) listed'
    exact ih v v' both (keyed v listed)
  | @map role es es' _ keys _ parts ih =>
    obtain ⟨⟨names, distinct, listed⟩, values⟩ := textKeyed_map_iff.1 keyed
    obtain ⟨names', distinct', listed'⟩ := texts_of_perm distinct (listed ▸ keys)
    refine textKeyed_map_iff.2 ⟨⟨names', distinct', listed'⟩, fun e there => ?_⟩
    obtain ⟨key, named, found'⟩ := lookup_of_texts distinct' listed' there
    have known : (lookupText key es).isSome = true := by
      rw [isSome_lookupText, keys.mem_iff, ← named]
      exact List.mem_map_of_mem there
    obtain ⟨v, found⟩ := Option.isSome_iff_exists.1 known
    exact ih key v e.2 found found' (keyed.part (part_of_lookupText found))
  | required members =>
    rw [textKeyed_list_iff] at keyed ⊢
    exact fun v listed => keyed v ((members v).2 listed)

end Look

/-- Rearranged values with texts for keys. -/
structure Matched (role : Role) (v v' : Value) : Prop where
  rearranged : Rearranged role v v'
  keyed : TextKeyed v
  keyed' : TextKeyed v'

/-- Rearranged mappings with texts for keys, by what is found in them. -/
structure Arranged (role : Role) (es es' : List (Value × Value)) : Prop where
  keyed : TextKeyed (.map es)
  keyed' : TextKeyed (.map es')
  keys : (es.map Prod.fst).Perm (es'.map Prod.fst)
  order : role.isOrdered = true → es.map Prod.fst = es'.map Prod.fst
  look : ∀ key, Option.Rel (Matched (role.part key)) (lookupText key es) (lookupText key es')

/-- The shapes that rearranged values can have. -/
inductive Matched.View (role : Role) : Value → Value → Prop where
  | map {es es' : List (Value × Value)} (entries : Arranged role es es') :
      View role (.map es) (.map es')
  | list {items items' : List Value} (each : List.Forall₂ (Matched role.item) items items') :
      View role (.list items) (.list items')
  | required {items items' : List Value} (isRequired : role = .required)
      (members : ∀ v, v ∈ items ↔ v ∈ items') : View role (.list items) (.list items')
  | leaf {v : Value} (noMap : ∀ es, v ≠ .map es) (noList : ∀ items, v ≠ .list items) :
      View role v v

namespace Matched

variable {role : Role} {v v' : Value}

theorem refl (keyed : TextKeyed v) : Matched role v v := ⟨.same v, keyed, keyed⟩

theorem look_of_perm {es es' : List (Value × Value)} (keyed : TextKeyed (.map es))
    (keyed' : TextKeyed (.map es')) (keys : (es.map Prod.fst).Perm (es'.map Prod.fst)) {key : Text}
    (parts : ∀ v v', lookupText key es = some v → lookupText key es' = some v' →
      Rearranged (role.part key) v v') :
    Option.Rel (Matched (role.part key)) (lookupText key es) (lookupText key es') := by
  have together : (lookupText key es).isSome = true ↔ (lookupText key es').isSome = true := by
    rw [isSome_lookupText, isSome_lookupText, keys.mem_iff]
  cases found : lookupText key es with
  | none =>
    cases found' : lookupText key es' with
    | none => exact .none
    | some v' => simp [found, found'] at together
  | some v =>
    cases found' : lookupText key es' with
    | none => simp [found, found'] at together
    | some v' =>
      exact .some ⟨parts v v' found found', keyed.part (part_of_lookupText found),
        keyed'.part (part_of_lookupText found')⟩

theorem view (h : Matched role v v') : View role v v' := by
  obtain ⟨rearranged, keyed, keyed'⟩ := h
  cases rearranged with
  | same =>
    cases v with
    | map es =>
      refine .map ⟨keyed, keyed, .refl _, fun _ => rfl, fun key => ?_⟩
      refine look_of_perm keyed keyed (.refl _) fun v v' found found' => ?_
      cases found.symm.trans found'
      exact .same v
    | list items =>
      exact .list
        (List.forall₂_same.2 fun part listed => .refl (keyed.part (.item listed (.refl _))))
    | _ => exact .leaf (fun _ => nofun) fun _ => nofun
  | list _ count parts =>
    refine .list (List.forall₂_iff_zip.2 ⟨count, fun {a b} both => ?_⟩)
    have there := List.of_mem_zip both
    exact ⟨parts a b both, keyed.part (.item there.1 (.refl _)),
      keyed'.part (.item there.2 (.refl _))⟩
  | map _ keys order parts =>
    exact .map ⟨keyed, keyed', keys, order, fun key => look_of_perm keyed keyed' keys (parts key)⟩
  | required members => exact .required rfl members

theorem eq_of_fixed (h : Matched .fixed v v') : v = v' := by
  cases h.rearranged with
  | same => rfl
  | list free => exact absurd rfl free
  | map free => exact absurd rfl free

theorem isPresent_eq (h : Matched role v v') : v.isPresent = v'.isPresent := by
  cases h.view with
  | @map es es' entries =>
    have count : es.length = es'.length := by simpa using entries.keys.length_eq
    cases es <;> cases es' <;> simp at count <;> rfl
  | list each => cases each <;> rfl
  | @required items items' _ members =>
    cases items with
    | nil =>
      cases items' with
      | nil => rfl
      | cons first rest => exact absurd ((members first).2 List.mem_cons_self) List.not_mem_nil
    | cons first rest =>
      cases items' with
      | nil => exact absurd ((members first).1 List.mem_cons_self) List.not_mem_nil
      | cons first' rest' => rfl
  | leaf => rfl

end Matched

namespace Arranged

variable {role : Role} {es es' : List (Value × Value)}

theorem nil (role : Role) : Arranged role [] [] := by
  have keyed : TextKeyed (.map []) := by
    intro entries inner
    cases inner with
    | refl => exact ⟨[], .nil, rfl⟩
    | entry listed => simp at listed
  exact ⟨keyed, keyed, .refl _, fun _ => rfl, fun _ => .none⟩

theorem lookupText_eq (h : Arranged role es es') (key : Text) (fixed : role.part key = .fixed) :
    lookupText key es = lookupText key es' := by
  have found := h.look key
  rw [fixed] at found
  generalize lookupText key es = part at *
  generalize lookupText key es' = part' at *
  cases found with
  | none => rfl
  | some related => rw [related.eq_of_fixed]

theorem get_eq (h : Arranged role es es') (key : Text) (fixed : role.part key = .fixed) :
    Value.get key es = Value.get key es' := by
  rw [Value.get, Value.get, h.lookupText_eq key fixed]

theorem getPresent?_eq (h : Arranged role es es') (key : Text) (fixed : role.part key = .fixed) :
    getPresent? key es = getPresent? key es' := by
  rw [getPresent?, getPresent?, h.lookupText_eq key fixed]

end Arranged

/-! What is found in two mappings. -/

section Found

variable {role : Role} {es es' : List (Value × Value)} {key : Text}

theorem rel_getPresent?
    (found : Option.Rel (Matched role) (lookupText key es) (lookupText key es')) :
    Option.Rel (Matched role) (getPresent? key es) (getPresent? key es') := by
  unfold getPresent?
  generalize lookupText key es = part at *
  generalize lookupText key es' = part' at *
  cases found with
  | none => exact .none
  | @some v v' related =>
    rw [Option.filter_some, Option.filter_some, related.isPresent_eq]
    split
    · exact .some related
    · exact .none

theorem rel_getSome? (found : Option.Rel (Matched role) (lookupText key es) (lookupText key es')) :
    Option.Rel (Matched role) (getSome? key es) (getSome? key es') := by
  unfold getSome?
  generalize lookupText key es = part at *
  generalize lookupText key es' = part' at *
  cases found with
  | none => exact .none
  | @some v v' related =>
    cases related.view with
    | map _ => exact .some related
    | list _ => exact .some related
    | required _ _ => exact .some related
    | leaf _ _ =>
      cases v with
      | null => exact .none
      | _ => exact .some related

theorem has_eq (found : Option.Rel (Matched role) (lookupText key es) (lookupText key es')) :
    has key es = has key es' := by
  unfold has
  generalize lookupText key es = part at *
  generalize lookupText key es' = part' at *
  cases found <;> rfl

end Found

theorem Arranged.entries {role : Role} {es es' : List (Value × Value)} (h : Arranged role es es')
    (inner : Role) (ordered : role.isOrdered = true) (uniform : ∀ key, role.part key = inner) :
    List.Forall₂ (fun e e' => e.1 = e'.1 ∧ Matched inner e.2 e'.2) es es' := by
  have beside : List.Forall₂ (fun e e' => e.1 = e'.1) es es' := by
    have listed : List.Forall₂ (· = ·) (es.map Prod.fst) (es'.map Prod.fst) := by
      rw [List.forall₂_eq_eq_eq]
      exact h.order ordered
    exact List.forall₂_map_right_iff.1 (List.forall₂_map_left_iff.1 listed)
  obtain ⟨count, same⟩ := List.forall₂_iff_zip.1 beside
  refine List.forall₂_iff_zip.2 ⟨count, fun {e e'} both => ⟨same both, ?_⟩⟩
  have there := List.of_mem_zip both
  obtain ⟨key, named, found⟩ := h.keyed.lookup there.1
  obtain ⟨key', named', found'⟩ := h.keyed'.lookup there.2
  have keys : key = key' := by
    have := same both
    rw [named, named'] at this
    cases this
    rfl
  subst keys
  have matched := h.look key
  rw [found, found', uniform] at matched
  cases matched with
  | some related => exact related

/-! What stands anywhere in rearranged values. -/

section Anywhere

variable {role : Role} {v v' : Value}

theorem Rearranged.text?_eq (h : Rearranged role v v') : v.text? = v'.text? := by
  cases h <;> rfl

theorem bind_text?_eq {es es' : List (Value × Value)} {key : Text}
    (keys : (es.map Prod.fst).Perm (es'.map Prod.fst))
    (parts : ∀ v v', lookupText key es = some v → lookupText key es' = some v' →
      Rearranged role v v') :
    (lookupText key es).bind text? = (lookupText key es').bind text? := by
  have together : (lookupText key es).isSome = true ↔ (lookupText key es').isSome = true := by
    rw [isSome_lookupText, isSome_lookupText, keys.mem_iff]
  cases found : lookupText key es with
  | none =>
    cases found' : lookupText key es' with
    | none => rfl
    | some v' => simp [found, found'] at together
  | some v =>
    cases found' : lookupText key es' with
    | none => simp [found, found'] at together
    | some v' => exact (parts v v' found found').text?_eq

theorem of?_eq_bind (es : List (Value × Value)) :
    Pointer.of? es = (lookupText "$ref" es).bind text? := by
  unfold Pointer.of?
  cases lookupText "$ref" es with
  | none => rfl
  | some v => cases v <;> rfl

theorem exists_iff_of_forall₂ {q : Value → Prop} {items items' : List Value}
    (each : List.Forall₂ (fun v v' => q v ↔ q v') items items') :
    (∃ v ∈ items, q v) ↔ ∃ v ∈ items', q v := by
  induction each with
  | nil => rfl
  | cons first _ ih => rw [List.exists_mem_cons_iff, List.exists_mem_cons_iff, first, ih]

theorem TextKeyed.exists_iff {q : Value → Prop} {es : List (Value × Value)}
    (keyed : TextKeyed (.map es)) :
    (∃ e ∈ es, q e.2) ↔ ∃ key v, lookupText key es = some v ∧ q v := by
  constructor
  · rintro ⟨e, listed, holds⟩
    obtain ⟨key, -, found⟩ := keyed.lookup listed
    exact ⟨key, e.2, found, holds⟩
  · rintro ⟨key, v, found, holds⟩
    obtain ⟨k, listed, -⟩ := exists_of_lookupText found
    exact ⟨(k, v), listed, holds⟩

theorem Rearranged.iff_of_parts {q : Value → Prop} {p : Option Text → Prop}
    (ofList : ∀ items, q (.list items) ↔ ∃ v ∈ items, q v)
    (ofMap : ∀ es, q (.map es) ↔ p (Pointer.of? es) ∨ ∃ e ∈ es, q e.2)
    (h : Rearranged role v v') (keyed : TextKeyed v) (keyed' : TextKeyed v') : q v ↔ q v' := by
  induction h with
  | same v => rfl
  | @list role items items' _ count parts ih =>
    rw [ofList, ofList]
    refine exists_iff_of_forall₂ (List.forall₂_iff_zip.2 ⟨count, fun {a b} both => ?_⟩)
    have there := List.of_mem_zip both
    exact ih a b both (keyed.part (.item there.1 (.refl _))) (keyed'.part (.item there.2 (.refl _)))
  | @map role es es' _ keys _ parts ih =>
    have pointers : Pointer.of? es = Pointer.of? es' := by
      rw [of?_eq_bind, of?_eq_bind]
      exact bind_text?_eq keys (parts _)
    have values (key : Text) : (∃ v, lookupText key es = some v ∧ q v) ↔
        ∃ v, lookupText key es' = some v ∧ q v := by
      have together := Matched.look_of_perm keyed keyed' keys (parts key)
      cases found : lookupText key es with
      | none =>
        rw [found] at together
        cases found' : lookupText key es' with
        | none => rfl
        | some v' => rw [found'] at together; cases together
      | some v =>
        rw [found] at together
        cases found' : lookupText key es' with
        | none => rw [found'] at together; cases together
        | some v' =>
          have same := ih key v v' found found' (keyed.part (part_of_lookupText found))
            (keyed'.part (part_of_lookupText found'))
          simpa using same
    rw [ofMap, ofMap, pointers, keyed.exists_iff, keyed'.exists_iff]
    simp only [values]
  | required members =>
    rw [ofList, ofList]
    simp only [members]

theorem Matched.mem_allOf_iff (h : Matched role v v') (pointer : Text) :
    pointer ∈ Pointer.allOf v ↔ pointer ∈ Pointer.allOf v' := by
  refine Rearranged.iff_of_parts (q := fun v => pointer ∈ Pointer.allOf v) (p := (· = some pointer))
    ?_ ?_ h.rearranged h.keyed h.keyed'
  · intro items
    rw [Pointer.allOf, Pointer.mem_allOfItems]
  · intro es
    rw [Pointer.allOf, List.mem_append, Pointer.mem_allOfEntries, Option.mem_toList]

theorem Matched.isTree_iff (h : Matched role v v') : v.isTree = true ↔ v'.isTree = true := by
  have broken : ¬ v.isTree = true ↔ ¬ v'.isTree = true := by
    refine Rearranged.iff_of_parts (q := fun v => ¬ v.isTree = true) (p := fun _ => False) ?_ ?_
      h.rearranged h.keyed h.keyed'
    · intro items
      simp [Value.isTree, areTrees_iff]
    · intro es
      simp [Value.isTree, holdTrees_iff]
  exact not_iff_not.1 broken

end Anywhere

end Value

open Value (Matched Arranged)

namespace Pointer

variable {v v' : Value} {doc doc' : List (Value × Value)} {pointer segment : Text}

theorem step_concur (h : Matched .schemas v v') (pointer segment : Text) :
    Concur (fun _ _ => True) (step pointer segment v) (step pointer segment v') := by
  cases h.view with
  | @map es es' entries =>
    have found := entries.look segment
    unfold step
    dsimp only
    generalize Value.lookupText segment es = part at *
    generalize Value.lookupText segment es' = part' at *
    cases found with
    | none => exact .error _ _
    | some _ => exact .ok trivial
  | @list items items' each =>
    have count := each.length_eq
    unfold step
    dsimp only
    cases Number.integer? segment with
    | none => exact .error _ _
    | some index =>
      simp only [Option.bind_some, itemAt?, count]
      generalize (if index < 0 then index + (items'.length : Int) else index) = place
      by_cases negative : place < 0
      · rw [if_pos negative, if_pos negative]
        exact .error _ _
      rw [if_neg negative, if_neg negative]
      by_cases inside : place.toNat < items'.length
      · rw [List.getElem?_eq_getElem (count ▸ inside), List.getElem?_eq_getElem inside]
        exact .ok trivial
      · rw [List.getElem?_eq_none (by omega), List.getElem?_eq_none (by omega)]
        exact .error _ _
  | required isRequired => cases isRequired
  | leaf noMap noList =>
    exact (Concur.refl _).imp fun _ _ _ => trivial

theorem walk_schemas_concur (h : Matched .schemas v v') (pointer segment : Text) :
    Concur (fun _ _ => True) (walk pointer [segment] v) (walk pointer [segment] v') := by
  rw [walk_single, walk_single]
  exact step_concur h pointer _

theorem walk_found_concur (role : Role) {es es' : List (Value × Value)} {key : Text}
    {rest : List Text} (found : Option.Rel (Matched role) (Value.lookupText (unescape key) es)
      (Value.lookupText (unescape key) es'))
    (tree : (Value.map es).isTree = true) (tree' : (Value.map es').isTree = true)
    (next : ∀ v v', v.isTree = true → v'.isTree = true → Matched role v v' →
      Concur (fun _ _ => True) (walk pointer rest v) (walk pointer rest v')) :
    Concur (fun _ _ => True) (walk pointer (key :: rest) (.map es))
      (walk pointer (key :: rest) (.map es')) := by
  rw [walk_map tree, walk_map tree']
  have within {es : List (Value × Value)} (tree : (Value.map es).isTree = true) :
      ∀ v, Value.lookupText (unescape key) es = some v → v.isTree = true :=
    fun v found => (Value.part_of_lookupText found).isTree tree
  have trees := within tree
  have trees' := within tree'
  generalize Value.lookupText (unescape key) es = part at *
  generalize Value.lookupText (unescape key) es' = part' at *
  cases found with
  | none => exact .error _ _
  | @some v v' related => exact next v v' (trees v rfl) (trees' v' rfl) related

theorem follow_concur (h : Arranged .document doc doc') (tree : (Value.map doc).isTree = true)
    (tree' : (Value.map doc').isTree = true) (named : (schemaName? pointer).isSome) :
    Concur (fun _ _ => True) (follow (.map doc) pointer) (follow (.map doc') pointer) := by
  have plain : ∀ key ∈ ([("definitions" : Text), "components", "schemas"] : List Text),
      unescape key = key := by decide
  obtain ⟨segment, ⟨-, path⟩ | path⟩ := follow_of_schemaName? named
  · rw [path, path]
    refine walk_found_concur .schemas ?_ tree tree' fun v v' _ _ related =>
      walk_schemas_concur related pointer segment
    rw [plain _ (by decide)]
    exact h.look "definitions"
  · rw [path, path]
    refine walk_found_concur .components ?_ tree tree' fun v v' inner inner' related => ?_
    · rw [plain _ (by decide)]
      exact h.look "components"
    cases related.view with
    | map entries =>
      refine walk_found_concur .schemas ?_ inner inner' fun v v' _ _ related =>
        walk_schemas_concur related pointer segment
      rw [plain _ (by decide)]
      exact entries.look "schemas"
    | list each =>
      have word : Number.integer? (unescape "schemas") = none := by decide
      simp only [walk, step, word, Option.bind_none]
      exact .error _ _
    | required isRequired => cases isRequired
    | leaf noMap noList => exact (Concur.refl _).imp fun _ _ _ => trivial

theorem resolve_concur (h : Matched .document (.map doc) (.map doc'))
    (named : ∀ pointer ∈ allOf (.map doc), (schemaName? pointer).isSome) :
    Concur (fun v v' => v = .map doc ∧ v' = .map doc') (resolve (.map doc))
      (resolve (.map doc')) := by
  have named' : ∀ pointer ∈ allOf (.map doc'), (schemaName? pointer).isSome :=
    fun pointer listed => named pointer ((h.mem_allOf_iff pointer).2 listed)
  have entries : Arranged .document doc doc' := by
    cases h.view with
    | map entries => exact entries
    | leaf noMap => exact absurd rfl (noMap doc)
  have sound : Sound (.map doc) (.map doc) ↔ Sound (.map doc') (.map doc') := by
    have leads (tree : (Value.map doc).isTree = true) (tree' : (Value.map doc').isTree = true)
        {pointer : Text} (listed : pointer ∈ allOf (.map doc)) :
        (∃ target, follow (.map doc) pointer = .ok target) ↔
          ∃ target, follow (.map doc') pointer = .ok target :=
      (follow_concur entries tree tree' (named pointer listed)).isOk_iff
    constructor
    · intro sound
      have tree' := h.isTree_iff.1 sound.isTree
      refine ⟨tree', fun pointer listed => ?_⟩
      have listed := (h.mem_allOf_iff pointer).2 listed
      exact (leads sound.isTree tree' listed).1 (sound.each pointer listed)
    · intro sound
      have tree := h.isTree_iff.2 sound.isTree
      refine ⟨tree, fun pointer listed => ?_⟩
      exact (leads tree sound.isTree listed).2
        (sound.each pointer ((h.mem_allOf_iff pointer).1 listed))
  cases done : resolve (.map doc) with
  | ok v =>
    obtain ⟨rfl, self⟩ := (resolve_eq_ok_iff h.keyed.keyed named).1 done
    rw [(resolve_eq_ok_iff h.keyed'.keyed named').2 ⟨rfl, sound.1 self⟩]
    exact .ok ⟨rfl, rfl⟩
  | error e =>
    cases done' : resolve (.map doc') with
    | error e' => exact .error e e'
    | ok v' =>
      obtain ⟨rfl, self⟩ := (resolve_eq_ok_iff h.keyed'.keyed named').1 done'
      rw [(resolve_eq_ok_iff h.keyed.keyed named).2 ⟨rfl, sound.2 self⟩] at done
      cases done

end Pointer

end ApiModel

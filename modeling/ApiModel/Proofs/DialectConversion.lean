import ApiModel.Api.Read
import ApiModel.Proofs.SchemaPointers

/-! Documents of the older dialect, written in the newer one. Schemas that stand beside plain keys
get a key of their own, the body leaves the parameters, and media types are written with what they
carry. No pointer is made on the way, and none is led elsewhere. -/
namespace ApiModel

namespace Value

/-- What may stand under a key of a written document: no pair, and no set of other things than
keys. -/
def isOrdinary : Value → Bool
  | pair _ _ => false
  | set items => items.all isKey
  | _ => true

mutual
/-- Whether a value can be written: no mapping holds a key twice, keys can be keys, and pairs stand
in lists alone. -/
def isWritten : Value → Bool
  | list items => areWritten items
  | map entries =>
    decide (entries.Pairwise fun a b => a.1.sameKey b.1 = false) && holdWritten entries
  | _ => true

def areWritten : List Value → Bool
  | [] => true
  | v :: rest => v.isWritten && areWritten rest

def holdWritten : List (Value × Value) → Bool
  | [] => true
  | (k, v) :: rest => k.isKey && v.isOrdinary && v.isWritten && holdWritten rest
end

abbrev Written (v : Value) : Prop := v.isWritten = true

theorem areWritten_iff {items : List Value} : areWritten items = true ↔ ∀ v ∈ items, Written v := by
  induction items with
  | nil => simp [areWritten]
  | cons v rest ih => simp [areWritten, ih]

theorem holdWritten_iff {entries : List (Value × Value)} : holdWritten entries = true ↔
    ∀ e ∈ entries, (e.1.isKey = true ∧ e.2.isOrdinary = true) ∧ Written e.2 := by
  induction entries with
  | nil => simp [holdWritten]
  | cons e rest ih => simp [holdWritten, ih]

theorem written_map_iff {entries : List (Value × Value)} : Written (.map entries) ↔
    (entries.Pairwise fun a b => a.1.sameKey b.1 = false) ∧
      ∀ e ∈ entries, (e.1.isKey = true ∧ e.2.isOrdinary = true) ∧ Written e.2 := by
  rw [Written, isWritten, Bool.and_eq_true, decide_eq_true_iff, holdWritten_iff]

theorem Part.written {v part : Value} (h : Part v part) (written : Written v) : Written part := by
  induction h with
  | refl v => exact written
  | item listed _ ih =>
    rw [Written, isWritten, areWritten_iff] at written
    exact ih (written _ listed)
  | entry listed _ ih => exact ih ((written_map_iff.1 written).2 _ listed).2

theorem keyed_of_written {v : Value} (written : Written v) : Keyed v :=
  fun _ inner => (written_map_iff.1 (inner.written written)).1

/-- An item of a value that stands under a key is no mapping, unless the value is a list. -/
theorem part_of_items {v : Value} {items : List Value} {fields : List (Value × Value)}
    (h : Written v)
    (ordinary : v.isOrdinary = true) (given : v.items = .ok items) (listed : .map fields ∈ items) :
    Part v (.map fields) := by
  cases v with
  | list items =>
    cases given
    exact .item listed (.refl _)
  | map entries =>
    cases given
    obtain ⟨e, there, same⟩ := List.mem_map.1 listed
    have key := ((written_map_iff.1 h).2 e there).1.1
    rw [same] at key
    simp [isKey] at key
  | set items =>
    cases given
    have key := List.all_eq_true.1 ordinary _ listed
    simp [isKey] at key
  | pair a b => simp [isOrdinary] at ordinary
  | str text =>
    cases given
    simp at listed
  | bytes data =>
    cases given
    simp at listed
  | _ => cases given

/-! Look-ups in mappings that are put together. -/

variable {key : Text}

theorem lookupText_append (a b : List (Value × Value)) :
    lookupText key (a ++ b) = (lookupText key a).or (lookupText key b) := by
  induction a with
  | nil => rfl
  | cons e rest ih =>
    obtain ⟨k, v⟩ := e
    rw [List.cons_append, lookupText, lookupText, ih]
    split <;> rfl

end Value

namespace Api

open Document (Entries)
open Value (Part Written)

def isAmong (keys : List Text) (k : Value) : Bool := keys.any fun key => k.isText key

def without (keys : List Text) (entries : Entries) : Entries :=
  entries.filter fun e => !isAmong keys e.1

def changeAt (keys : List Text) (change : Value → Value) (entries : Entries) : Entries :=
  entries.map fun e => (e.1, if isAmong keys e.1 then change e.2 else e.2)

/-- Changes the entries of a mapping; any other value stays. -/
def inMapping (change : Entries → Entries) : Value → Value
  | .map entries => .map (change entries)
  | v => v

def inEach (change : Entries → Entries) : Value → Value :=
  inMapping fun entries => entries.map fun e => (e.1, inMapping change e.2)

def convertPart (entries : Entries) : Entries :=
  entries.filter (fun e => isAmong plainKeys e.1) ++
    [(.str "schema", .map (without ("content" :: plainKeys) entries))]

def contentOf (types : Value) (schema : Option Value) : Value :=
  let media := Value.ofEntries (schema.toList.map fun v => ("schema", v))
  .map (((types.items.toOption).getD []).foldl
    (fun entries type => Value.putKey type media entries) [])

def convertBody (consumes : Value) (entries : Entries) : Entries :=
  entries.filter (fun e => isAmong ["required", "description"] e.1) ++
    [(.str "content", contentOf consumes (Value.getSome? "schema" entries))]

def convertResponse (produces : Value) (entries : Entries) : Entries :=
  changeAt ["headers"] (inEach convertPart) (without ["schema", "content"] entries) ++
    (Value.getSome? "schema" entries).toList.map fun v =>
      (.str "content", contentOf produces (some v))

def isBody (entries : Entries) : Bool := (Value.get "in" entries).isText "body"

/-- An operation with all parameters that apply to it; of several bodies the last counts. -/
def convertOperation (document item operation : Entries) : Entries :=
  let merged := (mergedParameters item operation).toOption.getD []
  let produces := mediaTypes "produces" document operation
  let consumes := mediaTypes "consumes" document operation
  changeAt ["responses"] (inEach (convertResponse produces))
      (without ["parameters", "requestBody"] operation) ++
    ([(.str "parameters",
      .list ((merged.filter fun p => !isBody p).map fun p => .map (convertPart p)))] ++
      (merged.filter isBody).getLast?.toList.map fun p =>
        (.str "requestBody", .map (convertBody consumes p)))

def convertItem (document item : Entries) : Entries :=
  changeAt (Method.all.map Method.word) (inMapping (convertOperation document item))
    (without ["parameters"] item)

/-- The document in the newer dialect, in which the keys `dropped` have a meaning that they did not
have; definitions also stand where the newer dialect keeps its schemas. -/
def convert (dropped : List Text) (document : Entries) : Entries :=
  changeAt ["paths"] (inEach (convertItem document)) (without dropped document) ++
    (Value.lookupText "definitions" document).toList.map fun v =>
      (.str "components", .ofEntries [("schemas", v)])

/-! What is found in the results. -/

section Look

variable {key : Text} {keys : List Text} {entries : Entries}

theorem isAmong_str : isAmong keys (.str key) = decide (key ∈ keys) := by
  rw [Bool.eq_iff_iff]
  simp [isAmong, Value.isText]

theorem lookupText_without :
    Value.lookupText key (without keys entries) =
      if key ∈ keys then none else Value.lookupText key entries := by
  rw [without, Value.lookupText_filter (fun k => !isAmong keys k), isAmong_str]
  by_cases among : key ∈ keys <;> simp [among]

theorem lookupText_among :
    Value.lookupText key (entries.filter fun e => isAmong keys e.1) =
      if key ∈ keys then Value.lookupText key entries else none := by
  rw [Value.lookupText_filter (isAmong keys), isAmong_str]
  simp

theorem lookupText_changeAt (change : Value → Value) :
    Value.lookupText key (changeAt keys change entries) =
      if key ∈ keys then (Value.lookupText key entries).map change
      else Value.lookupText key entries := by
  rw [changeAt, Value.lookupText_map fun k v => if isAmong keys k then change v else v, isAmong_str]
  by_cases among : key ∈ keys <;> simp [among]

theorem lookupText_single (k : Text) (v : Value) :
    Value.lookupText key [(.str k, v)] = if key = k then some v else none := by
  by_cases same : key = k
  · subst same
    simp [Value.lookupText, Value.isText]
  · have other : ¬ k = key := fun reversed => same reversed.symm
    simp [Value.lookupText, Value.isText, same, other]

theorem lookupText_toList_map {α : Type} (k : Text) (part : Option α) (f : α → Value) :
    Value.lookupText key (part.toList.map fun v => (.str k, f v)) =
      if key = k then part.map f else none := by
  cases part with
  | none => simp [Value.lookupText]
  | some v => exact lookupText_single k (f v)

end Look

/-! Pointers in the results. -/

section Clean

variable {q : Text → Prop} {entries : Entries} {v : Value}

theorem clean_filter (h : Pointer.Clean q (.map entries)) (keep : Value → Bool) :
    Pointer.Clean q (.map (entries.filter fun e => keep e.1)) := by
  refine .map ?_ ?_
  · intro e listed
    exact h.part (.entry (List.mem_of_mem_filter listed) (.refl _))
  · intro pointer found
    unfold Pointer.of? at found
    rw [Value.lookupText_filter] at found
    by_cases kept : keep (.str "$ref") = true
    · rw [if_pos kept] at found
      exact h.own found
    · rw [if_neg kept] at found
      cases found

theorem clean_without (h : Pointer.Clean q (.map entries)) (keys : List Text) :
    Pointer.Clean q (.map (without keys entries)) :=
  clean_filter h fun k => !isAmong keys k

theorem clean_append {a b : Entries} (h : Pointer.Clean q (.map a))
    (h' : Pointer.Clean q (.map b)) :
    Pointer.Clean q (.map (a ++ b)) := by
  refine .map ?_ ?_
  · intro e listed
    rcases List.mem_append.1 listed with there | there
    · exact h.part (.entry there (.refl _))
    · exact h'.part (.entry there (.refl _))
  · intro pointer found
    unfold Pointer.of? at found
    rw [Value.lookupText_append] at found
    cases first : Value.lookupText "$ref" a with
    | none =>
      rw [first, Option.none_or] at found
      exact h'.own found
    | some v =>
      refine h.own ?_
      rw [Pointer.of?, first]
      rwa [first, Option.some_or] at found

/-- Other values under the same keys make no pointer, unless they are texts. -/
theorem clean_map {f : Value → Value → Value} (h : Pointer.Clean q (.map entries))
    (parts : ∀ e ∈ entries, Pointer.Clean q (f e.1 e.2))
    (texts : ∀ k v text, f k v = .str text → v = .str text) :
    Pointer.Clean q (.map (entries.map fun e => (e.1, f e.1 e.2))) := by
  refine .map ?_ ?_
  · intro e listed
    obtain ⟨e, there, rfl⟩ := List.mem_map.1 listed
    exact parts e there
  · intro pointer found
    refine h.own ?_
    -- a pointer is a text, and no text was changed
    unfold Pointer.of? at found ⊢
    rw [Value.lookupText_map] at found
    cases first : Value.lookupText "$ref" entries with
    | none => simp [first] at found
    | some v =>
      cases changed : f (.str "$ref") v with
      | str text =>
        rw [texts _ _ _ changed]
        simpa [first, changed] using found
      | _ => simp [first, changed] at found

theorem clean_single {key : Text} (other : key ≠ "$ref") (h : Pointer.Clean q v) :
    Pointer.Clean q (.map [(.str key, v)]) := by
  refine .map ?_ ?_
  · simpa using h
  · intro pointer found
    rw [Pointer.of?, lookupText_single, if_neg fun same => other same.symm] at found
    cases found

theorem clean_toList_map {α : Type} {part : Option α} {key : Text} {f : α → Value}
    (other : key ≠ "$ref") (h : ∀ v, part = some v → Pointer.Clean q (f v)) :
    Pointer.Clean q (.map (part.toList.map fun v => (.str key, f v))) := by
  cases part with
  | none => exact .map (by simp) (by simp [Pointer.of?, Value.lookupText])
  | some v => exact clean_single other (h v rfl)

theorem clean_inMapping {change : Entries → Entries} (h : Pointer.Clean q v)
    (inner : ∀ entries, v = .map entries → Pointer.Clean q (.map (change entries))) :
    Pointer.Clean q (inMapping change v) := by
  cases v with
  | map entries => exact inner entries rfl
  | _ => exact h

theorem inMapping_str {change : Entries → Entries} {text : Text}
    (h : inMapping change v = .str text) :
    v = .str text := by
  cases v with
  | map entries => cases h
  | _ => exact h

theorem clean_changeAt {keys : List Text} {change : Entries → Entries}
    (h : Pointer.Clean q (.map entries))
    (inner : ∀ k fields, (k, .map fields) ∈ entries → Pointer.Clean q (.map (change fields))) :
    Pointer.Clean q (.map (changeAt keys (inMapping change) entries)) := by
  refine clean_map (f := fun k v => if isAmong keys k then inMapping change v else v) h ?_ ?_
  · intro e listed
    have part := h.part (.entry listed (.refl _))
    split
    · exact clean_inMapping part fun fields same => inner e.1 fields (same ▸ listed)
    · exact part
  · intro k v text same
    split at same
    · exact inMapping_str same
    · exact same

theorem clean_inEach {change : Entries → Entries} (h : Pointer.Clean q (.map entries))
    (inner : ∀ k fields, (k, .map fields) ∈ entries → Pointer.Clean q (.map (change fields))) :
    Pointer.Clean q (.map (entries.map fun e => (e.1, inMapping change e.2))) := by
  refine clean_map (f := fun _ => inMapping change) h ?_ fun _ _ _ => inMapping_str
  intro e listed
  exact clean_inMapping (h.part (.entry listed (.refl _))) fun fields same =>
    inner e.1 fields (same ▸ listed)

theorem clean_convertPart (h : Pointer.Clean q (.map entries)) :
    Pointer.Clean q (.map (convertPart entries)) :=
  clean_append (clean_filter h _) (clean_single (by decide) (clean_without h _))

theorem mem_foldl_putKey {media : Value} {types : List Value} {done : Entries} {e : Value × Value}
    (listed : e ∈ types.foldl (fun entries type => Value.putKey type media entries) done) :
    e.2 = media ∨ e ∈ done := by
  have put (type : Value) {e : Value × Value} {done : Entries}
      (listed : e ∈ Value.putKey type media done) :
      e.2 = media ∨ e ∈ done := by
    induction done with
    | nil =>
      cases List.mem_singleton.1 listed
      exact .inl rfl
    | cons first rest ih =>
      unfold Value.putKey at listed
      split at listed
      · rcases List.mem_cons.1 listed with rfl | there
        · exact .inl rfl
        · exact .inr (List.mem_cons_of_mem _ there)
      · rcases List.mem_cons.1 listed with rfl | there
        · exact .inr List.mem_cons_self
        · exact (ih there).imp_right (List.mem_cons_of_mem _)
  induction types generalizing done with
  | nil => exact .inr listed
  | cons type rest ih =>
    rcases ih listed with same | there
    · exact .inl same
    · exact put type there

theorem clean_contentOf {schema : Option Value} (h : ∀ v, schema = some v → Pointer.Clean q v)
    (types : Value) : Pointer.Clean q (contentOf types schema) := by
  have media : Pointer.Clean q (Value.ofEntries (schema.toList.map fun v => ("schema", v))) := by
    have entries := clean_toList_map (f := id) (show ("schema" : Text) ≠ "$ref" by decide) h
    rwa [Value.ofEntries, List.map_map]
  refine .map ?_ ?_
  · intro e listed
    rcases mem_foldl_putKey listed with same | there
    · exact same ▸ media
    · cases there
  · -- a media type may be spelled like the key of a pointer, but a mapping stands under it
    intro pointer found
    unfold Pointer.of? at found
    split at found
    · rename_i text there
      obtain ⟨k, listed, -⟩ := Value.exists_of_lookupText there
      rcases mem_foldl_putKey listed with same | there
      · cases same
      · cases there
    · cases found

theorem part_of_getSome? {key : Text} (found : Value.getSome? key entries = some v) :
    Part (.map entries) v := by
  unfold Value.getSome? at found
  split at found
  · cases found
  · exact Value.part_of_lookupText found

theorem clean_convertBody (h : Pointer.Clean q (.map entries)) (consumes : Value) :
    Pointer.Clean q (.map (convertBody consumes entries)) :=
  clean_append (clean_filter h _)
    (clean_single (by decide)
      (clean_contentOf (fun _ found => h.part (part_of_getSome? found)) consumes))

theorem clean_convertResponse (h : Pointer.Clean q (.map entries)) (produces : Value) :
    Pointer.Clean q (.map (convertResponse produces entries)) := by
  have kept : Pointer.Clean q (.map (without ["schema", "content"] entries)) := clean_without h _
  refine clean_append ?_ (clean_toList_map (by decide) fun v found => clean_contentOf ?_ produces)
  · refine clean_changeAt kept fun _ fields there => ?_
    have headers := kept.part (.entry there (.refl _))
    exact clean_inEach headers fun _ header inner =>
      clean_convertPart (headers.part (.entry inner (.refl _)))
  · rintro _ ⟨⟩
    exact h.part (part_of_getSome? found)

end Clean

/-! Parameters that apply to an operation. -/

section Merged

variable {item operation entries fields : Entries} {merged : List Entries}

theorem parameterKey_eq_ok_iff {v : Value} {r : Entries × Value} :
    parameterKey v = .ok r ↔ v = .map r.1 ∧
      r.2 = .pair (Value.get "name" r.1) (Value.get "in" r.1) ∧ r.2.isKey = true := by
  obtain ⟨fields, key⟩ := r
  unfold parameterKey
  cases v with
  | map entries =>
    simp only [Value.mapping, bind, Except.bind]
    split
    · rename_i isKey
      simp only [pure, Except.pure, Except.ok.injEq, Prod.mk.injEq, Value.map.injEq]
      constructor
      · rintro ⟨rfl, rfl⟩
        exact ⟨rfl, rfl, isKey⟩
      · rintro ⟨rfl, rfl, -⟩
        exact ⟨rfl, rfl⟩
    · rename_i noKey
      simp only [reduceCtorEq, false_iff, not_and]
      rintro ⟨⟩ rfl
      exact noKey
  | _ => simp [Value.mapping, bind, Except.bind]

theorem mergedParameters_spec (done : mergedParameters item operation = .ok merged) :
    ∃ shared own, parametersAt item = .ok shared ∧ parametersAt operation = .ok own ∧
      ∀ p ∈ merged, (.map p ∈ shared ∨ .map p ∈ own) ∧
        (Value.pair (Value.get "name" p) (Value.get "in" p)).isKey = true := by
  obtain ⟨own, ownItems, done⟩ := bind_eq_ok_iff.1 done
  obtain ⟨ownKeyed, ownKeys, done⟩ := bind_eq_ok_iff.1 done
  obtain ⟨shared, sharedItems, done⟩ := bind_eq_ok_iff.1 done
  obtain ⟨sharedKeyed, sharedKeys, done⟩ := bind_eq_ok_iff.1 done
  have source {items : List Value} {keyed : List (Entries × Value)} {r : Entries × Value}
      (keys : items.mapM parameterKey = .ok keyed) (there : r ∈ keyed) :
      .map r.1 ∈ items ∧ (Value.pair (Value.get "name" r.1) (Value.get "in" r.1)).isKey = true := by
    obtain ⟨v, listed, read⟩ := exists_of_forall₂ (mapM_eq_ok_iff.1 keys) there
    obtain ⟨rfl, key, isKey⟩ := parameterKey_eq_ok_iff.1 read
    exact ⟨listed, key ▸ isKey⟩
  refine ⟨shared, own, sharedItems, ownItems, fun p listed => ?_⟩
  cases done
  rw [List.map_append, List.mem_append, List.mem_map, List.mem_map] at listed
  rcases listed with ⟨r, there, rfl⟩ | ⟨r, there, rfl⟩
  · have found := source sharedKeys (List.mem_of_mem_filter there)
    exact ⟨.inl found.1, found.2⟩
  · have found := source ownKeys there
    exact ⟨.inr found.1, found.2⟩

theorem part_of_parametersAt {items : List Value} (written : Written (.map entries))
    (given : parametersAt entries = .ok items) (listed : .map fields ∈ items) :
    Part (.map entries) (.map fields) := by
  unfold parametersAt at given
  split at given
  · rename_i v found
    have there : Value.lookupText "parameters" entries = some v :=
      (Option.filter_eq_some_iff.1 found).1
    have part := Value.part_of_lookupText there
    obtain ⟨k, inside, -⟩ := Value.exists_of_lookupText there
    have ordinary := ((Value.written_map_iff.1 written).2 (k, v) inside).1.2
    exact part.trans (Value.part_of_items (part.written written) ordinary given listed)
  · cases given
    cases listed

theorem part_of_mergedParameters (writtenItem : Written (.map item))
    (writtenOwn : Written (.map operation))
    (done : mergedParameters item operation = .ok merged) {p : Entries} (listed : p ∈ merged) :
    Part (.map item) (.map p) ∨ Part (.map operation) (.map p) := by
  obtain ⟨shared, own, sharedItems, ownItems, each⟩ := mergedParameters_spec done
  rcases (each p listed).1 with there | there
  · exact .inl (part_of_parametersAt writtenItem sharedItems there)
  · exact .inr (part_of_parametersAt writtenOwn ownItems there)

end Merged

/-! Pointers in converted documents. -/

section Documents

variable {q : Text → Prop} {document item operation : Entries}

theorem clean_convertOperation (h : Pointer.Clean q (.map item)) (written : Written (.map item))
    (part : Part (.map item) (.map operation)) (document : Entries) :
    Pointer.Clean q (.map (convertOperation document item operation)) := by
  have own := h.part part
  have parameter : ∀ p ∈ (mergedParameters item operation).toOption.getD [],
      Pointer.Clean q (.map p) := by
    cases done : mergedParameters item operation with
    | error e => exact fun p listed => nomatch listed
    | ok merged =>
      intro p listed
      rcases part_of_mergedParameters written (part.written written) done listed with there | there
      · exact h.part there
      · exact own.part there
  unfold convertOperation
  generalize (mergedParameters item operation).toOption.getD [] = merged at *
  have kept : Pointer.Clean q (.map (without ["parameters", "requestBody"] operation)) :=
    clean_without own _
  refine clean_append ?_ (clean_append (clean_single (by decide) ?_) ?_)
  · refine clean_changeAt kept fun _ fields there => ?_
    have responses := kept.part (.entry there (.refl _))
    exact clean_inEach responses fun _ response inner =>
      clean_convertResponse (responses.part (.entry inner (.refl _))) _
  · refine .list fun v listed => ?_
    obtain ⟨p, there, rfl⟩ := List.mem_map.1 listed
    exact clean_convertPart (parameter p (List.mem_of_mem_filter there))
  · refine clean_toList_map (by decide) fun p last => ?_
    have there := List.mem_of_mem_filter (List.mem_of_getLast? last)
    exact clean_convertBody (parameter p there) _

theorem clean_convertItem (h : Pointer.Clean q (.map item)) (written : Written (.map item))
    (document : Entries) : Pointer.Clean q (.map (convertItem document item)) := by
  refine clean_changeAt (clean_without h _) fun _ operation there => ?_
  exact clean_convertOperation h written (.entry (List.mem_of_mem_filter there) (.refl _)) document

theorem clean_convert (h : Pointer.Clean q (.map document)) (written : Written (.map document))
    (dropped : List Text) : Pointer.Clean q (.map (convert dropped document)) := by
  refine clean_append ?_ (clean_toList_map (by decide) fun v found => ?_)
  · refine clean_changeAt (clean_without h dropped) fun _ paths there => ?_
    have part : Part (.map document) (.map paths) := .entry (List.mem_of_mem_filter there) (.refl _)
    refine clean_inEach (h.part part) fun _ item inner => ?_
    have deeper := part.trans (.entry inner (.refl _))
    exact clean_convertItem (h.part deeper) (deeper.written written) document
  · exact clean_single (show ("schemas" : Text) ≠ "$ref" by decide)
      (h.part (Value.part_of_lookupText found))

theorem lookupText_convert_definitions {dropped : List Text}
    (kept : ("definitions" : Text) ∉ dropped) :
    Value.lookupText "definitions" (convert dropped document) =
      Value.lookupText "definitions" document := by
  rw [convert, Value.lookupText_append, lookupText_changeAt, if_neg (by decide), lookupText_without,
    if_neg kept, lookupText_toList_map, if_neg (by decide), Option.or_none]

theorem follow_convert {pointer name : Text} {dropped : List Text}
    (kept : ("definitions" : Text) ∉ dropped)
    (tree : (Value.map document).isTree = true)
    (tree' : (Value.map (convert dropped document)).isTree = true)
    (named : Pointer.nameBehind? "#/definitions/" pointer = some name) :
    Pointer.follow (.map (convert dropped document)) pointer =
      Pointer.follow (.map document) pointer := by
  have word : Pointer.unescape "definitions" = "definitions" := by decide
  obtain ⟨segment, path⟩ := Pointer.follow_of_definition named
  rw [path, path, Pointer.walk_map tree, Pointer.walk_map tree', word,
    lookupText_convert_definitions kept]

theorem resolve_convert {dropped : List Text} (kept : ("definitions" : Text) ∉ dropped)
    (written : Written (.map document)) (sound : Pointer.Sound (.map document) (.map document))
    (named : ∀ pointer ∈ Pointer.allOf (.map document),
      (Pointer.nameBehind? "#/definitions/" pointer).isSome = true) :
    Pointer.resolve (.map (convert dropped document)) = .ok (.map (convert dropped document)) := by
  have clean : Pointer.Clean (fun pointer =>
      (Pointer.nameBehind? "#/definitions/" pointer).isSome = true ∧
        ∃ target, Pointer.follow (.map document) pointer = .ok target)
      (.map document) :=
    ⟨sound.isTree, fun pointer listed => ⟨named pointer listed, sound.each pointer listed⟩⟩
  have converted := clean_convert clean written dropped
  unfold Pointer.resolve
  refine Pointer.resolveValue_of_sound _ ⟨converted.isTree, fun pointer listed => ?_⟩ ?_
  · obtain ⟨behind, target, followed⟩ := converted.each pointer listed
    obtain ⟨name, behind⟩ := Option.isSome_iff_exists.1 behind
    exact ⟨target, (follow_convert kept sound.isTree converted.isTree behind).trans followed⟩
  · intro pointer listed
    exact Pointer.isSome_schemaName? (converted.each pointer listed).1

end Documents

end Api

end ApiModel

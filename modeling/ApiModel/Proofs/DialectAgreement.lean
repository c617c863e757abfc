import ApiModel.Proofs.ApiReading
import ApiModel.Proofs.DialectConversion
import ApiModel.Proofs.SchemaPlaces

/-! Both dialects say the same. What is read from a document of the older dialect is also read from
the document that it is converted to. -/
namespace ApiModel.Api

/-- Bodies that differ at most in where undefined numbers of their schemas come from. -/
structure RequestBody.Alike (b b' : RequestBody) : Prop where
  rest : b = { b' with schema := b.schema }
  schema : Option.Rel Schema.Alike b.schema b'.schema

/-- Operations that differ at most in their bodies, and there at most in where undefined numbers
come from. -/
structure Operation.Alike (o o' : Operation) : Prop where
  rest : o = { o' with body := o.body }
  body : Option.Rel RequestBody.Alike o.body o'.body

open Document (Entries)
open Value (Part Written)
open Validation (Checked)

/-! Parameters and headers. -/

section Parts

variable {entries : Entries} {key : Text}

theorem lookupText_convertPart (plain : key ∈ plainKeys) :
    Value.lookupText key (convertPart entries) = Value.lookupText key entries := by
  have other : ∀ key ∈ plainKeys, key ≠ "schema" := by decide
  rw [convertPart, Value.lookupText_append, lookupText_among, if_pos plain, lookupText_single,
    if_neg (other key plain), Option.or_none]

theorem get_convertPart (plain : key ∈ plainKeys) :
    Value.get key (convertPart entries) = Value.get key entries := by
  rw [Value.get, Value.get, lookupText_convertPart plain]

theorem isRequired_convertPart : isRequired (convertPart entries) = isRequired entries := by
  rw [isRequired, isRequired, get_convertPart (by decide)]

theorem readPartSchema_convertPart (location : Location) (entries : Entries) :
    readPartSchema .openApi location (convertPart entries) =
      readPartSchema .swagger location entries := by
  have schema : Value.lookupText "schema" (convertPart entries) =
      some (.map (without ("content" :: plainKeys) entries)) := by
    rw [convertPart, Value.lookupText_append, lookupText_among, if_neg (by decide),
      lookupText_single, if_pos rfl, Option.none_or]
  have given : givenSchema? (convertPart entries) =
      .ok (some (.map (without ("content" :: plainKeys) entries))) := by
    rw [givenSchema?, Value.getSome?, schema]
  have same : Schema.read location (.map (without ("content" :: plainKeys) entries)) =
      Schema.read location (.map (without plainKeys entries)) := by
    apply Schema.read_congr
    intro key keyword
    have other : ∀ key ∈ ("not" : Text) :: (Schema.plainKeywords ++ Schema.partKeywords),
        key ≠ "content" := by decide
    rw [lookupText_without, lookupText_without]
    simp only [List.mem_cons, other key keyword, false_or]
  rw [readPartSchema, readPartSchema, given]
  exact congrArg (some <$> ·) same

theorem readParameter_convertPart (location : Location) (entries : Entries) :
    readParameter .openApi location (convertPart entries) =
      readParameter .swagger location entries := by
  unfold readParameter shownOr
  simp only [lookupText_convertPart (show ("name" : Text) ∈ plainKeys by decide),
    lookupText_convertPart (show ("in" : Text) ∈ plainKeys by decide),
    get_convertPart (show ("description" : Text) ∈ plainKeys by decide),
    readPartSchema_convertPart, isRequired_convertPart]

theorem readHeader_convertPart (location : Location) (entries : Entries) :
    readHeader .openApi location (convertPart entries) = readHeader .swagger location entries := by
  unfold readHeader
  rw [readPartSchema_convertPart, get_convertPart (by decide), isRequired_convertPart]

theorem readHeaders_convertPart (location : Location) (entries : Entries) :
    readHeaders .openApi location (entries.map fun e => (e.1, inMapping convertPart e.2)) =
      readHeaders .swagger location entries := by
  induction entries with
  | nil => rfl
  | cons e rest ih =>
    obtain ⟨k, v⟩ := e
    cases v with
    | map fields =>
      rw [List.map_cons, inMapping, readHeaders, readHeaders, ih]
      simp only [readHeader_convertPart]
    | _ => exact ih

theorem entriesAt_inEach {entries' : Entries} {change : Entries → Entries}
    (changed : Value.lookupText key entries' = (Value.lookupText key entries).map (inEach change)) :
    Carries (fun fields fields' => fields' = fields.map fun e => (e.1, inMapping change e.2))
      (entriesAt key entries) (entriesAt key entries') := by
  have shape (v : Value) : (inEach change v).isPresent = v.isPresent := by
    cases v with
    | map fields => cases fields <;> rfl
    | _ => rfl
  intro fields done
  refine ⟨_, ?_, rfl⟩
  unfold entriesAt Value.getPresent? at done ⊢
  rw [changed]
  cases found : Value.lookupText key entries with
  | none =>
    rw [found] at done
    cases done
    rfl
  | some v =>
    rw [found, Option.filter_some] at done
    rw [Option.map_some, Option.filter_some, shape]
    by_cases present : v.isPresent = true
    · rw [if_pos present] at done ⊢
      cases v with
      | map fields =>
        cases done
        rfl
      | _ => cases done
    · rw [if_neg present] at done ⊢
      cases done
      rfl

end Parts

/-! Media types. -/

section Media

variable {types : Value} {items : List Value}

def repeatsNone (types : Value) : Bool :=
  match types.items with
  | .ok items => decide (items.Pairwise fun a b => a.sameKey b = false)
  | .error _ => true

theorem foldl_putKey (media : Value) (done : Entries)
    (distinct : items.Pairwise fun a b => a.sameKey b = false)
    (fresh : ∀ e ∈ done, ∀ item ∈ items, e.1.sameKey item = false) :
    items.foldl (fun entries type => Value.putKey type media entries) done =
      done ++ items.map fun type => (type, media) := by
  induction items generalizing done with
  | nil => simp
  | cons item rest ih =>
    have put : Value.putKey item media done = done ++ [(item, media)] := by
      clear ih
      induction done with
      | nil => rfl
      | cons e more ih =>
        have new := fresh e List.mem_cons_self item List.mem_cons_self
        rw [Value.putKey, new, ih fun other there => fresh other (List.mem_cons_of_mem e there)]
        rfl
    rw [List.foldl_cons, put, ih _ (List.pairwise_cons.1 distinct).2, List.map_cons,
      List.append_assoc, List.singleton_append]
    intro e listed other there
    rcases List.mem_append.1 listed with known | new
    · exact fresh e known other (List.mem_cons_of_mem item there)
    · rw [List.mem_singleton.1 new]
      exact (List.pairwise_cons.1 distinct).1 other there

theorem contentOf_eq (given : types.items = .ok items) (distinct : repeatsNone types = true)
    (schema : Option Value) :
    contentOf types schema =
      .map (items.map fun type =>
        (type, .ofEntries (schema.toList.map fun v => ("schema", v)))) := by
  have apart : items.Pairwise fun a b => a.sameKey b = false := by
    simpa [repeatsNone, given] using distinct
  have folded :=
    foldl_putKey (.ofEntries (schema.toList.map fun v => ("schema", v))) [] apart (by simp)
  rw [contentOf, given]
  exact congrArg Value.map folded

theorem items_ne_nil (present : types.isPresent = true) (given : types.items = .ok items) :
    items ≠ [] := by
  rintro rfl
  cases types <;> simp_all [Value.items, Value.looseItems, Value.isPresent]

theorem isPresent_mediaTypes (key : Text) (document operation : Entries) :
    (mediaTypes key document operation).isPresent = true := by
  unfold mediaTypes
  cases own : Value.getPresent? key operation with
  | some v => exact (Option.filter_eq_some_iff.1 own).2
  | none =>
    cases shared : Value.getPresent? key document with
    | some v => exact (Option.filter_eq_some_iff.1 shared).2
    | none => rfl

theorem mediaSchema?_of_items {schema : Option Value} (listed : items ≠ [])
    (noNull : schema ≠ some .null) :
    mediaSchema?
      (items.map fun type => (type, .ofEntries (schema.toList.map fun v => ("schema", v)))) =
      schema := by
  cases schema with
  | none =>
    clear listed
    induction items with
    | nil => rfl
    | cons item rest ih => exact ih
  | some v =>
    cases items with
    | nil => exact absurd rfl listed
    | cons item rest =>
      have found : Value.lookupText "schema" [(.str "schema", v)] = some v := by
        rw [lookupText_single, if_pos rfl]
      rw [List.map_cons, Option.toList_some, List.map_singleton, Value.ofEntries,
        List.map_singleton, mediaSchema?, found]
      cases v with
      | null => exact absurd rfl noNull
      | _ => rfl

theorem getSome?_ne_null (key : Text) (entries : Entries) :
    Value.getSome? key entries ≠ some .null := by
  unfold Value.getSome?
  split
  · simp
  · assumption

end Media

/-! Responses. -/

section Responses

variable {produces : Value} (present : produces.isPresent = true)
  (distinct : repeatsNone produces = true) (entries : Entries)

theorem lookupText_content_convertResponse (produces : Value) :
    Value.lookupText "content" (convertResponse produces entries) =
      (Value.getSome? "schema" entries).map fun v => contentOf produces (some v) := by
  rw [convertResponse, Value.lookupText_append, lookupText_changeAt, if_neg (by decide),
    lookupText_without, if_pos (by decide), lookupText_toList_map, if_pos rfl, Option.none_or]

include present distinct in
theorem responseContent_convertResponse (produces' : Value) :
    Carries Eq (responseContent .swagger produces entries)
      (responseContent .openApi produces' (convertResponse produces entries)) := by
  have content := lookupText_content_convertResponse entries produces
  intro r done
  refine ⟨r, ?_, rfl⟩
  unfold responseContent at done ⊢
  cases given : Value.getSome? "schema" entries with
  | none =>
    simp only [given, Except.ok.injEq] at done
    rw [given] at content
    dsimp only
    rw [entriesAt_of_none content, ← done]
    rfl
  | some v =>
    simp only [given] at done
    cases items : produces.items with
    | error e => simp [items, bind, Except.bind] at done
    | ok types =>
      simp only [items, bind, Except.bind, pure, Except.pure, Except.ok.injEq] at done
      rw [given, Option.map_some, contentOf_eq items distinct] at content
      have first := mediaSchema?_of_items (items_ne_nil present items)
        (given ▸ getSome?_ne_null "schema" entries)
      dsimp only
      rw [entriesAt_of_lookupText content, ← done]
      simp only [bind, Except.bind, pure, Except.pure, first, List.map_map, Except.ok.injEq,
        Prod.mk.injEq, true_and]
      exact List.map_id'' (fun _ => rfl) types

theorem lookupText_convertResponse {key : Text}
    (other : key ∉ [("schema" : Text), "content", "headers"]) (produces : Value) :
    Value.lookupText key (convertResponse produces entries) = Value.lookupText key entries := by
  simp only [List.mem_cons, List.not_mem_nil, or_false, not_or] at other
  rw [convertResponse, Value.lookupText_append, lookupText_changeAt, if_neg (by simp [other]),
    lookupText_without, if_neg (by simp [other]), lookupText_toList_map, if_neg other.2.1,
    Option.or_none]

include present distinct in
theorem readResponse_convertResponse (produces' : Value) (location : Location) (status : Text) :
    Carries Eq (readResponse .swagger produces location status entries)
      (readResponse .openApi produces' location status (convertResponse produces entries)) := by
  have described : Value.get "description" (convertResponse produces entries) =
      Value.get "description" entries := by
    rw [Value.get, Value.get, lookupText_convertResponse entries (by decide)]
  have headers : Value.lookupText "headers" (convertResponse produces entries) =
      (Value.lookupText "headers" entries).map (inEach convertPart) := by
    rw [convertResponse, Value.lookupText_append, lookupText_changeAt, if_pos (by decide),
      lookupText_without, if_neg (by decide), lookupText_toList_map, if_neg (by decide),
      Option.or_none]
  unfold readResponse
  rw [described]
  apply (responseContent_convertResponse present distinct entries produces').bind
  rintro content _ - rfl
  apply (entriesAt_inEach headers).bind
  rintro fields _ - rfl
  apply (Carries.of_eq (readHeaders_convertPart location fields).symm).bind
  rintro read _ - rfl
  exact Carries.of_eq rfl

include present distinct in
theorem readResponses_convertResponse (produces' : Value) (location : Location) (n : Nat) :
    Carries Eq (readResponses .swagger produces location n entries)
      (readResponses .openApi produces' location n
        (entries.map fun e => (e.1, inMapping (convertResponse produces) e.2))) := by
  induction entries generalizing n with
  | nil => exact Carries.of_eq rfl
  | cons e rest ih =>
    obtain ⟨k, v⟩ := e
    cases v with
    | map fields =>
      rw [List.map_cons, inMapping, readResponses, readResponses]
      apply (Carries.of_eq rfl).bind
      rintro status _ - rfl
      apply (readResponse_convertResponse present distinct fields produces' _ status).bind
      rintro response _ - rfl
      apply (ih (n + 1)).bind
      rintro more _ - rfl
      exact Carries.of_eq rfl
    | _ => exact ih (n + 1)

end Responses

/-! Bodies. -/

section Bodies

variable {consumes : Value} {location : Location}

/-- What a body is read from. -/
def ReadsBody (consumes : Value) (location : Location) (p : Entries) (body : RequestBody) : Prop :=
  ∃ types schema, consumes.items = .ok types ∧
    readOptional (location.below "body") (Value.getSome? "schema" p) = .ok schema ∧
    makeBody p types schema = .ok body

theorem splitBody_spec {ps rest : List Entries} {start body : Option RequestBody}
    (done : splitBody consumes location ps start = .ok (body, rest)) :
    rest = ps.filter (fun p => !isBody p) ∧
      (((ps.filter isBody).getLast? = none ∧ body = start) ∨
        ∃ p b, (ps.filter isBody).getLast? = some p ∧ body = some b ∧
          ReadsBody consumes location p b) := by
  induction ps generalizing start body rest with
  | nil =>
    cases done
    exact ⟨rfl, .inl ⟨rfl, rfl⟩⟩
  | cons p ps ih =>
    unfold splitBody at done
    dsimp only at done
    split at done
    · obtain ⟨_, -, failed⟩ := bind_eq_ok_iff.1 done
      cases failed
    split at done
    · rename_i body
      have kept : isBody p = true := body
      obtain ⟨types, items, done⟩ := bind_eq_ok_iff.1 done
      obtain ⟨schema, read, done⟩ := bind_eq_ok_iff.1 done
      obtain ⟨b, made, done⟩ := bind_eq_ok_iff.1 done
      obtain ⟨others, last⟩ := ih done
      rw [List.filter_cons_of_neg (by simp [kept]), List.filter_cons_of_pos kept,
        List.getLast?_cons]
      refine ⟨others, .inr ?_⟩
      rcases last with ⟨none, rfl⟩ | ⟨p', b', found, rfl, reads⟩
      · exact ⟨p, b, by rw [none]; rfl, rfl, types, schema, items, read, made⟩
      · exact ⟨p', b', by rw [found]; rfl, rfl, reads⟩
    · rename_i noBody
      have dropped : ¬ isBody p = true := noBody
      obtain ⟨⟨found, remaining⟩, split, same⟩ := bind_eq_ok_iff.1 done
      cases same
      obtain ⟨rfl, last⟩ := ih split
      rw [List.filter_cons_of_pos (by simpa using dropped), List.filter_cons_of_neg dropped]
      exact ⟨rfl, last⟩

theorem lookupText_convertBody {key : Text} (kept : key ∈ [("required" : Text), "description"])
    (consumes : Value) (entries : Entries) :
    Value.lookupText key (convertBody consumes entries) = Value.lookupText key entries := by
  have other : ∀ key ∈ [("required" : Text), "description"], key ≠ "content" := by decide
  rw [convertBody, Value.lookupText_append, lookupText_among, if_pos kept, lookupText_single,
    if_neg (other key kept), Option.or_none]

theorem readBody_convertBody (present : consumes.isPresent = true)
    (distinct : repeatsNone consumes = true)
    {p operation : Entries} {b : RequestBody} (reads : ReadsBody consumes location p b)
    (found : Value.getSome? "requestBody" operation = some (.map (convertBody consumes p))) :
    ∃ b', readBody location operation = .ok (some b') ∧ b.Alike b' := by
  obtain ⟨types, schema, items, read, made⟩ := reads
  have content : Value.lookupText "content" (convertBody consumes p) =
      some (.map (types.map fun type =>
        (type, .ofEntries ((Value.getSome? "schema" p).toList.map fun v => ("schema", v))))) := by
    rw [convertBody, Value.lookupText_append, lookupText_among, if_neg (by decide),
      lookupText_single, if_pos rfl, Option.none_or, contentOf_eq items distinct]
  have first := mediaSchema?_of_items (items_ne_nil present items)
    (getSome?_ne_null "schema" p)
  have schemas : Concur (Option.Rel Schema.Alike)
      (readOptional (location.below "body") (Value.getSome? "schema" p))
      (readOptional (location.below "requestBody") (Value.getSome? "schema" p)) := by
    cases Value.getSome? "schema" p with
    | none => exact .ok .none
    | some v => exact (Schema.read_alike _ _ v).map fun _ _ => Option.Rel.some
  obtain ⟨schema', read', related⟩ := schemas.carries schema read
  have required : isRequired p = isRequired (convertBody consumes p) := by
    rw [isRequired, isRequired, Value.get, Value.get, lookupText_convertBody (by decide)]
  have description : Value.get "description" p =
      Value.get "description" (convertBody consumes p) := by
    rw [Value.get, Value.get, lookupText_convertBody (by decide)]
  obtain ⟨b', made', rest, alike⟩ :=
    (makeBody_concur required description types related).carries b made
  refine ⟨b', ?_, rest, alike⟩
  have names : (types.map fun type => (type, Value.ofEntries ((Value.getSome? "schema" p).toList.map
      fun v => ("schema", v)))).map Prod.fst = types := by
    rw [List.map_map]
    exact List.map_id'' (fun _ => rfl) types
  rw [readBody, found]
  simp only [Value.mapping, bind, Except.bind, entriesAt_of_lookupText content, first,
    read', names, made']
  rfl

end Bodies

/-! Operations. -/

section Operations

variable {document item operation : Entries} {key : Text} {location : Location}

theorem lookupText_convertOperation
    (other : key ∉ [("parameters" : Text), "requestBody", "responses"]) :
    Value.lookupText key (convertOperation document item operation) =
      Value.lookupText key operation := by
  simp only [List.mem_cons, List.not_mem_nil, or_false, not_or] at other
  rw [convertOperation, Value.lookupText_append, Value.lookupText_append, lookupText_changeAt,
    if_neg (by simp [other]), lookupText_without, if_neg (by simp [other]), lookupText_single,
    if_neg other.1, lookupText_toList_map, if_neg other.2.1, Option.or_none, Option.or_none]

theorem get_convertOperation (other : key ∉ [("parameters" : Text), "requestBody", "responses"]) :
    Value.get key (convertOperation document item operation) = Value.get key operation := by
  rw [Value.get, Value.get, lookupText_convertOperation other]

theorem lookupText_responses_convertOperation :
    Value.lookupText "responses" (convertOperation document item operation) =
      (Value.lookupText "responses" operation).map
        (inEach (convertResponse (mediaTypes "produces" document operation))) := by
  rw [convertOperation, Value.lookupText_append, Value.lookupText_append, lookupText_changeAt,
    if_pos (by decide), lookupText_without, if_neg (by decide), lookupText_single,
    if_neg (by decide), lookupText_toList_map, if_neg (by decide), Option.or_none, Option.or_none]

variable {merged : List Entries} (done : mergedParameters item operation = .ok merged)
include done

theorem lookupText_parameters_convertOperation :
    Value.lookupText "parameters" (convertOperation document item operation) =
      some (.list ((merged.filter fun p => !isBody p).map fun p => .map (convertPart p))) := by
  rw [convertOperation, Value.lookupText_append, Value.lookupText_append, lookupText_changeAt,
    if_neg (by decide), lookupText_without, if_pos (by decide), lookupText_single, if_pos rfl,
    Option.none_or, Option.some_or, done]
  rfl

theorem getSome?_requestBody_convertOperation (document : Entries) :
    Value.getSome? "requestBody" (convertOperation document item operation) =
      (merged.filter isBody).getLast?.map fun p =>
        .map (convertBody (mediaTypes "consumes" document operation) p) := by
  have found : Value.lookupText "requestBody" (convertOperation document item operation) =
      (merged.filter isBody).getLast?.map fun p =>
        .map (convertBody (mediaTypes "consumes" document operation) p) := by
    rw [convertOperation, Value.lookupText_append, Value.lookupText_append, lookupText_changeAt,
      if_neg (by decide), lookupText_without, if_pos (by decide), lookupText_single,
      if_neg (by decide), lookupText_toList_map, if_pos rfl, Option.none_or, Option.none_or, done]
    rfl
  rw [Value.getSome?, found]
  cases (merged.filter isBody).getLast? <;> rfl

theorem mergedParameters_convertOperation {item' : Entries}
    (none : Value.lookupText "parameters" item' = none) :
    mergedParameters item' (convertOperation document item operation) =
      .ok ((merged.filter fun p => !isBody p).map convertPart) := by
  obtain ⟨_, _, -, -, each⟩ := mergedParameters_spec done
  have shared : parametersAt item' = .ok [] := by
    rw [parametersAt, Value.getPresent?, none]
    rfl
  have own : parametersAt (convertOperation document item operation) =
      .ok ((merged.filter fun p => !isBody p).map fun p => .map (convertPart p)) := by
    rw [parametersAt, Value.getPresent?, lookupText_parameters_convertOperation done]
    cases merged.filter fun p => !isBody p <;> rfl
  have keys : ((merged.filter fun p => !isBody p).map fun p => Value.map (convertPart p)).mapM
      parameterKey =
      .ok ((merged.filter fun p => !isBody p).map fun p =>
        (convertPart p, .pair (Value.get "name" p) (Value.get "in" p))) := by
    rw [mapM_eq_ok_iff, List.forall₂_map_left_iff, List.forall₂_map_right_iff, List.forall₂_same]
    intro p listed
    rw [parameterKey_eq_ok_iff, get_convertPart (by decide), get_convertPart (by decide)]
    exact ⟨rfl, rfl, (each p (List.mem_of_mem_filter listed)).2⟩
  simp only [mergedParameters, shared, own, keys, bind, Except.bind]
  rw [List.mapM_nil]
  simp only [pure, Except.pure, List.filter_nil, List.nil_append, List.map_map]
  rfl

theorem readBodyAndParameters_convertOperation (document' : Entries)
    (distinct : repeatsNone (mediaTypes "consumes" document operation) = true) :
    Carries (fun r r' => Option.Rel RequestBody.Alike r.1 r'.1 ∧ r'.2 = r.2.map convertPart)
      (readBodyAndParameters .swagger document operation location merged)
      (readBodyAndParameters .openApi document' (convertOperation document item operation) location
        ((merged.filter fun p => !isBody p).map convertPart)) := by
  have found := getSome?_requestBody_convertOperation done document
  rintro ⟨body, rest⟩ split
  obtain ⟨rfl, ⟨none, rfl⟩ | ⟨p, b, last, rfl, reads⟩⟩ := splitBody_spec split
  · rw [none, Option.map_none] at found
    refine ⟨(Option.none, _), ?_, .none, rfl⟩
    rw [readBodyAndParameters, readBody, found]
    rfl
  · rw [last, Option.map_some] at found
    obtain ⟨b', read, alike⟩ :=
      readBody_convertBody (isPresent_mediaTypes _ _ _) distinct reads found
    refine ⟨(some b', _), ?_, .some alike, rfl⟩
    rw [readBodyAndParameters, read]
    rfl

omit done in
theorem readOperation_convertOperation {item' : Entries} (document' : Entries)
    (none : Value.lookupText "parameters" item' = none)
    (distinct : ∀ key ∈ [("consumes" : Text), "produces"],
      repeatsNone (mediaTypes key document operation) = true)
    (path : Value) (marks : List Nat) (method : Method) :
    Carries Operation.Alike (readOperation .swagger document item path marks method operation)
      (readOperation .openApi document' item' path marks method
        (convertOperation document item operation)) := by
  unfold readOperation
  rw [get_convertOperation (by decide), get_convertOperation (by decide),
    get_convertOperation (by decide)]
  apply (Carries.of_eq rfl).bind
  rintro path _ - rfl
  apply Carries.bind (R := fun merged merged' =>
    merged' = (merged.filter fun p => !isBody p).map convertPart)
  · exact fun merged done => ⟨_, mergedParameters_convertOperation done none, rfl⟩
  rintro merged _ done rfl
  apply (readBodyAndParameters_convertOperation done document' (distinct _ (by decide))).bind
  rintro ⟨body, rest⟩ ⟨body', _⟩ - ⟨bodies, rfl⟩
  apply (entriesAt_inEach lookupText_responses_convertOperation).bind
  rintro fields _ - rfl
  apply (readResponses_convertResponse (isPresent_mediaTypes _ _ _) (distinct _ (by decide))
    fields _ _ 0).bind
  rintro responses _ - rfl
  -- what is left of the parameters is converted one by one
  apply Carries.bind (R := Eq)
  · apply Carries.of_eq
    rw [List.mapM_map]
    exact congrArg (rest.mapM ·) (funext fun p => (readParameter_convertPart _ p).symm)
  rintro parameters _ - rfl
  apply Concur.carries
  apply Checked.Agree.orStop
  apply Checked.Agree.seq _ (Checked.Agree.refl _)
  apply Checked.Agree.seq _ (Checked.Agree.refl _)
  apply (Checked.Agree.refl _).map
  rintro id _ rfl summary _ rfl description _ rfl
  exact ⟨rfl, bodies⟩

end Operations

/-! Paths. -/

section Paths

variable {document item : Entries}

theorem get_convertItem (method : Method) :
    Value.get method.word (convertItem document item) =
      inMapping (convertOperation document item) (Value.get method.word item) := by
  have listed : method.word ∈ Method.all.map Method.word :=
    List.mem_map_of_mem (by cases method <;> decide)
  have other : method.word ∉ [("parameters" : Text)] := by cases method <;> decide
  rw [Value.get, Value.get, convertItem, lookupText_changeAt, if_pos listed,
    lookupText_without, if_neg other]
  cases Value.lookupText method.word item <;> rfl

theorem readMethods_convertItem (document' : Entries) (methods : List Method)
    (distinct : ∀ method operation, Value.get (Method.word method) item = .map operation →
      ∀ key ∈ [("consumes" : Text), "produces"],
      repeatsNone (mediaTypes key document operation) = true)
    (path : Value) (marks : List Nat) :
    Carries (List.Forall₂ Operation.Alike) (readMethods .swagger document item path marks methods)
      (readMethods .openApi document' (convertItem document item) path marks methods) := by
  have none : Value.lookupText "parameters" (convertItem document item) = none := by
    rw [convertItem, lookupText_changeAt, if_neg (by decide), lookupText_without,
      if_pos (by decide)]
  induction methods with
  | nil => exact fun _ done => ⟨[], rfl, by cases done; exact .nil⟩
  | cons method rest ih =>
    unfold readMethods
    rw [get_convertItem]
    cases found : Value.get method.word item with
    | map operation =>
      apply (readOperation_convertOperation document' none
        (distinct method operation found) path marks
        method).bind
      intro o o' _ alike
      apply ih.bind
      intro more more' _ others
      exact fun _ done => ⟨_, rfl, by cases done; exact .cons alike others⟩
    | _ => exact ih

theorem readPaths_convertItem (document' : Entries) (paths : Entries)
    (distinct : ∀ k item, (k, .map item) ∈ paths → ∀ method operation,
      Value.get (Method.word method) item = .map operation →
      ∀ key ∈ [("consumes" : Text), "produces"],
      repeatsNone (mediaTypes key document operation) = true)
    (round n : Nat) :
    Carries (List.Forall₂ Operation.Alike) (readPaths .swagger round document n paths)
      (readPaths .openApi round document' n
        (paths.map fun e => (e.1, inMapping (convertItem document) e.2))) := by
  induction paths generalizing n with
  | nil => exact fun _ done => ⟨[], rfl, by cases done; exact .nil⟩
  | cons e rest ih =>
    have later := ih (fun k item listed => distinct k item (List.mem_cons_of_mem e listed)) (n + 1)
    obtain ⟨k, v⟩ := e
    cases v with
    | map item =>
      rw [List.map_cons, inMapping, readPaths, readPaths]
      apply (readMethods_convertItem document' Method.all (distinct k item List.mem_cons_self) k
        [n, round]).bind
      intro own own' _ operations
      apply later.bind
      intro more more' _ others
      exact fun _ done => ⟨_, rfl, by cases done; exact List.rel_append operations others⟩
    | _ => exact later

end Paths

/-! Documents. -/

def operationsOf (document : Entries) : List Entries :=
  match Value.get "paths" document with
  | .map paths => paths.flatMap fun e =>
    match e.2 with
    | .map item => Method.all.filterMap fun method =>
      match Value.get method.word item with
      | .map operation => some operation
      | _ => none
    | _ => []
  | _ => []

def hasDistinctMedia (document : Entries) : Bool :=
  (operationsOf document).all fun operation =>
    [("consumes" : Text), "produces"].all fun key => repeatsNone (mediaTypes key document operation)

def newerKeys : List Text := ["components", "servers"]

section Documents

variable {document : Entries}

theorem lookupText_convert {key : Text} {dropped : List Text}
    (other : key ∉ ("paths" : Text) :: "components" :: dropped) :
    Value.lookupText key (convert dropped document) = Value.lookupText key document := by
  simp only [List.mem_cons, not_or] at other
  rw [convert, Value.lookupText_append, lookupText_changeAt, if_neg (by simp [other.1]),
    lookupText_without, if_neg other.2.2, lookupText_toList_map, if_neg other.2.1, Option.or_none]

theorem readInfo_convert : readInfo (convert newerKeys document) = readInfo document := by
  unfold readInfo entriesAt Value.getPresent?
  rw [lookupText_convert (by decide)]

theorem readServers_convert : readServers .openApi (convert newerKeys document) = .ok [] := by
  have none : Value.lookupText "servers" (convert newerKeys document) = none := by
    rw [convert, Value.lookupText_append, lookupText_changeAt, if_neg (by decide),
      lookupText_without,
      if_pos (by decide), lookupText_toList_map, if_neg (by decide), Option.or_none]
  unfold readServers Value.getPresent?
  rw [none]
  rfl

theorem readSchemas_convert (round : Nat) :
    readSchemas .openApi round (convert newerKeys document) =
      readSchemas .swagger round document := by
  have found : Value.lookupText "components" (convert newerKeys document) =
      (Value.lookupText "definitions" document).map fun v => .ofEntries [("schemas", v)] := by
    rw [convert, Value.lookupText_append, lookupText_changeAt, if_neg (by decide),
      lookupText_without, if_pos (by decide), lookupText_toList_map, if_pos rfl, Option.none_or]
  unfold readSchemas
  dsimp only
  cases given : Value.lookupText "definitions" document with
  | none =>
    rw [given, Option.map_none] at found
    rw [entriesAt_of_none found, entriesAt_of_none given]
    rfl
  | some v =>
    rw [given, Option.map_some, Value.ofEntries, List.map_singleton] at found
    have below : entriesAt "schemas" [(.str "schemas", v)] = entriesAt "definitions" document := by
      rw [entriesAt, entriesAt, Value.getPresent?, Value.getPresent?, lookupText_single,
        if_pos rfl, given]
    rw [entriesAt_of_lookupText found, ← below]
    rfl

theorem checkKeys_convert (dropped : List Text) (accepted : checkKeys document = .accepted ()) :
    checkKeys (convert dropped document) = .accepted () := by
  rw [checkKeys_accepted_iff] at accepted ⊢
  intro e listed
  rcases List.mem_append.1 listed with there | there
  · obtain ⟨e, kept, rfl⟩ := List.mem_map.1 there
    exact accepted e (List.mem_of_mem_filter kept)
  · obtain ⟨v, -, rfl⟩ := List.mem_map.1 there
    exact ⟨"components", rfl⟩

theorem operations_convert (distinct : hasDistinctMedia document = true) (round : Nat) :
    Carries (List.Forall₂ Operation.Alike)
      (entriesAt "paths" document >>= readPaths .swagger round document 0)
      (entriesAt "paths" (convert newerKeys document) >>=
        readPaths .openApi round (convert newerKeys document) 0) := by
  have changed : Value.lookupText "paths" (convert newerKeys document) =
      (Value.lookupText "paths" document).map (inEach (convertItem document)) := by
    rw [convert, Value.lookupText_append, lookupText_changeAt, if_pos (by decide),
      lookupText_without,
      if_neg (by decide), lookupText_toList_map, if_neg (by decide), Option.or_none]
  apply (entriesAt_inEach changed).bind
  rintro paths _ given rfl
  refine readPaths_convertItem _ paths ?_ round 0
  intro k item listed method operation found key among
  have there : operation ∈ operationsOf document := by
    rcases get_of_entriesAt given with rfl | written
    · cases listed
    · simp only [operationsOf, written, List.mem_flatMap]
      refine ⟨_, listed, List.mem_filterMap.2 ⟨method, by cases method <;> decide, ?_⟩⟩
      rw [found]
  exact List.all_eq_true.1 (List.all_eq_true.1 distinct operation there) key among

end Documents

/-- What a document of the older dialect describes is also described by the document that it is
converted to. -/
theorem read_convert {document : Entries} (written : Written (.map document))
    (named : ∀ pointer ∈ Pointer.allOf (.map document),
      (Pointer.nameBehind? "#/definitions/" pointer).isSome = true)
    (distinct : hasDistinctMedia document = true) {d : Description}
    (done : (read (.str "2.0") document).result = .ok d) :
    ∃ d', (read (.str "3.0.3") (convert newerKeys document)).result = .ok d' ∧
      d'.info = d.info ∧ d'.schemas = d.schemas ∧
        List.Forall₂ Operation.Alike d.operations d'.operations := by
  -- both documents resolve to themselves, so they are read as they stand
  obtain ⟨_, resolves⟩ := resolves_of_read done
  obtain ⟨rfl, sound⟩ :=
    (Pointer.resolve_eq_ok_iff (Value.keyed_of_written written) fun pointer listed =>
    Pointer.isSome_schemaName? (named pointer listed)).1 resolves
  obtain ⟨info, -, schemas, operations, keys, -⟩ := (read_eq_ok_iff resolves).1 done
  obtain ⟨operations', readsOperations, alike⟩ := operations_convert distinct 0 _ operations
  have resolves' :=
    resolve_convert (show ("definitions" : Text) ∉ newerKeys by decide) written sound named
  refine ⟨⟨d.info, [], d.schemas, operations', "3.0.3"⟩, (read_eq_ok_iff resolves').2 ?_,
    rfl, rfl, alike⟩
  exact ⟨readInfo_convert.trans info, readServers_convert, (readSchemas_convert 0).trans schemas,
    readsOperations, checkKeys_convert newerKeys keys, rfl⟩

def shop : Entries :=
  [(.str "swagger", .str "2.0"),
    (.str "servers", .int 5),
    (.str "produces", .ofTexts ["application/json", "application/xml"]),
    (.str "definitions", .ofEntries [("Item", .ofEntries
      [("type", .str "object"),
        ("properties", .ofEntries [("next", .ofEntries [("$ref", .str "#/definitions/Item")])])])]),
    (.str "paths", .ofEntries [("/items/{id}", .ofEntries
      [("parameters", .list
          [.ofEntries [("name", .str "id"), ("in", .str "path"), ("type", .str "string")],
            .ofEntries [("name", .str "mode"), ("in", .str "query"), ("type", .str "string")]]),
        ("put", .ofEntries
          [("operationId", .str "changeItem"),
            ("parameters", .list
              [.ofEntries [("name", .str "mode"), ("in", .str "query"), ("type", .str "integer")],
                .ofEntries [("name", .str "item"), ("in", .str "body"), ("required", .bool true),
                  ("schema", .ofEntries [("$ref", .str "#/definitions/Item")])]]),
            ("responses", .ofEntries [("200", .ofEntries
              [("schema", .ofEntries [("$ref", .str "#/definitions/Item")]),
                ("headers",
                  .ofEntries [("X-Rate", .ofEntries [("type", .str "integer")])])])])])])])]

theorem read_convert_shop :
    ∃ d d', (read (.str "2.0") shop).result = .ok d ∧
      (read (.str "3.0.3") (convert newerKeys shop)).result = .ok d' ∧
      d.operations.length = 1 ∧ d'.schemas = d.schemas ∧
        List.Forall₂ Operation.Alike d.operations d'.operations := by
  have resolved : Pointer.resolve (.map shop) = .ok (.map shop) :=
    Pointer.resolve_eq_self (by decide +kernel) (by decide +kernel)
  have succeeds : (read (.str "2.0") shop).result.toOption.any fun d =>
    d.operations.length == 1 := by
    unfold read readIn
    simp only [Traced.result_bind, resolved, Traced.ofExcept]
    decide +kernel
  cases done : (read (.str "2.0") shop).result with
  | error e =>
    rw [done] at succeeds
    cases succeeds
  | ok d =>
    rw [done] at succeeds
    obtain ⟨d', done', -, schemas, operations⟩ :=
      read_convert (by decide +kernel) (by decide +kernel) (by decide +kernel) done
    exact ⟨d, d', rfl, done', by simpa [Except.toOption] using succeeds, schemas, operations⟩

def strayServers : Entries :=
  [(.str "swagger", .str "2.0"),
    (.str "info", .ofEntries [("title", .str "Shop"), ("version", .str "1")]),
    (.str "paths", .map []),
    (.str "servers", .int 5)]

/-- If servers are kept, what a document is converted to can be refused. -/
theorem read_convert_strayServers :
    Written (.map strayServers) ∧ Pointer.allOf (.map strayServers) = [] ∧
      hasDistinctMedia strayServers = true ∧
      (∃ d, (read (.str "2.0") strayServers).result = .ok d) ∧
      ∃ e, (read (.str "3.0.3") (convert ["components"] strayServers)).result = .error e := by
  refine ⟨by decide +kernel, by decide +kernel, by decide +kernel, ?_, ?_⟩
  · have resolved : Pointer.resolve (.map strayServers) = .ok (.map strayServers) :=
      Pointer.resolve_eq_self (by decide +kernel) (by decide +kernel)
    exact ⟨⟨⟨"Shop", "1", none⟩, [], .empty, [], "2.0"⟩,
      (read_eq_ok_iff resolved).2 ⟨rfl, rfl, rfl, rfl, rfl, rfl⟩⟩
  · have resolved : Pointer.resolve (.map (convert ["components"] strayServers)) =
        .ok (.map (convert ["components"] strayServers)) :=
      Pointer.resolve_eq_self (by decide +kernel) (by decide +kernel)
    cases result : (read (.str "3.0.3") (convert ["components"] strayServers)).result with
    | error e => exact ⟨e, rfl⟩
    | ok d =>
      have servers := ((read_eq_ok_iff resolved).1 result).2.1
      cases servers

end ApiModel.Api

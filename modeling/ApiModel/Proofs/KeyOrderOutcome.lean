import ApiModel.Compile.Build
import ApiModel.Model.Write
import ApiModel.Proofs.ApiReading
import ApiModel.Proofs.KeyOrderReading

/-! What comes of rearranged documents. Both are refused, or they describe the same API up to the
order of properties, so the same model is built from them and written out in the same way. -/
namespace ApiModel

open Value (Matched Arranged TextKeyed)
open Validation (Checked)

namespace Api

section Parts

variable {es es' : List (Value × Value)} {key : Text} {role inner : Role} {location : Location}

theorem entriesAt_concur (found : Option.Rel (Matched inner) (Value.lookupText key es)
    (Value.lookupText key es')) :
    Concur (Arranged inner) (entriesAt key es) (entriesAt key es') := by
  have present := Value.rel_getPresent? found
  unfold entriesAt
  generalize Value.getPresent? key es = part at *
  generalize Value.getPresent? key es' = part' at *
  cases present with
  | none => exact .ok (.nil inner)
  | @some v v' related =>
    cases related.view with
    | map entries => exact .ok entries
    | list => exact .error _ _
    | required => exact .error _ _
    | leaf noMap =>
      cases v with
      | map entries => exact absurd rfl (noMap entries)
      | _ => exact .error _ _

theorem readOptional_concur {part part' : Option Value}
    (found : Option.Rel (Matched .schema) part part') :
    Concur (Option.Rel Schema.Rearranged) (readOptional location part)
      (readOptional location part') := by
  cases found with
  | none => exact .ok .none
  | some related => exact (Schema.read_matched related location).map fun _ _ => Option.Rel.some

theorem rel_mediaSchema? (h : Arranged .content es es') :
    Option.Rel (Matched .schema) (mediaSchema? es) (mediaSchema? es') := by
  have media : List.Forall₂ (fun e e' => Matched .media e.2 e'.2) es es' :=
    (h.entries .media rfl fun _ => rfl).imp fun _ _ both => both.2
  clear h
  induction media with
  | nil => exact .none
  | @cons e e' rest rest' first _ ih =>
    obtain ⟨k, v⟩ := e
    obtain ⟨k', v'⟩ := e'
    cases first.view with
    | @map fields fields' entries =>
      have found := entries.look "schema"
      unfold mediaSchema?
      generalize Value.lookupText "schema" fields = part at *
      generalize Value.lookupText "schema" fields' = part' at *
      cases found with
      | none => exact ih
      | @some v v' related =>
        cases related.view with
        | map => exact .some related
        | list => exact .some related
        | required => exact .some related
        | leaf =>
          cases v with
          | null => exact .none
          | _ => exact .some related
    | list => exact ih
    | required isRequired => cases isRequired
    | leaf noMap =>
      cases v with
      | map fields => exact absurd rfl (noMap fields)
      | _ => exact ih

theorem givenSchema?_concur (direct : role.part "schema" = .schema)
    (media : role.part "content" = .content) (h : Arranged role es es') :
    Concur (Option.Rel (Matched .schema)) (givenSchema? es) (givenSchema? es') := by
  have schema := h.look "schema"
  have content := h.look "content"
  rw [direct] at schema
  rw [media] at content
  have given := Value.rel_getSome? schema
  unfold givenSchema?
  generalize Value.getSome? "schema" es = part at *
  generalize Value.getSome? "schema" es' = part' at *
  cases given with
  | some related => exact .ok (.some related)
  | none =>
    exact (entriesAt_concur content).bind fun media media' arranged =>
      .ok (rel_mediaSchema? arranged)

theorem readPartSchema_concur (among : role ∈ [Role.parameter, .header]) (h : Arranged role es es')
    (dialect : Dialect) :
    Concur (Option.Rel Schema.Rearranged) (readPartSchema dialect location es)
      (readPartSchema dialect location es') := by
  cases dialect with
  | swagger =>
    refine Ending.map ?_ fun _ _ => Option.Rel.some
    unfold readInlineSchema
    rw [Schema.read_map, Schema.read_map]
    refine Schema.readMapBy_concur (Schema.readsAlike _) ?_ (Nat.le_refl _)
    exact Schema.keywordsMatch_filter
      (Schema.keywordsMatch_of_arranged (List.mem_cons_of_mem _ among) h)
      fun k => !plainKeys.any fun key => k.isText key
  | openApi =>
    have roles : ∀ role ∈ [Role.parameter, .header],
        role.part "schema" = .schema ∧ role.part "content" = .content := by decide
    obtain ⟨direct, media⟩ := roles role among
    exact (givenSchema?_concur direct media h).bind fun part part' found =>
      readOptional_concur found

theorem isRequired_eq (required : role.part "required" = .required) (h : Arranged role es es') :
    isRequired es = isRequired es' := by
  have found := h.look "required"
  rw [required] at found
  unfold isRequired Value.get
  generalize Value.lookupText "required" es = part at *
  generalize Value.lookupText "required" es' = part' at *
  cases found with
  | none => rfl
  | some related => exact related.isPresent_eq

theorem readParameter_concur (h : Arranged .parameter es es') (dialect : Dialect)
    (location : Location) :
    Concur Parameter.Rearranged (readParameter dialect location es)
      (readParameter dialect location es') := by
  unfold readParameter shownOr
  rw [h.lookupText_eq "name" rfl, h.lookupText_eq "in" rfl, h.get_eq "description" rfl,
    isRequired_eq rfl h]
  refine (Concur.refl _).bind ?_
  rintro name _ rfl
  dsimp only
  generalize (Value.lookupText "in" es').getD (.str "query") = written
  cases Place.of? written with
  | none => exact (Concur.refl written.shown).bind fun _ _ _ => .error trivial
  | some place =>
    refine (readPartSchema_concur (by decide) h dialect).bind fun schema schema' related => ?_
    refine (Concur.refl _).bind ?_
    rintro description _ rfl
    exact .ok ⟨rfl, related⟩

theorem parameterKey_concur {v v' : Value} (h : Matched .parameter v v') :
    Concur (fun p p' => Arranged .parameter p.1 p'.1 ∧ p.2 = p'.2) (parameterKey v)
      (parameterKey v') := by
  unfold parameterKey
  cases h.view with
  | @map es es' entries =>
    simp only [Value.mapping, bind, Except.bind, entries.get_eq "name" rfl, entries.get_eq "in" rfl]
    split
    · exact .ok ⟨entries, rfl⟩
    · exact .error _ _
  | list => exact .error _ _
  | required isRequired => cases isRequired
  | leaf noMap =>
    cases v with
    | map entries => exact absurd rfl (noMap entries)
    | _ => exact .error _ _

theorem keyedParameters_map (keyed : TextKeyed (.map es)) (present : es ≠ []) :
    ∃ e, (es.map Prod.fst).mapM parameterKey = .error e := by
  cases es with
  | nil => exact absurd rfl present
  | cons e rest =>
    obtain ⟨key, named, -⟩ := keyed.lookup List.mem_cons_self
    rw [List.map_cons, named, List.mapM_cons]
    exact ⟨_, rfl⟩

/-- The items of a value that is no mapping stand in it, unless they are made of its characters. -/
theorem textKeyed_of_items {v item : Value} {items : List Value} (keyed : TextKeyed v)
    (noMap : ∀ es, v ≠ .map es) (given : v.items = .ok items) (listed : item ∈ items) :
    TextKeyed item := by
  cases v with
  | map es => exact absurd rfl (noMap es)
  | list items =>
    cases given
    exact keyed.inside (.item listed (.refl _))
  | set items =>
    cases given
    exact keyed.inside (.member listed (.refl _))
  | pair a b =>
    cases given
    rcases List.mem_cons.1 listed with rfl | listed
    · exact keyed.inside (.first (.refl _))
    · cases List.mem_singleton.1 listed
      exact keyed.inside (.second (.refl _))
  | str text =>
    cases given
    obtain ⟨c, -, rfl⟩ := List.mem_map.1 listed
    exact fun _ inner => nomatch inner
  | bytes data =>
    cases given
    obtain ⟨b, -, rfl⟩ := List.mem_map.1 listed
    exact fun _ inner => nomatch inner
  | _ => cases given

theorem keyedParameters_concur (parameters : role.part "parameters" = .parameters)
    (h : Arranged role es es') :
    Concur (List.Forall₂ fun p p' => Arranged .parameter p.1 p'.1 ∧ p.2 = p'.2)
      (parametersAt es >>= List.mapM parameterKey)
        (parametersAt es' >>= List.mapM parameterKey) := by
  have found := h.look "parameters"
  rw [parameters] at found
  have present := Value.rel_getPresent? found
  have visible : ∀ v, Value.getPresent? "parameters" es = some v → v.isPresent = true :=
    fun v given => (Option.filter_eq_some_iff.1 given).2
  unfold parametersAt
  generalize Value.getPresent? "parameters" es = part at *
  generalize Value.getPresent? "parameters" es' = part' at *
  cases present with
  | none => exact .ok .nil
  | @some v v' related =>
    cases related.view with
    | @map fields fields' entries =>
      have count : fields.length = fields'.length := by simpa using entries.keys.length_eq
      have some : fields ≠ [] := by
        rintro rfl
        simpa [Value.isPresent] using visible _ rfl
      have some' : fields' ≠ [] := by
        rintro rfl
        exact some (List.eq_nil_of_length_eq_zero count)
      obtain ⟨e, failed⟩ := keyedParameters_map entries.keyed some
      obtain ⟨e', failed'⟩ := keyedParameters_map entries.keyed' some'
      simp only [Value.items, Value.looseItems, bind, Except.bind, failed, failed']
      exact .error e e'
    | list each => exact Ending.mapM (each.imp fun _ _ => parameterKey_concur)
    | required isRequired => cases isRequired
    | leaf noMap =>
      dsimp only
      cases given : v.items with
      | error e => exact .error e e
      | ok items =>
        exact Ending.mapM (List.forall₂_same.2 fun item listed =>
          parameterKey_concur (.refl (textKeyed_of_items related.keyed noMap given listed)))

theorem mergedParameters_concur {item item' operation operation' : List (Value × Value)}
    (shared : Arranged .pathItem item item') (own : Arranged .operation operation operation') :
    Concur (List.Forall₂ (Arranged .parameter)) (mergedParameters item operation)
      (mergedParameters item' operation') := by
  have inSteps (item operation : List (Value × Value)) : mergedParameters item operation =
      (parametersAt operation >>= List.mapM parameterKey) >>= fun own =>
        (parametersAt item >>= List.mapM parameterKey) >>= fun shared =>
          .ok ((shared.filter (fun s => !own.any fun o => o.2.sameKey s.2) ++ own).map
            Prod.fst) := by
    simp only [mergedParameters, bind_assoc]
    rfl
  rw [inSteps, inSteps]
  refine (keyedParameters_concur rfl own).bind fun own own' ownRelated => ?_
  refine (keyedParameters_concur rfl shared).bind fun shared shared' sharedRelated => .ok ?_
  have known (key : Value) : own.any (fun o => o.2.sameKey key) =
      own'.any (fun o => o.2.sameKey key) := by
    clear sharedRelated
    induction ownRelated with
    | nil => rfl
    | cons first _ ih => rw [List.any_cons, List.any_cons, first.2, ih]
  rw [List.forall₂_map_left_iff, List.forall₂_map_right_iff]
  refine List.Forall₂.imp (fun _ _ both => both.1)
    (List.rel_append (List.rel_filter ?_ sharedRelated) ownRelated)
  rintro p p' ⟨-, same⟩
  dsimp only
  rw [known, same]

end Parts

section Bodies

variable {es es' : List (Value × Value)} {role : Role}

theorem makeBody_rearranged (required : role.part "required" = .required)
    (description : role.part "description" = .fixed) (h : Arranged role es es') (types : List Value)
    {schema schema' : Option Schema} (related : Option.Rel Schema.Rearranged schema schema') :
    Concur RequestBody.Rearranged (makeBody es types schema) (makeBody es' types schema') :=
  (makeBody_concur (isRequired_eq required h) (h.get_eq "description" description)
    types related).imp
    fun _ _ both => ⟨both.1, both.2⟩

theorem splitBody_concur (consumes : Value) (location : Location) {ps ps' : List Document.Entries}
    (parameters : List.Forall₂ (Arranged .parameter) ps ps') {body body' : Option RequestBody}
    (related : Option.Rel RequestBody.Rearranged body body') :
    Concur (fun r r' => Option.Rel RequestBody.Rearranged r.1 r'.1 ∧
        List.Forall₂ (Arranged .parameter) r.2 r'.2)
      (splitBody consumes location ps body) (splitBody consumes location ps' body') := by
  induction parameters generalizing body body' with
  | nil => exact .ok ⟨related, .nil⟩
  | cons first _ ih =>
    rw [splitBody, splitBody, first.get_eq "in" rfl, first.get_eq "name" rfl]
    dsimp only
    split
    · exact (Concur.refl _).bind fun _ _ _ => .error trivial
    split
    · refine (Concur.refl _).bind ?_
      rintro types _ rfl
      refine (readOptional_concur (Value.rel_getSome? (first.look "schema"))).bind
        fun schema schema' schemas => ?_
      exact (makeBody_rearranged rfl rfl first types schemas).bind fun body body' bodies =>
        ih (.some bodies)
    · exact (ih related).bind fun r r' both => .ok ⟨both.1, .cons first both.2⟩

theorem readBody_concur (h : Arranged .operation es es') (location : Location) :
    Concur (Option.Rel RequestBody.Rearranged) (readBody location es) (readBody location es') := by
  have found := Value.rel_getSome? (h.look "requestBody")
  unfold readBody
  generalize Value.getSome? "requestBody" es = part at *
  generalize Value.getSome? "requestBody" es' = part' at *
  cases found with
  | none => exact .ok .none
  | @some v v' related =>
    cases related.view with
    | @map fields fields' entries =>
      refine (entriesAt_concur (entries.look "content")).bind fun content content' media => ?_
      refine (readOptional_concur (rel_mediaSchema? media)).bind fun schema schema' schemas => ?_
      rw [media.order rfl]
      exact (makeBody_rearranged rfl rfl entries _ schemas).bind fun body body' bodies =>
        .ok (.some bodies)
    | list => exact .error _ _
    | required isRequired => cases isRequired
    | leaf noMap =>
      cases v with
      | map fields => exact absurd rfl (noMap fields)
      | _ => exact .error _ _

end Bodies

section Responses

variable {es es' : List (Value × Value)}

theorem readHeader_concur (h : Arranged .header es es') (dialect : Dialect) (location : Location) :
    Concur Header.Rearranged (readHeader dialect location es)
      (readHeader dialect location es') := by
  unfold readHeader
  rw [h.get_eq "description" rfl, isRequired_eq rfl h]
  refine (readPartSchema_concur (by decide) h dialect).bind fun schema schema' schemas => ?_
  refine (Concur.refl _).bind ?_
  rintro description _ rfl
  exact .ok ⟨rfl, schemas⟩

theorem readHeaders_concur (h : Arranged .headers es es') (dialect : Dialect)
    (location : Location) :
    Concur (List.Forall₂ fun e e' => e.1 = e'.1 ∧ Header.Rearranged e.2 e'.2)
      (readHeaders dialect location es) (readHeaders dialect location es') := by
  have beside := h.entries .header rfl fun _ => rfl
  clear h
  induction beside with
  | nil => exact .ok .nil
  | @cons e e' rest rest' first _ ih =>
    obtain ⟨k, v⟩ := e
    obtain ⟨_, v'⟩ := e'
    obtain ⟨rfl, related⟩ := first
    cases related.view with
    | map entries =>
      refine (Concur.refl k.shown).bind ?_
      rintro name _ rfl
      refine (readHeader_concur entries dialect _).bind fun header header' headers => ?_
      exact ih.bind fun more more' others => .ok (.cons ⟨rfl, headers⟩ others)
    | list => exact ih
    | required isRequired => cases isRequired
    | leaf noMap =>
      cases v with
      | map fields => exact absurd rfl (noMap fields)
      | _ => exact ih

theorem responseContent_concur (h : Arranged .response es es') (dialect : Dialect)
    (produces : Value) :
    Concur (fun r r' => Option.Rel (Matched .schema) r.1 r'.1 ∧ r.2 = r'.2)
      (responseContent dialect produces es) (responseContent dialect produces es') := by
  cases dialect with
  | swagger =>
    have found := Value.rel_getSome? (h.look "schema")
    unfold responseContent
    dsimp only
    generalize Value.getSome? "schema" es = part at *
    generalize Value.getSome? "schema" es' = part' at *
    cases found with
    | none => exact .ok ⟨.none, rfl⟩
    | some related =>
      exact (Concur.refl produces.items).bind fun _ _ same => .ok ⟨.some related, same⟩
  | openApi =>
    exact (entriesAt_concur (h.look "content")).bind fun content content' media =>
      .ok ⟨rel_mediaSchema? media, media.order rfl⟩

theorem readResponse_concur (h : Arranged .response es es') (dialect : Dialect) (produces : Value)
    (location : Location) (status : Text) :
    Concur Response.Rearranged (readResponse dialect produces location status es)
      (readResponse dialect produces location status es') := by
  unfold readResponse
  rw [h.get_eq "description" rfl]
  refine (responseContent_concur h dialect produces).bind ?_
  rintro ⟨raw, types⟩ ⟨raw', _⟩ ⟨found, rfl⟩
  refine (entriesAt_concur (h.look "headers")).bind fun fields fields' arranged => ?_
  refine (readHeaders_concur arranged dialect location).bind fun headers headers' related => ?_
  refine (readOptional_concur found).bind fun schema schema' schemas => ?_
  refine (Checked.Agree.seq ((Checked.Agree.refl _).map ?_) (Checked.Agree.refl _)).orStop _ _
  rintro description _ rfl types _ rfl
  exact ⟨rfl, schemas, forall₂_ofList related⟩

theorem readResponses_concur (h : Arranged .responses es es') (dialect : Dialect) (produces : Value)
    (location : Location) (n : Nat) :
    Concur (List.Forall₂ Response.Rearranged) (readResponses dialect produces location n es)
      (readResponses dialect produces location n es') := by
  have beside := h.entries .response rfl fun _ => rfl
  clear h
  induction beside generalizing n with
  | nil => exact .ok .nil
  | @cons e e' rest rest' first _ ih =>
    obtain ⟨k, v⟩ := e
    obtain ⟨_, v'⟩ := e'
    obtain ⟨rfl, related⟩ := first
    cases related.view with
    | map entries =>
      refine (Concur.refl k.shown).bind ?_
      rintro status _ rfl
      refine (readResponse_concur entries dialect produces _ status).bind
        fun response response' responses => ?_
      exact (ih (n + 1)).bind fun more more' others => .ok (.cons responses others)
    | list => exact ih (n + 1)
    | required isRequired => cases isRequired
    | leaf noMap =>
      cases v with
      | map fields => exact absurd rfl (noMap fields)
      | _ => exact ih (n + 1)

end Responses

section Operations

variable {document document' item item' operation operation' : List (Value × Value)}

theorem mediaTypes_eq (h : Arranged .document document document')
    (own : Arranged .operation operation operation') {key : Text}
    (among : key ∈ [("consumes" : Text), "produces"]) :
    mediaTypes key document operation = mediaTypes key document' operation' := by
  have roles : ∀ key ∈ [("consumes" : Text), "produces"],
      Role.document.part key = .fixed ∧ Role.operation.part key = .fixed := by decide
  unfold mediaTypes
  rw [h.getPresent?_eq key (roles key among).1, own.getPresent?_eq key (roles key among).2]

theorem readBodyAndParameters_concur (h : Arranged .document document document')
    (own : Arranged .operation operation operation') (dialect : Dialect) (location : Location)
    {ps ps' : List Document.Entries} (parameters : List.Forall₂ (Arranged .parameter) ps ps') :
    Concur (fun r r' => Option.Rel RequestBody.Rearranged r.1 r'.1 ∧
        List.Forall₂ (Arranged .parameter) r.2 r'.2)
      (readBodyAndParameters dialect document operation location ps)
      (readBodyAndParameters dialect document' operation' location ps') := by
  cases dialect with
  | swagger =>
    unfold readBodyAndParameters
    rw [mediaTypes_eq h own (by decide)]
    exact splitBody_concur _ location parameters .none
  | openApi =>
    exact (readBody_concur own location).bind fun body body' bodies => .ok ⟨bodies, parameters⟩

theorem readOperation_concur (h : Arranged .document document document')
    (shared : Arranged .pathItem item item') (own : Arranged .operation operation operation')
    (dialect : Dialect) (path : Value) (marks : List Nat) (method : Method) :
    Concur Operation.Rearranged (readOperation dialect document item path marks method operation)
      (readOperation dialect document' item' path marks method operation') := by
  unfold readOperation
  rw [own.get_eq "operationId" rfl, own.get_eq "summary" rfl, own.get_eq "description" rfl,
    mediaTypes_eq h own (by decide)]
  refine (Concur.refl path.shown).bind ?_
  rintro path _ rfl
  refine (mergedParameters_concur shared own).bind fun merged merged' parameters => ?_
  refine (readBodyAndParameters_concur h own dialect _ parameters).bind ?_
  rintro ⟨body, remaining⟩ ⟨body', remaining'⟩ ⟨bodies, parameters⟩
  refine (entriesAt_concur (own.look "responses")).bind fun fields fields' arranged => ?_
  refine (readResponses_concur arranged dialect _ _ 0).bind fun responses responses' related => ?_
  refine (Ending.mapM
    (parameters.imp fun _ _ entries => readParameter_concur entries dialect _)).bind
    fun read read' parameters => ?_
  refine (Checked.Agree.seq
    (Checked.Agree.seq ((Checked.Agree.refl _).map ?_) (Checked.Agree.refl _))
    (Checked.Agree.refl _)).orStop _ _
  rintro id _ rfl summary _ rfl description _ rfl
  exact ⟨rfl, parameters, bodies, related⟩

theorem readMethods_concur (h : Arranged .document document document')
    (shared : Arranged .pathItem item item') (dialect : Dialect) (path : Value) (marks : List Nat)
    (methods : List Method) :
    Concur (List.Forall₂ Operation.Rearranged)
      (readMethods dialect document item path marks methods)
      (readMethods dialect document' item' path marks methods) := by
  induction methods with
  | nil => exact .ok .nil
  | cons method rest ih =>
    have found := shared.look method.word
    rw [show Role.pathItem.part method.word = .operation by cases method <;> rfl] at found
    unfold readMethods Value.get
    generalize Value.lookupText method.word item = part at *
    generalize Value.lookupText method.word item' = part' at *
    cases found with
    | none => exact ih
    | @some v v' related =>
      cases related.view with
      | map entries =>
        exact (readOperation_concur h shared entries dialect path marks method).bind
          fun first first' operations => ih.bind fun more more' others =>
            .ok (.cons operations others)
      | list => exact ih
      | required isRequired => cases isRequired
      | leaf noMap =>
        cases v with
        | map fields => exact absurd rfl (noMap fields)
        | _ => exact ih

theorem readPaths_concur (h : Arranged .document document document')
    {paths paths' : List (Value × Value)} (arranged : Arranged .paths paths paths')
    (dialect : Dialect) (round n : Nat) :
    Concur (List.Forall₂ Operation.Rearranged) (readPaths dialect round document n paths)
      (readPaths dialect round document' n paths') := by
  have beside := arranged.entries .pathItem rfl fun _ => rfl
  clear arranged
  induction beside generalizing n with
  | nil => exact .ok .nil
  | @cons e e' rest rest' first _ ih =>
    obtain ⟨k, v⟩ := e
    obtain ⟨_, v'⟩ := e'
    obtain ⟨rfl, related⟩ := first
    cases related.view with
    | map entries =>
      refine (readMethods_concur h entries dialect k _ Method.all).bind
        fun own own' operations => ?_
      exact (ih (n + 1)).bind fun more more' others => .ok (List.rel_append operations others)
    | list => exact ih (n + 1)
    | required isRequired => cases isRequired
    | leaf noMap =>
      cases v with
      | map fields => exact absurd rfl (noMap fields)
      | _ => exact ih (n + 1)

end Operations

/-! Documents. -/

section Documents

variable {doc doc' : List (Value × Value)}

theorem readInfo_eq (h : Arranged .document doc doc') : readInfo doc = readInfo doc' := by
  unfold readInfo entriesAt
  rw [h.getPresent?_eq "info" rfl]

theorem readServers_eq (h : Arranged .document doc doc') (dialect : Dialect) :
    readServers dialect doc = readServers dialect doc' := by
  unfold readServers shownOr
  rw [h.getPresent?_eq "host" rfl, h.getPresent?_eq "schemes" rfl, h.lookupText_eq "basePath" rfl,
    h.getPresent?_eq "servers" rfl]

theorem readNamedSchemas_concur {es es' : List (Value × Value)} (h : Arranged .schemas es es')
    (round : Nat) :
    Concur (List.Forall₂ fun e e' => e.1 = e'.1 ∧ Schema.Rearranged e.2 e'.2)
      (readNamedSchemas round es) (readNamedSchemas round es') := by
  have beside := h.entries .schema rfl fun _ => rfl
  clear h
  induction beside with
  | nil => exact .ok .nil
  | @cons e e' rest rest' first _ ih =>
    obtain ⟨k, v⟩ := e
    obtain ⟨_, v'⟩ := e'
    obtain ⟨rfl, related⟩ := first
    refine (Concur.refl k.shown).bind ?_
    rintro name _ rfl
    refine (Schema.read_matched related _).bind fun schema schema' schemas => ?_
    exact ih.bind fun more more' others => .ok (.cons ⟨rfl, schemas⟩ others)

theorem readSchemas_concur (h : Arranged .document doc doc') (dialect : Dialect) (round : Nat) :
    Concur (fun m m' => List.Forall₂ (fun e e' => e.1 = e'.1 ∧ Schema.Rearranged e.2 e'.2)
        m.entries m'.entries)
      (readSchemas dialect round doc) (readSchemas dialect round doc') := by
  have named (es es' : List (Value × Value)) (arranged : Arranged .schemas es es') :
      Concur (fun m m' => List.Forall₂ (fun e e' => e.1 = e'.1 ∧ Schema.Rearranged e.2 e'.2)
          m.entries m'.entries)
        (OrderedMap.ofList <$> readNamedSchemas round es)
        (OrderedMap.ofList <$> readNamedSchemas round es') :=
    (readNamedSchemas_concur arranged round).map fun _ _ => forall₂_ofList
  cases dialect with
  | swagger => exact (entriesAt_concur (h.look "definitions")).bind named
  | openApi =>
    exact (entriesAt_concur (h.look "components")).bind fun _ _ arranged =>
      (entriesAt_concur (arranged.look "schemas")).bind named

theorem checkKeys_of_textKeyed (keyed : TextKeyed (.map doc)) : checkKeys doc = .accepted () := by
  refine checkKeys_accepted_iff.2 fun e listed => ?_
  obtain ⟨key, named, -⟩ := keyed.lookup listed
  exact ⟨key, by rw [named]; rfl⟩

theorem read_concur (h : Matched .document (.map doc) (.map doc'))
    (named : ∀ pointer ∈ Pointer.allOf (.map doc), (Pointer.schemaName? pointer).isSome)
    (version : Value) :
    Concur Description.Rearranged (read version doc).result (read version doc').result := by
  have arranged : Arranged .document doc doc' := by
    cases h.view with
    | map entries => exact entries
    | leaf noMap => exact absurd rfl (noMap doc)
  unfold read readIn
  simp only [Traced.result_bind, checkKeys_of_textKeyed h.keyed, checkKeys_of_textKeyed h.keyed']
  refine (Pointer.resolve_concur h named).bind ?_
  rintro _ _ ⟨rfl, rfl⟩
  simp only [Traced.ofExcept, Value.mapping, bind, Except.bind]
  rw [readInfo_eq arranged, readServers_eq arranged]
  refine (Concur.refl (readInfo doc')).bind ?_
  rintro info _ rfl
  refine (Concur.refl (readServers _ doc')).bind ?_
  rintro servers _ rfl
  refine (readSchemas_concur arranged _ 0).bind fun schemas schemas' named => ?_
  refine Ending.bind (R := List.Forall₂ Operation.Rearranged) ?_
    fun operations operations' related => ?_
  · exact (entriesAt_concur (arranged.look "paths")).bind fun paths paths' entries =>
      readPaths_concur arranged entries _ 0 0
  refine Ending.bind (R := Description.Rearranged) ?_ fun _ _ => .ok
  refine (Checked.Agree.seq ((Checked.Agree.refl _).map ?_) (Checked.Agree.refl _)).orStop _ _
  rintro version _ rfl _ _ _
  exact ⟨rfl, named, related⟩

end Documents

end Api

/-- The text of the model of an API, unless its document is refused or its model cannot be built. -/
def modelText? (version : Value) (doc : Document.Entries) (o : ModelOverride)
    (layout : Json.Layout) :
    Option Text := do
  let description ← (Api.read version doc).result.toOption
  let model ← (Compile.build description o).result.toOption
  return model.toJson layout

/-- The order of the keys of path items, schemas and properties, and the way in which required names
are listed, leave no trace: rearranged documents both fail, or both have a model, written in the
same text. -/
theorem modelText?_rearranged {doc doc' : Document.Entries}
    (h : Value.Rearranged .document (.map doc) (.map doc')) (keyed : TextKeyed (.map doc))
    (named : ∀ pointer ∈ Pointer.allOf (.map doc), (Pointer.schemaName? pointer).isSome = true)
    (version : Value) (o : ModelOverride) (layout : Json.Layout) :
    modelText? version doc o layout = modelText? version doc' o layout := by
  have read := Api.read_concur ⟨h, keyed, h.textKeyed keyed⟩ named version
  unfold modelText?
  generalize (Api.read version doc).result = described at *
  generalize (Api.read version doc').result = described' at *
  cases read with
  | error _ => rfl
  | @ok d d' related =>
    simp only [Except.toOption, Option.bind_eq_bind, Option.bind_some]
    rw [build_rearranged o related]

def kennel (item schema : Value) : Document.Entries :=
  [(.str "paths", .ofEntries [("/dogs", item)]),
    (.str "components", .ofEntries [("schemas", .ofEntries [("Dog", schema)])])]

def kennelOperation (name : Text) : Value :=
  .ofEntries
    [("operationId", .str name),
      ("responses", .ofEntries [("200", .ofEntries [("content", .ofEntries [("application/json",
        .ofEntries [("schema", .ofEntries [("$ref", .str "#/components/schemas/Dog")])])])])])]

def kennelItem : Value :=
  .ofEntries [("get", kennelOperation "firstDog"), ("put", kennelOperation "changeDog")]

def kennelItem' : Value :=
  .ofEntries [("put", kennelOperation "changeDog"), ("get", kennelOperation "firstDog")]

def dogSchema : Value :=
  .ofEntries
    [("type", .str "object"),
      ("properties", .ofEntries
        [("name", .ofEntries [("type", .str "string"), ("maxLength", .int 20)]),
          ("age", .ofEntries [("type", .str "integer")])]),
      ("required", .ofTexts ["name", "age"])]

def dogSchema' : Value :=
  .ofEntries
    [("required", .ofTexts ["age", "name", "age"]),
      ("properties", .ofEntries
        [("age", .ofEntries [("type", .str "integer")]),
          ("name", .ofEntries [("maxLength", .int 20), ("type", .str "string")])]),
      ("type", .str "object")]

theorem dogSchema_rearranged : Value.Rearranged .schema dogSchema dogSchema' := by
  have name : Value.Rearranged .schema
      (.ofEntries [("type", .str "string"), ("maxLength", .int 20)])
      (.ofEntries [("maxLength", .int 20), ("type", .str "string")]) := by
    refine .ofEntries (by decide) (List.Perm.swap _ _ _) (by decide) ?_
    simp only [List.forall_mem_cons]
    exact ⟨.same _, .same _, by simp⟩
  have required (a b : Value) : Value.Rearranged .required (.list [a, b]) (.list [b, a, b]) := by
    refine .required fun v => ?_
    simp only [List.mem_cons, List.not_mem_nil, or_false]
    rw [or_left_comm, or_self]
  refine .ofEntries (by decide) (by decide) (by decide) ?_
  simp only [List.forall_mem_cons]
  refine ⟨.same _, ?_, required _ _, by simp⟩
  refine .ofEntries (by decide) (List.Perm.swap _ _ _) (by decide) ?_
  simp only [List.forall_mem_cons]
  exact ⟨name, .same _, by simp⟩

theorem kennel_rearranged :
    Value.Rearranged .document (.map (kennel kennelItem dogSchema))
      (.map (kennel kennelItem' dogSchema')) := by
  have item : Value.Rearranged .pathItem kennelItem kennelItem' := by
    refine .ofEntries (by decide) (List.Perm.swap _ _ _) (by decide) ?_
    simp only [List.forall_mem_cons]
    exact ⟨.same _, .same _, by simp⟩
  -- around the path item and the schema nothing changes
  have around {role : Role} (free : role ≠ .fixed) {key : Text} {v v' : Value}
      (part : Value.Rearranged (role.part key) v v') :
      Value.Rearranged role (.ofEntries [(key, v)]) (.ofEntries [(key, v')]) := by
    refine .ofEntries free (.refl _) (fun _ => rfl) ?_
    simpa using part
  change Value.Rearranged .document (.ofEntries [("paths", _), ("components", _)])
    (.ofEntries [("paths", _), ("components", _)])
  refine .ofEntries (by decide) (.refl _) (fun _ => rfl) ?_
  simp only [List.forall_mem_cons]
  exact ⟨around (by decide) item,
    around (by decide) (around (by decide) dogSchema_rearranged), by simp⟩

theorem kennel_textKeyed : TextKeyed (.map (kennel kennelItem dogSchema)) := by
  have single {key : Text} {v : Value} (part : TextKeyed v) : TextKeyed (.ofEntries [(key, v)]) :=
    Value.textKeyed_ofEntries (List.nodup_singleton key) (by simpa using part)
  have operation (name : Text) : TextKeyed (kennelOperation name) := by
    refine Value.textKeyed_ofEntries (show [("operationId" : Text), "responses"].Nodup by decide) ?_
    simp only [List.forall_mem_cons]
    exact ⟨Value.textKeyed_str _,
      single (single (single (single (single (Value.textKeyed_str _))))), by simp⟩
  have item : TextKeyed kennelItem := by
    refine Value.textKeyed_ofEntries (by decide) ?_
    simp only [List.forall_mem_cons]
    exact ⟨operation _, operation _, by simp⟩
  have name : TextKeyed (.ofEntries [("type", .str "string"), ("maxLength", .int 20)]) := by
    refine Value.textKeyed_ofEntries (by decide) ?_
    simp only [List.forall_mem_cons]
    exact ⟨Value.textKeyed_str _, Value.textKeyed_int _, by simp⟩
  have schema : TextKeyed dogSchema := by
    refine Value.textKeyed_ofEntries (by decide) ?_
    simp only [List.forall_mem_cons]
    refine ⟨Value.textKeyed_str _, Value.textKeyed_ofEntries (by decide) ?_, ?_, by simp⟩
    · simp only [List.forall_mem_cons]
      exact ⟨name, single (Value.textKeyed_str _), by simp⟩
    · refine Value.textKeyed_list_iff.2 fun v listed => ?_
      obtain ⟨text, -, rfl⟩ := List.mem_map.1 listed
      exact Value.textKeyed_str text
  refine Value.textKeyed_ofEntries (l := [("paths", _), ("components", _)]) (by decide) ?_
  simp only [List.forall_mem_cons]
  exact ⟨single item, single (single schema), by simp⟩

theorem modelText?_rearranged_kennel :
    kennel kennelItem dogSchema ≠ kennel kennelItem' dogSchema' ∧
      (modelText? (.str "3.0.3") (kennel kennelItem dogSchema) default .line).isSome = true ∧
      modelText? (.str "3.0.3") (kennel kennelItem dogSchema) default .line =
        modelText? (.str "3.0.3") (kennel kennelItem' dogSchema') default .line := by
  have named : ∀ pointer ∈ Pointer.allOf (.map (kennel kennelItem dogSchema)),
      (Pointer.schemaName? pointer).isSome = true := by decide +kernel
  refine ⟨?_, ?_, modelText?_rearranged kennel_rearranged kennel_textKeyed named _ _ _⟩
  · simp +decide [kennel, kennelItem, kennelItem', Value.ofEntries]
  · have resolved : Pointer.resolve (.map (kennel kennelItem dogSchema)) =
        .ok (.map (kennel kennelItem dogSchema)) :=
      Pointer.resolve_eq_self (by decide +kernel) (by decide +kernel)
    unfold modelText? Api.read Api.readIn
    simp only [Traced.result_bind, resolved, Traced.ofExcept]
    decide +kernel

end ApiModel

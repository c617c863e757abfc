import ApiModel.Proofs.DialectAgreement
import ApiModel.Proofs.Model
import ApiModel.Proofs.SchemaOrigins

/-! Where the names come from that a description refers to. Each of them stands behind a pointer of
the document that was read. -/
namespace ApiModel

open Document (Entries)
open Value (Part Written)
open Validation (Checked)

/-- The names that pointers of some kind stand for. -/
def Pointer.Names (q : Text → Prop) (name : Text) : Prop :=
  ∃ pointer, q pointer ∧ schemaName? pointer = some name

/-! Schemas. -/

namespace Schema

theorem within_of_children {refs : Text → Prop} {schema : Schema}
    (own : ∀ name description, schema = .reference name description → refs name)
    (parts : ∀ child ∈ schema.children, child.Within refs) : schema.Within refs := by
  intro target refers
  cases refers with
  | itself => exact own _ _ rfl
  | items inner => exact parts _ List.mem_cons_self _ inner
  | property listed inner =>
    exact parts _ (List.mem_append_left _ (List.mem_map_of_mem listed)) _ inner
  | values inner => exact parts _ (List.mem_append_right _ List.mem_cons_self) _ inner
  | branch listed inner => exact parts _ listed _ inner

theorem within_anything {refs : Text → Prop} : anything.Within refs :=
  within_of_children (by simp [anything]) (by simp [anything, children])

theorem within_of_read {q : Text → Prop} {location : Location} {v : Value} {schema : Schema}
    (clean : Pointer.Clean q v) (done : read location v = .ok schema) :
    schema.Within (Pointer.Names q) := by
  revert clean
  refine read_induction (P := fun v schema => Pointer.Clean q v → schema.Within (Pointer.Names q))
    (fun _ => within_anything) ?_ done
  intro entries schema declared parts clean
  apply within_of_children
  · rintro name description rfl
    cases declared with
    | reference found named => exact ⟨_, clean.own found, named⟩
    | typed _ _ _ _ same => cases same
  · intro child listed
    rcases parts child listed with rfl | ⟨part, inner, within⟩
    · exact within_anything
    · exact within (clean.part inner)

end Schema

/-! Parts of operations. -/

namespace Api

open Compile (responseSchemas operationSchemas)

variable {q : Text → Prop} {dialect : Dialect} {location : Location} {entries : Entries}

theorem part_of_get {key : Text} {fields : Entries} (found : Value.get key entries = .map fields) :
    Part (.map entries) (.map fields) := by
  cases given : Value.lookupText key entries with
  | none => simp [Value.get, given] at found
  | some v =>
    simp only [Value.get, given, Option.getD_some] at found
    exact found ▸ Value.part_of_lookupText given

theorem clean_of_entriesAt {key : Text} {fields : Entries} (clean : Pointer.Clean q (.map entries))
    (done : entriesAt key entries = .ok fields) : Pointer.Clean q (.map fields) := by
  rcases get_of_entriesAt done with rfl | found
  · exact .map (by simp) (by simp [Pointer.of?, Value.lookupText])
  · exact clean.part (part_of_get found)

theorem written_of_entriesAt {key : Text} {fields : Entries} (written : Written (.map entries))
    (done : entriesAt key entries = .ok fields) : Written (.map fields) := by
  rcases get_of_entriesAt done with rfl | found
  · rfl
  · exact (part_of_get found).written written

theorem part_of_mediaSchema? {v : Value} (found : mediaSchema? entries = some v) :
    ∃ e ∈ entries, Part e.2 v := by
  fun_induction mediaSchema? entries with
  | case1 => cases found
  | case2 => cases found
  | case3 k media rest given there _ =>
    cases found
    exact ⟨_, List.mem_cons_self, Value.part_of_lookupText there⟩
  | case4 k media rest missing ih =>
    obtain ⟨e, listed, part⟩ := ih found
    exact ⟨e, List.mem_cons_of_mem _ listed, part⟩
  | case5 e rest other ih =>
    obtain ⟨e, listed, part⟩ := ih found
    exact ⟨e, List.mem_cons_of_mem _ listed, part⟩

theorem clean_of_mediaSchema? {v : Value} (clean : Pointer.Clean q (.map entries))
    (found : mediaSchema? entries = some v) : Pointer.Clean q v := by
  obtain ⟨e, listed, part⟩ := part_of_mediaSchema? found
  exact clean.part (.entry listed part)

theorem within_of_readOptional {v? : Option Value} {schema? : Option Schema}
    (clean : ∀ v ∈ v?, Pointer.Clean q v) (done : readOptional location v? = .ok schema?) :
    ∀ schema ∈ schema?, schema.Within (Pointer.Names q) := by
  rintro schema rfl
  cases v? with
  | none => cases done
  | some v =>
    obtain ⟨_, read, ⟨⟩⟩ := map_eq_ok_iff.1 done
    exact Schema.within_of_read (clean v rfl) read

theorem within_of_readPartSchema {schema? : Option Schema} (clean : Pointer.Clean q (.map entries))
    (done : readPartSchema dialect location entries = .ok schema?) :
    ∀ schema ∈ schema?, schema.Within (Pointer.Names q) := by
  cases dialect with
  | swagger =>
    rintro schema rfl
    obtain ⟨_, read, ⟨⟩⟩ := map_eq_ok_iff.1 done
    exact Schema.within_of_read
      (clean_filter clean fun k => !plainKeys.any fun key => k.isText key) read
  | openApi =>
    obtain ⟨v?, given, done⟩ := bind_eq_ok_iff.1 done
    refine within_of_readOptional ?_ done
    rintro v rfl
    unfold givenSchema? at given
    split at given
    · rename_i found
      cases given
      exact clean.part (part_of_getSome? found)
    · obtain ⟨content, fields, found⟩ := bind_eq_ok_iff.1 given
      exact clean_of_mediaSchema? (clean_of_entriesAt clean fields) (Except.ok.inj found)

theorem within_of_readParameter {parameter : Parameter} (clean : Pointer.Clean q (.map entries))
    (done : readParameter dialect location entries = .ok parameter) :
    ∀ schema ∈ parameter.schema, schema.Within (Pointer.Names q) := by
  obtain ⟨name, -, done⟩ := bind_eq_ok_iff.1 done
  dsimp only at done
  split at done
  · obtain ⟨_, -, failed⟩ := bind_eq_ok_iff.1 done
    cases failed
  · obtain ⟨schema, read, done⟩ := bind_eq_ok_iff.1 done
    obtain ⟨description, -, done⟩ := bind_eq_ok_iff.1 done
    cases done
    exact within_of_readPartSchema clean read

theorem schema_of_makeBody {types : List Value} {schema : Option Schema} {body : RequestBody}
    (done : makeBody entries types schema = .ok body) : body.schema = schema := by
  obtain ⟨_, _, accepted, -, rfl⟩ :=
    Checked.seq_eq_accepted_iff.1 (Checked.orStop_eq_ok_iff.1 done)
  obtain ⟨_, -, rfl⟩ := Checked.map_eq_accepted_iff.1 accepted
  rfl

theorem within_of_readBody {body : Option RequestBody} (clean : Pointer.Clean q (.map entries))
    (done : readBody location entries = .ok body) :
    ∀ schema ∈ body.bind RequestBody.schema, schema.Within (Pointer.Names q) := by
  unfold readBody at done
  split at done
  · cases done
    simp
  · rename_i v found
    have part := clean.part (part_of_getSome? found)
    obtain ⟨fields, mapping, done⟩ := bind_eq_ok_iff.1 done
    obtain ⟨content, media, done⟩ := bind_eq_ok_iff.1 done
    obtain ⟨schema, read, done⟩ := bind_eq_ok_iff.1 done
    obtain ⟨made, makes, done⟩ := bind_eq_ok_iff.1 done
    cases done
    cases v with
    | map entries =>
      cases mapping
      rw [Option.bind_some, schema_of_makeBody makes]
      exact within_of_readOptional
        (fun v given => clean_of_mediaSchema? (clean_of_entriesAt part media) given) read
    | _ => cases mapping

theorem within_of_readBodyAndParameters {document : Entries} {body : Option RequestBody}
    {parameters remaining : List Entries} (clean : Pointer.Clean q (.map entries))
    (each : ∀ p ∈ parameters, Pointer.Clean q (.map p))
    (done : readBodyAndParameters dialect document entries location parameters =
      .ok (body, remaining)) :
    (∀ schema ∈ body.bind RequestBody.schema, schema.Within (Pointer.Names q)) ∧
      remaining ⊆ parameters := by
  cases dialect with
  | swagger =>
    obtain ⟨rfl, split⟩ := splitBody_spec done
    refine ⟨?_, fun p listed => List.mem_of_mem_filter listed⟩
    rcases split with ⟨-, rfl⟩ | ⟨p, b, last, rfl, types, schema, -, read, made⟩
    · simp
    · have listed : p ∈ parameters := List.mem_of_mem_filter (List.mem_of_getLast? last)
      rw [Option.bind_some, schema_of_makeBody made]
      exact within_of_readOptional
        (fun v given => (each p listed).part (part_of_getSome? given)) read
  | openApi =>
    obtain ⟨b, read, done⟩ := bind_eq_ok_iff.1 done
    cases done
    exact ⟨within_of_readBody clean read, List.Subset.refl _⟩

theorem within_of_readHeaders {headers : List (Text × Header)}
    (clean : Pointer.Clean q (.map entries))
    (done : readHeaders dialect location entries = .ok headers) :
    ∀ e ∈ headers, ∀ schema ∈ e.2.schema, schema.Within (Pointer.Names q) := by
  have parts : ∀ e ∈ entries, Pointer.Clean q e.2 := fun e listed =>
    clean.part (.entry listed (.refl _))
  clear clean
  fun_induction readHeaders dialect location entries generalizing headers with
  | case1 =>
    cases done
    simp
  | case2 k fields rest ih =>
    obtain ⟨name, -, done⟩ := bind_eq_ok_iff.1 done
    obtain ⟨header, first, done⟩ := bind_eq_ok_iff.1 done
    obtain ⟨others, more, done⟩ := bind_eq_ok_iff.1 done
    cases done
    obtain ⟨schema, read, first⟩ := bind_eq_ok_iff.1 first
    obtain ⟨description, -, first⟩ := bind_eq_ok_iff.1 first
    cases first
    rw [List.forall_mem_cons] at parts ⊢
    exact ⟨within_of_readPartSchema parts.1 read, ih more parts.2⟩
  | case3 e rest other ih => exact ih done (List.forall_mem_cons.1 parts).2

theorem within_of_readResponse {produces : Value} {status : Text} {response : Response}
    (clean : Pointer.Clean q (.map entries))
    (done : readResponse dialect produces location status entries = .ok response) :
    ∀ schema ∈ responseSchemas response, schema.Within (Pointer.Names q) := by
  obtain ⟨⟨raw, types⟩, content, done⟩ := bind_eq_ok_iff.1 done
  obtain ⟨fields, given, done⟩ := bind_eq_ok_iff.1 done
  obtain ⟨headers, each, done⟩ := bind_eq_ok_iff.1 done
  obtain ⟨schema, read, done⟩ := bind_eq_ok_iff.1 done
  obtain ⟨_, _, accepted, -, rfl⟩ :=
    Checked.seq_eq_accepted_iff.1 (Checked.orStop_eq_ok_iff.1 done)
  obtain ⟨_, -, rfl⟩ := Checked.map_eq_accepted_iff.1 accepted
  have ofRaw : ∀ v ∈ raw, Pointer.Clean q v := by
    rintro v rfl
    cases dialect with
    | swagger =>
      unfold responseContent at content
      dsimp only at content
      split at content
      · rename_i found
        obtain ⟨_, -, content⟩ := bind_eq_ok_iff.1 content
        cases content
        exact clean.part (part_of_getSome? found)
      · cases content
    | openApi =>
      obtain ⟨media, found, content⟩ := bind_eq_ok_iff.1 content
      exact clean_of_mediaSchema? (clean_of_entriesAt clean found)
        (Prod.mk.inj (Except.ok.inj content)).1
  intro part listed
  rcases List.mem_append.1 listed with body | ofHeaders
  · exact within_of_readOptional ofRaw read part (Option.mem_toList.1 body)
  · obtain ⟨header, value, same⟩ := List.mem_filterMap.1 ofHeaders
    obtain ⟨⟨name, header⟩, entry, rfl⟩ := List.mem_map.1 value
    have there := OrderedMap.mem_of_get?_ofList (OrderedMap.get?_eq_some_iff.2 entry)
    exact within_of_readHeaders (clean_of_entriesAt clean given) each _ there part same

theorem within_of_readResponses {produces : Value} {n : Nat} {responses : List Response}
    (clean : Pointer.Clean q (.map entries))
    (done : readResponses dialect produces location n entries = .ok responses) :
    ∀ response ∈ responses, ∀ schema ∈ responseSchemas response,
      schema.Within (Pointer.Names q) := by
  have parts : ∀ e ∈ entries, Pointer.Clean q e.2 := fun e listed =>
    clean.part (.entry listed (.refl _))
  clear clean
  fun_induction readResponses dialect produces location n entries generalizing responses with
  | case1 =>
    cases done
    simp
  | case2 n k fields rest ih =>
    obtain ⟨status, -, done⟩ := bind_eq_ok_iff.1 done
    obtain ⟨response, first, done⟩ := bind_eq_ok_iff.1 done
    obtain ⟨others, more, done⟩ := bind_eq_ok_iff.1 done
    cases done
    rw [List.forall_mem_cons] at parts ⊢
    exact ⟨within_of_readResponse parts.1 first, ih more parts.2⟩
  | case3 n e rest other ih => exact ih done (List.forall_mem_cons.1 parts).2

theorem within_of_readOperation {document item : Entries} {path : Value} {marks : List Nat}
    {method : Method}
    {operation : Operation} (cleanItem : Pointer.Clean q (.map item))
    (writtenItem : Written (.map item)) (part : Part (.map item) (.map entries))
    (done : readOperation dialect document item path marks method entries = .ok operation) :
    ∀ schema ∈ operationSchemas operation, schema.Within (Pointer.Names q) := by
  have clean := cleanItem.part part
  obtain ⟨shown, -, done⟩ := bind_eq_ok_iff.1 done
  obtain ⟨merged, merges, done⟩ := bind_eq_ok_iff.1 done
  obtain ⟨⟨body, remaining⟩, split, done⟩ := bind_eq_ok_iff.1 done
  obtain ⟨fields, given, done⟩ := bind_eq_ok_iff.1 done
  obtain ⟨responses, reads, done⟩ := bind_eq_ok_iff.1 done
  obtain ⟨parameters, each, done⟩ := bind_eq_ok_iff.1 done
  obtain ⟨_, _, accepted, -, rfl⟩ :=
    Checked.seq_eq_accepted_iff.1 (Checked.orStop_eq_ok_iff.1 done)
  obtain ⟨_, _, earlier, -, rfl⟩ := Checked.seq_eq_accepted_iff.1 accepted
  obtain ⟨_, -, rfl⟩ := Checked.map_eq_accepted_iff.1 earlier
  have cleanMerged : ∀ p ∈ merged, Pointer.Clean q (.map p) := by
    intro p listed
    rcases part_of_mergedParameters writtenItem (part.written writtenItem) merges listed with
      own | shared
    · exact cleanItem.part own
    · exact clean.part shared
  obtain ⟨ofBody, among⟩ := within_of_readBodyAndParameters clean cleanMerged split
  intro schema listed
  simp only [operationSchemas, List.mem_append, Option.mem_toList, List.mem_filterMap,
    List.mem_flatMap] at listed
  rcases listed with (inBody | ⟨parameter, there, inParameter⟩) | ⟨response, there, inResponse⟩
  · exact ofBody schema inBody
  · obtain ⟨p, origin, read⟩ := exists_of_forall₂ (mapM_eq_ok_iff.1 each) there
    exact within_of_readParameter (cleanMerged p (among origin)) read schema inParameter
  · exact within_of_readResponses (clean_of_entriesAt clean given) reads response there
      schema inResponse

theorem within_of_readMethods {document item : Entries} {path : Value} {marks : List Nat}
    {methods : List Method} {operations : List Operation} (clean : Pointer.Clean q (.map item))
    (written : Written (.map item))
    (done : readMethods dialect document item path marks methods = .ok operations) :
    ∀ operation ∈ operations, ∀ schema ∈ operationSchemas operation,
      schema.Within (Pointer.Names q) := by
  fun_induction readMethods dialect document item path marks methods generalizing operations with
  | case1 =>
    cases done
    simp
  | case2 method rest entries found ih =>
    obtain ⟨operation, first, done⟩ := bind_eq_ok_iff.1 done
    obtain ⟨others, more, done⟩ := bind_eq_ok_iff.1 done
    cases done
    rw [List.forall_mem_cons]
    exact ⟨within_of_readOperation clean written (part_of_get found) first, ih more⟩
  | case3 method rest other ih => exact ih done

theorem within_of_readPaths {document : Entries} {round n : Nat} {operations : List Operation}
    (clean : Pointer.Clean q (.map entries)) (written : Written (.map entries))
    (done : readPaths dialect round document n entries = .ok operations) :
    ∀ operation ∈ operations, ∀ schema ∈ operationSchemas operation,
      schema.Within (Pointer.Names q) := by
  have parts : ∀ e ∈ entries, Pointer.Clean q e.2 ∧ Written e.2 := fun e listed =>
    ⟨clean.part (.entry listed (.refl _)), ((Value.written_map_iff.1 written).2 e listed).2⟩
  clear clean written
  fun_induction readPaths dialect round document n entries generalizing operations with
  | case1 =>
    cases done
    simp
  | case2 n k item rest ih =>
    obtain ⟨first, reads, done⟩ := bind_eq_ok_iff.1 done
    obtain ⟨others, more, done⟩ := bind_eq_ok_iff.1 done
    cases done
    obtain ⟨⟨clean, written⟩, later⟩ := List.forall_mem_cons.1 parts
    intro operation listed
    rcases List.mem_append.1 listed with here | there
    · exact within_of_readMethods clean written reads operation here
    · exact ih more later operation there
  | case3 n e rest other ih => exact ih done (List.forall_mem_cons.1 parts).2

theorem within_of_readNamedSchemas {round : Nat} {schemas : List (Text × Schema)}
    (clean : Pointer.Clean q (.map entries)) (done : readNamedSchemas round entries = .ok schemas) :
    ∀ e ∈ schemas, e.2.Within (Pointer.Names q) := by
  have parts : ∀ e ∈ entries, Pointer.Clean q e.2 := fun e listed =>
    clean.part (.entry listed (.refl _))
  clear clean
  fun_induction readNamedSchemas round entries generalizing schemas with
  | case1 =>
    cases done
    simp
  | case2 k v rest ih =>
    obtain ⟨name, -, done⟩ := bind_eq_ok_iff.1 done
    obtain ⟨schema, first, done⟩ := bind_eq_ok_iff.1 done
    obtain ⟨others, more, done⟩ := bind_eq_ok_iff.1 done
    cases done
    rw [List.forall_mem_cons] at parts ⊢
    exact ⟨Schema.within_of_read parts.1 first, ih more parts.2⟩

end Api

end ApiModel

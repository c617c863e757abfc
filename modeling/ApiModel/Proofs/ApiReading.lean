import ApiModel.Api.Read
import ApiModel.Proofs.Concur

/-! Parts of API documents, read in two places. -/
namespace ApiModel.Api

open Document (Entries)
open Validation (Checked)

theorem entriesAt_of_lookupText {key : Text} {entries fields : Entries}
    (found : Value.lookupText key entries = some (.map fields)) :
    entriesAt key entries = .ok fields := by
  rw [entriesAt, Value.getPresent?, found]
  cases fields <;> rfl

theorem entriesAt_of_none {key : Text} {entries : Entries}
    (missing : Value.lookupText key entries = none) :
    entriesAt key entries = .ok [] := by
  rw [entriesAt, Value.getPresent?, missing]
  rfl

theorem get_of_entriesAt {key : Text} {entries fields : Entries}
    (done : entriesAt key entries = .ok fields) :
    fields = [] ∨ Value.get key entries = .map fields := by
  unfold entriesAt at done
  split at done
  · rename_i v found
    rw [Value.get, (Option.filter_eq_some_iff.1 found).1]
    cases v with
    | map entries =>
      cases done
      exact .inr rfl
    | _ => cases done
  · cases done
    exact .inl rfl

theorem makeBody_concur {R : Option Schema → Option Schema → Prop} {entries entries' : Entries}
    (required : isRequired entries = isRequired entries')
    (description : Value.get "description" entries = Value.get "description" entries')
    (types : List Value) {schema schema' : Option Schema} (related : R schema schema') :
    Concur (fun b b' => b = { b' with schema := b.schema } ∧ R b.schema b'.schema)
      (makeBody entries types schema) (makeBody entries' types schema') := by
  unfold makeBody
  rw [required, description]
  apply Checked.Agree.orStop
  apply Checked.Agree.seq _ (Checked.Agree.refl _)
  apply (Checked.Agree.refl _).map
  rintro description _ rfl types _ rfl
  exact ⟨rfl, related⟩

theorem checkKeys_accepted_iff {document : Entries} :
    checkKeys document = .accepted () ↔
      ∀ e ∈ document, ∃ name, Validation.entryKey e.1 = .accepted name := by
  induction document with
  | nil => exact ⟨fun _ => nofun, fun _ => rfl⟩
  | cons e rest ih =>
    obtain ⟨k, v⟩ := e
    rw [checkKeys, List.forall_mem_cons, ← ih]
    cases Validation.entryKey k with
    | accepted name =>
      cases checkKeys rest with
      | accepted u => exact ⟨fun _ => ⟨⟨name, rfl⟩, rfl⟩, fun _ => rfl⟩
      | refused faults => exact ⟨nofun, nofun⟩
    | refused faults =>
      cases checkKeys rest with
      | accepted u => exact ⟨nofun, nofun⟩
      | refused more => exact ⟨nofun, nofun⟩

theorem entries_of_read {version : Value} {document : Entries} {d : Description}
    (done : (read version document).result = .ok d) :
    ∃ entries, Pointer.resolve (.map document) = .ok (.map entries) := by
  unfold read readIn at done
  simp only [Traced.result_bind] at done
  obtain ⟨v, resolved, done⟩ := bind_eq_ok_iff.1 done
  obtain ⟨entries, mapping, -⟩ := bind_eq_ok_iff.1 done
  cases v with
  | map entries => exact ⟨entries, resolved⟩
  | _ => cases mapping

theorem resolves_of_read {version : Value} {document : Entries} {d : Description}
    (done : (read version document).result = .ok d) :
    ∃ v, Pointer.resolve (.map document) = .ok v := by
  obtain ⟨entries, resolved⟩ := entries_of_read done
  exact ⟨.map entries, resolved⟩

theorem read_eq_ok_iff {version : Text} {document entries : Entries} {d : Description}
    (resolves : Pointer.resolve (.map document) = .ok (.map entries)) :
    (read (.str version) document).result = .ok d ↔
      readInfo entries = .ok d.info ∧
      readServers (Dialect.ofVersion (.str version)) entries = .ok d.servers ∧
      readSchemas (Dialect.ofVersion (.str version)) 0 entries = .ok d.schemas ∧
      entriesAt "paths" entries >>= readPaths (Dialect.ofVersion (.str version)) 0 entries 0 =
        .ok d.operations ∧
      checkKeys document = .accepted () ∧ d.version = version := by
  unfold read readIn
  simp only [Traced.result_bind, Traced.ofExcept, resolves]
  constructor
  · intro done
    obtain ⟨_, ⟨⟩, done⟩ := bind_eq_ok_iff.1 done
    obtain ⟨_, ⟨⟩, done⟩ := bind_eq_ok_iff.1 done
    obtain ⟨info, readsInfo, done⟩ := bind_eq_ok_iff.1 done
    obtain ⟨servers, readsServers, done⟩ := bind_eq_ok_iff.1 done
    obtain ⟨schemas, readsSchemas, done⟩ := bind_eq_ok_iff.1 done
    obtain ⟨operations, readsOperations, done⟩ := bind_eq_ok_iff.1 done
    obtain ⟨described, accepted, done⟩ := bind_eq_ok_iff.1 done
    cases keys : checkKeys document with
    | refused faults =>
      rw [keys] at accepted
      cases accepted
    | accepted u =>
      rw [keys] at accepted
      cases accepted
      cases done
      exact ⟨readsInfo, readsServers, readsSchemas, readsOperations, rfl, rfl⟩
  · rintro ⟨readsInfo, readsServers, readsSchemas, readsOperations, keys, rfl⟩
    refine bind_eq_ok_iff.2 ⟨_, rfl, bind_eq_ok_iff.2 ⟨entries, rfl, ?_⟩⟩
    refine bind_eq_ok_iff.2 ⟨_, readsInfo, bind_eq_ok_iff.2 ⟨_, readsServers, ?_⟩⟩
    refine bind_eq_ok_iff.2 ⟨_, readsSchemas, bind_eq_ok_iff.2 ⟨_, readsOperations, ?_⟩⟩
    rw [keys]
    rfl

end ApiModel.Api

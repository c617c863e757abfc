import ApiModel.Proofs.BodyNames
import ApiModel.Proofs.Decomposition

/-! What is seen of committed types. A response commits its headers, its inline bodies and what it
merges of them, one after the other. Each commit is compared with what stands under its names in the
same registry, but fields are looked up before structures, so a structure is out of sight where a
field has its name. -/
namespace ApiModel

namespace OrderedMap

variable {α : Type} {same : α → α → Bool} {m n : OrderedMap α} {key : Text} {a : α}

/-- Whether a key stands for a value that is not the same. -/
def Differs (same : α → α → Bool) (m : OrderedMap α) (key : Text) (a : α) : Prop :=
  ∃ b, m.get? key = some b ∧ same a b = false

theorem Keeps.not_differs (h : m.Keeps same key a) : ¬ m.Differs same key a := by
  rintro ⟨b, known, other⟩
  obtain ⟨c, found, alike⟩ := h
  cases known.symm.trans found
  rw [alike] at other
  cases other

theorem Differs.trans (equiv : Equivalence fun a b : α => same a b = true)
    (h : m.Differs same key a) (later : Kept same m n) : n.Differs same key a := by
  obtain ⟨b, known, other⟩ := h
  obtain ⟨c, found, alike⟩ := later key b known
  refine ⟨c, found, eq_false_of_ne_true fun alike' => ?_⟩
  rw [equiv.trans alike' (equiv.symm alike)] at other
  cases other

end OrderedMap

namespace Registry

variable {r r' r'' new : Registry} {news more : List Registry} {e : Effect} {name : Text}

/-- Commits one after the other. -/
inductive Commits : Registry → List Registry → Registry → Prop where
  | nil (r : Registry) : Commits r [] r
  | cons {r new r' : Registry} {news : List Registry} {r'' : Registry}
      (first : r.commit new = .ok r')
      (rest : Commits r' news r'') : Commits r (new :: news) r''

/-- Whether a name stands for something else in the same registry. -/
def Contradicts (r : Registry) : Effect → Prop
  | .field name f => r.fields.Differs Field.same name f
  | .structure name s => r.structures.Differs Structure.same name s
  | .notice _ => False

/-- Whether an entry is found under its name, with a description that is the same. -/
def Sees (r : Registry) : Effect → Prop
  | .field name f => ∃ g, r.lookup name = some (.field g) ∧ f.same g = true
  | .structure name s => ∃ t, r.lookup name = some (.structure t) ∧ s.same t = true
  | .notice _ => True

/-! One commit. -/

theorem kept_of_commit (h : r.commit new = .ok r') : r.Kept r' := by
  rcases r.commit_cases new with ⟨name, failed, -⟩ | ⟨written, undisputed⟩
  · rw [failed] at h
    cases h
  · rw [written] at h
    cases h
    exact kept_update undisputed

theorem holds_of_commit (h : r.commit new = .ok r') (held : new.Holds e) : r'.Holds e := by
  rw [commit_eq_ok h]
  exact holds_update held

theorem Keeps.not_contradicts (h : r.Keeps e) : ¬ r.Contradicts e := by
  cases e with
  | field name f => exact OrderedMap.Keeps.not_differs h
  | «structure» name s => exact OrderedMap.Keeps.not_differs h
  | notice n => exact id

theorem Contradicts.trans (h : r.Contradicts e) (later : r.Kept r') : r'.Contradicts e := by
  cases e with
  | field name f => exact OrderedMap.Differs.trans Field.same_equivalence h later.fields
  | «structure» name s =>
    exact OrderedMap.Differs.trans Structure.same_equivalence h later.structures
  | notice n => exact h

theorem exists_disputed (held : new.Holds e) (h : r.Contradicts e) :
    ∃ name, r.Disputed new name := by
  cases e with
  | field name f =>
    obtain ⟨g, known, other⟩ := h
    have other' : g.same f = false :=
      eq_false_of_ne_true fun same => by simp [Field.same_equivalence.symm same] at other
    exact ⟨name, .inl ⟨f, g, held, known, other'⟩⟩
  | «structure» name s =>
    obtain ⟨t, known, other⟩ := h
    have other' : t.same s = false :=
      eq_false_of_ne_true fun same => by simp [Structure.same_equivalence.symm same] at other
    exact ⟨name, .inr ⟨s, t, held, known, other'⟩⟩
  | notice n => cases h

/-! Several commits. -/

namespace Commits

theorem single (h : r.commit new = .ok r') : Commits r [new] r' := .cons h (.nil r')

theorem append (h : Commits r news r') (h' : Commits r' more r'') :
    Commits r (news ++ more) r'' := by
  induction h with
  | nil r => exact h'
  | cons first _ ih => exact .cons first (ih h')

theorem kept (h : Commits r news r') : r.Kept r' := by
  induction h with
  | nil r => exact .refl r
  | cons first _ ih => exact (kept_of_commit first).trans ih

theorem keeps (h : Commits r news r') (listed : new ∈ news) (held : new.Holds e) : r'.Keeps e := by
  induction h with
  | nil r => cases listed
  | cons first rest ih =>
    rcases List.mem_cons.1 listed with rfl | later
    · exact rest.kept.keeps (holds_of_commit first held)
    · exact ih later

/-- An entry that contradicts the registry is never committed. -/
theorem not_contradicts (h : Commits r news r') (listed : new ∈ news) (held : new.Holds e) :
    ¬ r.Contradicts e := by
  intro contradicted
  exact (h.keeps listed held).not_contradicts (contradicted.trans h.kept)

theorem mem_fields_iff (h : Commits r news r') :
    name ∈ r'.fields.keys ↔ name ∈ r.fields.keys ∨ ∃ new ∈ news, name ∈ new.fields.keys := by
  induction h with
  | nil r => simp
  | cons first _ ih =>
    rw [ih, commit_eq_ok first]
    simp only [OrderedMap.mem_keys_update, List.exists_mem_cons_iff]
    tauto

end Commits

theorem Keeps.sees_field {f : Field} (h : r.Keeps (.field name f)) : r.Sees (.field name f) := by
  obtain ⟨g, found, same⟩ := h
  exact ⟨g, by simp [lookup, found], same⟩

theorem Keeps.sees_structure_iff {s : Structure} (h : r.Keeps (.structure name s)) :
    r.Sees (.structure name s) ↔ name ∉ r.fields.keys := by
  obtain ⟨t, found, same⟩ := h
  rw [← OrderedMap.get?_eq_none_iff]
  constructor
  · rintro ⟨u, seen, -⟩
    cases known : r.fields.get? name with
    | none => rfl
    | some f => simp [lookup, known] at seen
  · intro none
    exact ⟨t, by simp [lookup, none, found], same⟩

end Registry

namespace Compile

open Api (Response)
open Registry (Commits)

variable {α : Type} {s : Subject} {code : Int} {p p' : Progress} {headers : OrderedMap Member}
  {made : List Produced}

/-! The commits of a response. -/

def scratch (work : Lowering α) : Registry := Registry.empty.applyAll work.trace

theorem performChecked_commit {work : Lowering α} {a : α}
    (run : Runs (performChecked work) p a p') :
    Commits p.model.registry [scratch work] p'.model.registry :=
  .single (performChecked_runs run).2

def inlineBody? : Schema → Option InlineBody
  | .object notes required properties none => some ⟨notes, required, properties⟩
  | _ => none

def leafCommit (s : Subject) (code : Int) (path : List Nat) (leaf : List Nat × Schema) :
    Option Registry :=
  (inlineBody? leaf.2).map fun b => scratch (b.lowering s code (path ++ leaf.1))

theorem bodyTypesFrom_commits {branches : List Schema} {path : List Nat}
    (ih : ∀ branch ∈ branches, ∀ path p p' types,
      Runs (bodyTypes s code (pathSuffix path) branch) p types p' →
        Commits p.model.registry
          (branch.leaves.filterMap (leafCommit s code path)) p'.model.registry)
    {n : Nat} {types : List (Text × Text)}
    (run : Runs (bodyTypesFrom s code (pathSuffix path) n branches) p types p') :
    Commits p.model.registry ((Schema.leavesFrom n branches).filterMap (leafCommit s code path))
      p'.model.registry := by
  induction branches generalizing n p types with
  | nil =>
    rw [bodyTypesFrom] at run
    obtain ⟨-, rfl⟩ := run.of_pure
    exact .nil _
  | cons branch rest induction =>
    rw [bodyTypesFrom, branchSuffix_pathSuffix] at run
    obtain ⟨first, q, ofBranch, next⟩ := run.of_bind
    obtain ⟨more, q', ofRest, returned⟩ := next.of_bind
    obtain ⟨-, rfl⟩ := returned.of_pure
    obtain ⟨here, later⟩ := List.forall_mem_cons.1 ih
    have below :
        (branch.leaves.map fun leaf => (n :: leaf.1, leaf.2)).filterMap (leafCommit s code path) =
        branch.leaves.filterMap (leafCommit s code (path ++ [n])) := by
      rw [List.filterMap_map]
      apply List.filterMap_congr
      intro leaf _
      simp [leafCommit]
    rw [Schema.leavesFrom, List.filterMap_append, below]
    exact (here _ _ _ _ ofBranch).append (induction later ofRest)

theorem bodyTypes_commits (schema : Schema) : ∀ path p p' types,
    Runs (bodyTypes s code (pathSuffix path) schema) p types p' →
      Commits p.model.registry
        (schema.leaves.filterMap (leafCommit s code path)) p'.model.registry := by
  induction schema using Schema.sizeInduction with
  | step schema ih =>
    intro path p p' types run
    unfold bodyTypes at run
    split at run
    · obtain ⟨-, rfl⟩ := run.of_pure
      exact .nil _
    · rw [Schema.leaves]
      exact bodyTypesFrom_commits (fun branch member => ih branch (Schema.sizeOf_branch member)) run
    · rename_i notes required properties
      obtain ⟨_, q, written, returned⟩ := run.of_bind
      obtain ⟨-, rfl⟩ := returned.of_pure
      let b : InlineBody := ⟨notes, required, properties⟩
      have own : (Schema.object notes required properties none).leaves.filterMap
          (leafCommit s code path) = [scratch (b.lowering s code path)] := by
        simp [Schema.leaves, leafCommit, inlineBody?, b]
      rw [own]
      exact performChecked_commit written
    · exact run.of_throw.elim

/-- What is committed for a product that merges headers: one structure, made of what is there
before. -/
def IsMerged (s : Subject) (code : Int) (headers : OrderedMap Member) (before after : Registry)
    (product : Product) (new : Registry) : Prop :=
  ∃ r, before.Kept r ∧ r.Kept after ∧
    new = scratch (writeStructure product.type (mergedOutput s r code [] product.body headers).2)

theorem IsMerged.between {before before' after after' new : Registry} {product : Product}
    (h : IsMerged s code headers before' after' product new) (earlier : before.Kept before')
    (later : after'.Kept after) : IsMerged s code headers before after product new := by
  obtain ⟨r, first, last, same⟩ := h
  exact ⟨r, earlier.trans first, last.trans later, same⟩

def mergedProducts (s : Subject) (code : Int) (response : Response) : List Product :=
  (Product.ofCoded s code response).filter fun product => product.headers ≠ []

theorem mergeOutput_commit {suffix : Text} {body : Option Text} {m : Produced}
    (run : Runs (mergeOutput s code suffix body headers) p m p') :
    Commits p.model.registry
      [scratch (writeStructure m.type (mergedOutput s p.model.registry code [] body headers).2)]
      p'.model.registry := by
  obtain ⟨registry, q, read, next⟩ := run.of_bind
  cases read
  obtain ⟨_, q, written, returned⟩ := next.of_bind
  obtain ⟨rfl, rfl⟩ := returned.of_pure
  exact performChecked_commit written

theorem produceBodies_commits {kept : List Text} (none : headers.isEmpty = true ↔ kept = [])
    {leaves : List (List Nat × Schema)}
    (run : Runs (produceBodies s code headers (leaves.map (leafFrom s code []))) p made p') :
    ∃ merged, Commits p.model.registry merged p'.model.registry ∧
      List.Forall₂ (IsMerged s code headers p.model.registry p'.model.registry)
        ((leaves.map (Product.ofLeaf s code kept)).filter fun product =>
          product.headers ≠ []) merged := by
  induction leaves generalizing p made with
  | nil =>
    obtain ⟨-, rfl⟩ := run.of_pure
    exact ⟨[], .nil _, .nil⟩
  | cons leaf rest ih =>
    rw [List.map_cons, produceBodies] at run
    split at run
    · rename_i empty
      obtain ⟨_, q, returned, next⟩ := run.of_bind
      obtain ⟨rfl, rfl⟩ := returned.of_pure
      obtain ⟨_, q', classified, next⟩ := next.of_bind
      obtain ⟨more, q'', later, returned⟩ := next.of_bind
      obtain ⟨-, rfl⟩ := returned.of_pure
      obtain ⟨merged, commits, shaped⟩ := ih later
      rw [classify_registry classified] at commits shaped
      refine ⟨merged, commits, ?_⟩
      rw [List.map_cons, List.filter_cons_of_neg (by simp [Product.ofLeaf, none.1 empty])]
      exact shaped
    · rename_i headed
      obtain ⟨m, q, own, next⟩ := run.of_bind
      obtain ⟨_, q', classified, next⟩ := next.of_bind
      obtain ⟨more, q'', later, returned⟩ := next.of_bind
      obtain ⟨-, rfl⟩ := returned.of_pure
      obtain ⟨merged, commits, shaped⟩ := ih later
      rw [classify_registry classified] at commits shaped
      have first := mergeOutput_commit own
      have nonempty : kept ≠ [] := fun nil => headed (none.2 nil)
      have type : m.type = (Product.ofLeaf s code kept leaf).type := by
        rw [(mergeOutput_merges own).2.1, Product.ofLeaf, if_neg nonempty, List.nil_append]
      refine ⟨_, first.append commits, ?_⟩
      rw [List.map_cons, List.filter_cons_of_pos (by exact decide_eq_true nonempty)]
      refine .cons ⟨p.model.registry, .refl _, (first.append commits).kept, ?_⟩ ?_
      · rw [type]
        rfl
      · exact shaped.imp fun _ _ is => is.between first.kept (.refl _)

/-- What a response commits under its code, in order: its headers, the inline bodies among its
leaves, and what it merges. The default response commits nothing. -/
inductive ResponseCommits (s : Subject) (response : Response) (before after : Registry) :
    List Registry → Prop where
  | skipped (default : response.status = "default") : ResponseCommits s response before after []
  | made {code : Int} {trace : List Effect} {headers : OrderedMap Member} {merged : List Registry}
      (coded : Number.integer? response.status = some code)
      (headed : headerMembers s code 0 response.headers.entries .empty = ⟨trace, .ok headers⟩)
      (shaped : List.Forall₂ (IsMerged s code headers before after)
        (mergedProducts s code response) merged) :
      ResponseCommits s response before after
        (Registry.empty.applyAll trace ::
          (response.schema.elim [] Schema.leaves).filterMap (leafCommit s code []) ++ merged)

theorem produceCoded_commits {response : Response}
    (coded : Number.integer? response.status = some code)
    (run : Runs (produceCoded s code response) p made p') :
    ∃ news, Commits p.model.registry news p'.model.registry ∧
      ResponseCommits s response p.model.registry p'.model.registry news := by
  obtain ⟨headers, q, lowered, next⟩ := run.of_bind
  have headed := (performChecked_runs lowered).1
  have first := performChecked_commit lowered
  obtain ⟨-, none⟩ := headerMembers_kept headed
  suffices rest : ∃ merged,
      Commits q.model.registry
        ((response.schema.elim [] Schema.leaves).filterMap (leafCommit s code []) ++ merged)
        p'.model.registry ∧
      List.Forall₂ (IsMerged s code headers q.model.registry p'.model.registry)
        (mergedProducts s code response) merged by
    obtain ⟨merged, commits, shaped⟩ := rest
    refine ⟨_, first.append commits, .made coded headed ?_⟩
    exact shaped.imp fun _ _ is => is.between first.kept (.refl _)
  unfold mergedProducts Product.ofCoded
  cases given : response.schema with
  | none =>
    simp only [given] at next
    split at next
    · rename_i empty
      obtain ⟨-, rfl⟩ := next.of_pure
      refine ⟨[], .nil _, ?_⟩
      simp [none.1 empty]
    · rename_i some
      obtain ⟨m, q', own, next⟩ := next.of_bind
      obtain ⟨_, q'', classified, returned⟩ := next.of_bind
      obtain ⟨-, rfl⟩ := returned.of_pure
      have commits := mergeOutput_commit own
      change Runs (mergeOutput s code (pathSuffix []) .none headers) q m q' at own
      have type := (mergeOutput_merges own).2.1
      have nonempty : keptHeaders s code response ≠ [] := fun nil => some (none.2 nil)
      rw [classify_registry classified]
      refine ⟨_, commits, ?_⟩
      dsimp only
      rw [if_neg nonempty, List.filter_cons_of_pos (by exact decide_eq_true nonempty)]
      refine .cons ⟨q.model.registry, .refl _, commits.kept, ?_⟩ .nil
      rw [type]
  | some schema =>
    simp only [given] at next
    obtain ⟨types, q', ofBodies, next⟩ := next.of_bind
    change Runs (bodyTypes s code (pathSuffix []) schema) q types q' at ofBodies
    have bodies := bodyTypes_commits schema [] _ _ _ ofBodies
    obtain ⟨rfl, -⟩ := bodyTypes_leaves schema [] _ _ _ ofBodies
    obtain ⟨merged, commits, shaped⟩ := produceBodies_commits none next
    refine ⟨merged, bodies.append commits, ?_⟩
    exact shaped.imp fun _ _ is => is.between bodies.kept (.refl _)

theorem produce_commits {response : Response} (run : Runs (produce s response) p made p') :
    ∃ news, Commits p.model.registry news p'.model.registry ∧
      ResponseCommits s response p.model.registry p'.model.registry news := by
  unfold produce at run
  split at run
  · rename_i default
    obtain ⟨_, q, reported, returned⟩ := run.of_bind
    obtain rfl := reported.of_modify
    obtain ⟨-, rfl⟩ := returned.of_pure
    exact ⟨[], .nil _, .skipped default⟩
  · split at run
    · exact run.of_throw.elim
    · rename_i coded
      exact produceCoded_commits coded run

end Compile

open Compile
open Registry (Commits)

/-- What contradicts an entry of the same registry is refused as ambiguous, and what an accepted
response commits is kept. Fields are found under their names then, but a structure only if neither
the model nor the response itself has a field of that name. -/
theorem committed_types_found {s : Subject} {response : Api.Response} {p p' : Progress}
    {made : List Produced} (run : Runs (produce s response) p made p') :
    let before := p.model.registry
    let after := p'.model.registry
    (∀ new e, new.Holds e → before.Contradicts e →
      ∃ name, ((commitTypes new).run.run p).1 = .error (.ambiguous name)) ∧
    ∃ news, Commits before news after ∧ ResponseCommits s response before after news ∧
      ∀ new ∈ news,
        (∀ name f, new.fields.get? name = some f →
          ¬ before.Contradicts (.field name f) ∧ after.Sees (.field name f)) ∧
        ∀ name st, new.structures.get? name = some st →
          ¬ before.Contradicts (.structure name st) ∧ after.Keeps (.structure name st) ∧
          (after.Sees (.structure name st) ↔
            name ∉ before.fields.keys ∧ ∀ other ∈ news, name ∉ other.fields.keys) := by
  intro before after
  obtain ⟨news, commits, shaped⟩ := produce_commits run
  refine ⟨?_, news, commits, shaped, fun new listed => ⟨?_, ?_⟩⟩
  · intro new e held contradicted
    exact (commitTypes_spec new p).1.2 (Registry.exists_disputed held contradicted)
  · intro name f held
    have kept := commits.keeps (e := .field name f) listed held
    exact ⟨commits.not_contradicts listed held, kept.sees_field⟩
  · intro name st held
    have kept := commits.keeps (e := .structure name st) listed held
    refine ⟨commits.not_contradicts listed held, kept, ?_⟩
    rw [kept.sees_structure_iff, commits.mem_fields_iff, not_or]
    simp [before]

def trayWithTag : Api.Response :=
  ⟨"200", none, [], some tray.schema,
    .ofList [("ETag", ⟨none, false, some (.string default default)⟩)]⟩

/-- The header is found, but instead of the body a field. -/
theorem committed_types_found_tray :
    let s : Subject := ⟨⟨default, .empty⟩, "getTray"⟩
    ∃ made p' header element st, Runs (produce s trayWithTag) ⟨.empty, []⟩ made p' ∧
      p'.model.registry.Sees (.field "GetTray200ETagHeader" header) ∧
      p'.model.registry.Sees (.field "GetTray200ResponseBody" element) ∧
      p'.model.registry.Keeps (.structure "GetTray200ResponseBody" st) ∧
      ¬ p'.model.registry.Sees (.structure "GetTray200ResponseBody" st) := by
  intro s
  let body := scratch (tray.lowering s 200 [])
  obtain ⟨made, run⟩ := exists_runs_of_isOk (p := ⟨.empty, []⟩) (x := produce s trayWithTag)
    (by decide +kernel)
  obtain ⟨-, news, -, shaped, found⟩ := committed_types_found run
  cases shaped with
  | skipped default => exact absurd default (by decide)
  | @made code trace headers merged coded headed _ =>
    obtain rfl : 200 = code := Option.some.inj ((by decide +kernel :
      some 200 = Number.integer? trayWithTag.status).trans coded)
    obtain ⟨header, ofHeader⟩ : ∃ f,
        (Registry.empty.applyAll trace).fields.get? "GetTray200ETagHeader" = some f := by
      rw [show trace =
        (headerMembers s 200 0 trayWithTag.headers.entries .empty).trace by rw [headed]]
      exact Option.isSome_iff_exists.1 (by decide +kernel)
    obtain ⟨element, ofElement⟩ : ∃ f, body.fields.get? "GetTray200ResponseBody" = some f :=
      Option.isSome_iff_exists.1 (by decide +kernel)
    obtain ⟨st, ofBody⟩ : ∃ st, body.structures.get? "GetTray200ResponseBody" = some st :=
      Option.isSome_iff_exists.1 (by decide +kernel)
    have headerFound := (found _ (.head _)).1 _ _ ofHeader
    obtain ⟨fields, structures⟩ := found body (.tail _ (.head _))
    obtain ⟨-, kept, seen⟩ := structures _ st ofBody
    refine ⟨made, _, header, element, st, run, headerFound.2, (fields _ _ ofElement).2, kept, ?_⟩
    rw [seen]
    rintro ⟨-, free⟩
    exact free body (.tail _ (.head _)) (OrderedMap.mem_keys_iff.2 ⟨element, ofElement⟩)

def occupied : Progress :=
  ⟨{ ServiceModel.empty with registry := ⟨.ofList [("GetPart200ResponseBody", .boolean)],
    .empty⟩ }, []⟩

def partOnly : Api.Response :=
  ⟨"200", none, [], some (.object default [] [("size", .integer default default)] none), .empty⟩

/-- The body is committed all the same, and the field is found in its place. -/
theorem lookup_occupied :
    let s : Subject := ⟨⟨default, .empty⟩, "getPart"⟩
    ∃ made p' st f, Runs (produce s partOnly) occupied made p' ∧
      p'.model.registry.structures.get? "GetPart200ResponseBody" = some st ∧
      p'.model.registry.lookup "GetPart200ResponseBody" = some (.field f) ∧
        f.typeWord = "Boolean" := by
  intro s
  let after := ((produce s partOnly).run.run occupied).2.model.registry
  obtain ⟨made, run⟩ :=
    exists_runs_of_isOk (p := occupied) (x := produce s partOnly) (by decide +kernel)
  obtain ⟨st, written⟩ : ∃ st, after.structures.get? "GetPart200ResponseBody" = some st :=
    Option.isSome_iff_exists.1 (by decide +kernel)
  have kind : (after.fields.get? "GetPart200ResponseBody").map Field.typeWord = some "Boolean" := by
    decide +kernel
  obtain ⟨f, found, word⟩ := Option.map_eq_some_iff.1 kind
  have seen : after.lookup "GetPart200ResponseBody" = some (.field f) := by
    simp only [Registry.lookup, found]
  exact ⟨made, _, st, f, run, written, seen, word⟩

end ApiModel

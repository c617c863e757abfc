import ApiModel.Proofs.Lowering
import ApiModel.Proofs.Run
import ApiModel.Proofs.Sameness
import ApiModel.Proofs.Steps

/-! Commits. Response types go into the model only where they agree with it: a commit that disagrees
leaves the model alone, so a response changes nothing that was there, however far it gets. -/
namespace ApiModel

namespace Registry

variable {r r' new : Registry} {e : Effect} {name : Text}

/-- Whether an entry is there, with a description that is the same. -/
def Keeps (r : Registry) : Effect → Prop
  | .field name f => r.fields.Keeps Field.same name f
  | .structure name s => r.structures.Keeps Structure.same name s
  | .notice _ => True

/-- All entries of a registry are kept by a later one. -/
structure Kept (r r' : Registry) : Prop where
  fields : r.fields.Kept Field.same r'.fields
  structures : r.structures.Kept Structure.same r'.structures

theorem Keeps.trans (h : r.Keeps e) (later : Kept r r') : r'.Keeps e := by
  cases e with
  | field name f => exact OrderedMap.Keeps.trans Field.same_equivalence h later.fields
  | «structure» name s => exact OrderedMap.Keeps.trans Structure.same_equivalence h later.structures
  | notice n => trivial

theorem Kept.keeps (h : Kept r r') (held : r.Holds e) : r'.Keeps e := by
  cases e with
  | field name f => exact h.fields name f held
  | «structure» name s => exact h.structures name s held
  | notice n => trivial

theorem Kept.refl (r : Registry) : Kept r r where
  fields _ _ := OrderedMap.keeps_of_get? Field.same_equivalence
  structures _ _ := OrderedMap.keeps_of_get? Structure.same_equivalence

theorem Kept.trans {r'' : Registry} (h : Kept r r') (h' : Kept r' r'') : Kept r r'' where
  fields name f held := (h.fields name f held).trans Field.same_equivalence h'.fields
  structures name s held :=
    (h.structures name s held).trans Structure.same_equivalence h'.structures

/-- A name under which a new entry and an old one in the same registry are not the same. -/
def Disputed (r new : Registry) (name : Text) : Prop :=
  (∃ f g, new.fields.get? name = some f ∧ r.fields.get? name = some g ∧ g.same f = false) ∨
    ∃ s t, new.structures.get? name = some s ∧ r.structures.get? name = some t ∧ t.same s = false

section Conflict

variable {α : Type} {same : α → α → Bool} {new old : OrderedMap α}

theorem disputed_of_conflict? {name : Text} (h : conflict? same new old = some name) :
    ∃ a b, new.get? name = some a ∧ old.get? name = some b ∧ same b a = false := by
  unfold conflict? at h
  obtain ⟨⟨key, a⟩, found, rfl⟩ := Option.map_eq_some_iff.1 h
  have member := OrderedMap.get?_eq_some_iff.2 (List.mem_of_find?_eq_some found)
  have clash := List.find?_some found
  cases known : old.get? key with
  | none => simp [known] at clash
  | some b => exact ⟨a, b, member, rfl, by simpa [known] using clash⟩

theorem same_of_conflict? (h : conflict? same new old = none) {name : Text} {a b : α}
    (given : new.get? name = some a) (known : old.get? name = some b) : same b a = true := by
  unfold conflict? at h
  rw [Option.map_eq_none_iff, List.find?_eq_none] at h
  have fine := h (name, a) (OrderedMap.get?_eq_some_iff.1 given)
  simpa [known] using fine

end Conflict

theorem commit_cases (r new : Registry) :
    (∃ name, r.commit new = .error (.ambiguous name) ∧ r.Disputed new name) ∨
      r.commit new = .ok ⟨r.fields.update new.fields, r.structures.update new.structures⟩ ∧
        ∀ name, ¬ r.Disputed new name := by
  unfold commit
  cases ofFields : conflict? Field.same new.fields r.fields with
  | some name => exact .inl ⟨name, rfl, .inl (disputed_of_conflict? ofFields)⟩
  | none =>
    cases ofStructures : conflict? Structure.same new.structures r.structures with
    | some name => exact .inl ⟨name, rfl, .inr (disputed_of_conflict? ofStructures)⟩
    | none =>
      refine .inr ⟨rfl, ?_⟩
      rintro name (⟨f, g, given, known, clash⟩ | ⟨s, t, given, known, clash⟩)
      · simp [same_of_conflict? ofFields given known] at clash
      · simp [same_of_conflict? ofStructures given known] at clash

theorem kept_update (undisputed : ∀ name, ¬ r.Disputed new name) :
    Kept r ⟨r.fields.update new.fields, r.structures.update new.structures⟩ := by
  constructor
  · apply OrderedMap.kept_update Field.same_equivalence
    intro name f g given known
    by_contra clash
    exact undisputed name (.inl ⟨f, g, given, known, by simpa using clash⟩)
  · apply OrderedMap.kept_update Structure.same_equivalence
    intro name s t given known
    by_contra clash
    exact undisputed name (.inr ⟨s, t, given, known, by simpa using clash⟩)

theorem holds_update (h : new.Holds e) :
    Holds ⟨r.fields.update new.fields, r.structures.update new.structures⟩ e := by
  cases e with
  | field name f =>
    simp only [Holds, OrderedMap.get?_update] at *
    simp [h]
  | «structure» name s =>
    simp only [Holds, OrderedMap.get?_update] at *
    simp [h]
  | notice n => trivial

/-! Commits under other names. -/

theorem conflict?_congr {α : Type} {same : α → α → Bool} {new old old' : OrderedMap α}
    (agree : ∀ key ∈ new.keys, old.get? key = old'.get? key) :
    conflict? same new old = conflict? same new old' := by
  unfold conflict?
  rw [← List.head?_filter, ← List.head?_filter]
  congr 2
  apply List.filter_congr
  intro e listed
  rw [agree e.1 (List.mem_map_of_mem listed)]

/-- Registries that differ under the given names at most. -/
structure AgreeOutside (names : Text → Prop) (r r' : Registry) : Prop where
  fields : ∀ name, ¬ names name → r.fields.get? name = r'.fields.get? name
  structures : ∀ name, ¬ names name → r.structures.get? name = r'.structures.get? name

variable {names : Text → Prop}

theorem commit_congr {α : Type} (a : α) (agree : AgreeOutside names r r')
    (spared : ∀ name, new.Defines name → ¬ names name) :
    (r.commit new).map (fun _ => a) = (r'.commit new).map fun _ => a := by
  have fields : conflict? Field.same new.fields r.fields =
      conflict? Field.same new.fields r'.fields :=
    conflict?_congr fun name listed => agree.fields name (spared name (.inl listed))
  have structures : conflict? Structure.same new.structures r.structures =
      conflict? Structure.same new.structures r'.structures :=
    conflict?_congr fun name listed => agree.structures name (spared name (.inr listed))
  unfold commit
  rw [fields, structures]
  split
  · rfl
  · split <;> rfl

theorem agreeOutside_commit (h : r.commit new = .ok r') : AgreeOutside new.Defines r r' := by
  rw [commit_eq_ok h]
  constructor
  · intro name spared
    rw [OrderedMap.get?_update, OrderedMap.get?_eq_none_iff.2 fun listed => spared (.inl listed)]
    rfl
  · intro name spared
    rw [OrderedMap.get?_update, OrderedMap.get?_eq_none_iff.2 fun listed => spared (.inr listed)]
    rfl

end Registry

namespace Compile

open Api (Response)

variable {α β : Type} {p q : Progress} {s : Subject} {code : Int} {names : Text → Prop}

/-- What commits may do to a model: types are kept, error types only become more, and operations are
left alone. -/
structure Progress.Grows (p q : Progress) : Prop where
  types : p.model.registry.Kept q.model.registry
  errors : ∀ type ∈ p.model.errorTypes, type ∈ q.model.errorTypes
  operations : q.model.operations = p.model.operations

theorem Progress.Grows.refl (p : Progress) : p.Grows p := ⟨.refl _, fun _ h => h, rfl⟩

theorem Progress.Grows.trans {p'' : Progress} (h : p.Grows q) (h' : q.Grows p'') : p.Grows p'' :=
  ⟨h.types.trans h'.types, fun type member => h'.errors type (h.errors type member),
    h'.operations.trans h.operations⟩

theorem Progress.Grows.noted (p : Progress) (ns : List Notice) : p.Grows { p with notices := ns } :=
  ⟨.refl _, fun _ h => h, rfl⟩

/-- A step that only lets the model grow, also where it fails. -/
def Careful (x : Build α) : Prop := ∀ p : Progress, p.Grows (x.run.run p).2

namespace Careful

theorem of_pure (a : α) : Careful (pure a) := by
  intro p
  exact .refl p

theorem of_throw (e : BuildError) : Careful (throw e : Build α) := by
  intro p
  exact .refl p

theorem of_except (x : Except BuildError α) : Careful (liftM x) := by
  intro p
  cases x <;> exact .refl p

theorem of_modify {f : Progress → Progress} (h : ∀ p : Progress, p.Grows (f p)) :
    Careful (modify f) := h

theorem of_bind {x : Build α} {f : α → Build β} (first : Careful x)
    (next : ∀ a, Careful (f a)) : Careful (x >>= f) := by
  intro p
  have grown := first p
  rw [ExceptT.run_bind, StateT.run_bind]
  generalize x.run.run p = outcome at *
  obtain ⟨result, q⟩ := outcome
  cases result with
  | error e => exact grown
  | ok a => exact grown.trans (next a q)

theorem of_report (n : Notice) : Careful (report n) := of_modify fun p => .noted p _

theorem of_reportAll (ns : List Notice) : Careful (reportAll ns) := of_modify fun p => .noted p _

theorem of_currentRegistry : Careful currentRegistry := by
  intro p
  exact .refl p

end Careful

theorem commitTypes_run (new : Registry) (p : Progress) :
    (commitTypes new).run.run p = match p.model.registry.commit new with
      | .ok r => (.ok (), { p with model := { p.model with registry := r } })
      | .error e => (.error e, p) := by
  change StateT.run (ExceptT.run (liftM (p.model.registry.commit new) >>= setRegistry)) p = _
  cases p.model.registry.commit new <;> rfl

theorem careful_commitTypes (new : Registry) : Careful (commitTypes new) := by
  intro p
  rw [commitTypes_run]
  rcases p.model.registry.commit_cases new with ⟨name, failed, -⟩ | ⟨written, undisputed⟩
  · rw [failed]
    exact .refl p
  · rw [written]
    exact ⟨Registry.kept_update undisputed, fun _ member => member, rfl⟩

theorem careful_performChecked (work : Lowering α) : Careful (performChecked work) := by
  refine .of_bind (.of_reportAll _) fun _ => .of_bind (.of_except _) fun a => ?_
  exact .of_bind (careful_commitTypes _) fun _ => .of_pure a

theorem performChecked_result (work : Lowering α) (p : Progress) :
    ((performChecked work).run.run p).1 = work.result.bind fun a =>
      (p.model.registry.commit (Registry.empty.applyAll work.trace)).map fun _ => a := by
  obtain ⟨trace, result⟩ := work
  cases result with
  | error e => rfl
  | ok a =>
    change ((commitTypes (Registry.empty.applyAll trace) >>= fun _ => pure a).run.run
      { p with notices := p.notices ++ Effect.notices trace }).1 = _
    rw [ExceptT.run_bind, StateT.run_bind, commitTypes_run]
    simp only [Except.bind]
    cases p.model.registry.commit (Registry.empty.applyAll trace) <;> rfl

theorem performChecked_congr {work : Lowering α}
    (agree : p.model.registry.AgreeOutside names q.model.registry)
    (spared : ∀ name, Effect.Named work.trace name → ¬ names name) :
    ((performChecked work).run.run p).1 = ((performChecked work).run.run q).1 := by
  rw [performChecked_result, performChecked_result]
  congr 1
  funext a
  exact Registry.commit_congr a agree fun name written =>
    spared name (Registry.defines_scratch.1 written)

theorem agreeOutside_performChecked {work : Lowering α} {a : α}
    (run : Runs (performChecked work) p a q) :
    p.model.registry.AgreeOutside (Effect.Named work.trace) q.model.registry := by
  have agree := Registry.agreeOutside_commit (performChecked_runs run).2
  exact ⟨fun name spared => agree.fields name (mt Registry.defines_scratch.1 spared),
    fun name spared => agree.structures name (mt Registry.defines_scratch.1 spared)⟩

/-! Responses. -/

theorem careful_classify (produced : Produced) : Careful (classify produced) := by
  unfold classify
  split
  · exact .of_pure ()
  · apply Careful.of_modify
    intro p
    exact ⟨.refl _, fun type member => TextSet.mem_insert.2 (.inr member), rfl⟩

theorem careful_steps : ResponseSteps s Careful where
  of_pure := .of_pure
  of_refusal _ _ := .of_throw _
  of_bind := .of_bind
  of_report := .of_report
  of_classify := careful_classify
  of_headers _ _ := careful_performChecked _
  of_object _ _ _ _ _ := careful_performChecked _
  of_mergeOutput _ _ _ _ := by
    refine .of_bind .of_currentRegistry fun r => ?_
    exact .of_bind (careful_performChecked _) fun _ => .of_pure _

/-- A commit fails exactly if a name is disputed. It changes nothing then, and writes all entries
otherwise. -/
theorem commitTypes_spec (new : Registry) (p : Progress) :
    ((∃ name, ((commitTypes new).run.run p).1 = .error (.ambiguous name)) ↔
      ∃ name, p.model.registry.Disputed new name) ∧
    ((∃ name, p.model.registry.Disputed new name) → ((commitTypes new).run.run p).2 = p) ∧
    ((¬ ∃ name, p.model.registry.Disputed new name) →
      ((commitTypes new).run.run p).1 = .ok () ∧
        ∀ e, new.Holds e → ((commitTypes new).run.run p).2.model.registry.Holds e) := by
  rw [commitTypes_run]
  rcases p.model.registry.commit_cases new with ⟨name, failed, disputed⟩ | ⟨written, undisputed⟩
  · rw [failed]
    refine ⟨⟨fun _ => ⟨name, disputed⟩, fun _ => ⟨name, rfl⟩⟩, fun _ => rfl, ?_⟩
    intro none
    exact absurd ⟨name, disputed⟩ none
  · rw [written]
    have none : ¬ ∃ name, p.model.registry.Disputed new name := by
      rintro ⟨name, disputed⟩
      exact undisputed name disputed
    refine ⟨⟨?_, fun disputed => absurd disputed none⟩, fun disputed => absurd disputed none, ?_⟩
    · rintro ⟨name, failed⟩
      cases failed
    · intro _
      exact ⟨rfl, fun e held => Registry.holds_update held⟩

end Compile

open Compile

/-- A commit is refused, without a trace, exactly if it contradicts an entry of the model. So
whatever comes of a response, all types that were there before are there with descriptions that are
the same. -/
theorem responses_only_add :
    (∀ (new : Registry) (p : Progress),
      ((∃ name, ((commitTypes new).run.run p).1 = .error (.ambiguous name)) ↔
        ∃ name, p.model.registry.Disputed new name) ∧
      ((∃ name, p.model.registry.Disputed new name) → ((commitTypes new).run.run p).2 = p) ∧
      ((¬ ∃ name, p.model.registry.Disputed new name) →
        ((commitTypes new).run.run p).1 = .ok () ∧
          ∀ e, new.Holds e → ((commitTypes new).run.run p).2.model.registry.Holds e)) ∧
    ∀ (s : Subject) (response : Api.Response) (p : Progress),
      (∀ e, p.model.registry.Holds e →
        ((produce s response).run.run p).2.model.registry.Keeps e) ∧
      ∀ type ∈ p.model.errorTypes,
        type ∈ ((produce s response).run.run p).2.model.errorTypes := by
  refine ⟨commitTypes_spec, ?_⟩
  intro s response p
  have grows : p.Grows ((produce s response).run.run p).2 := careful_steps.of_produce response p
  exact ⟨fun e => grows.types.keeps, grows.errors⟩

def crowded : Progress :=
  ⟨{ ServiceModel.empty with registry := ⟨.ofList [("GetPart204ETagHeader", .boolean)],
    .empty⟩ }, []⟩

def tagOnly : Api.Response :=
  ⟨"204", none, [], none, .ofList [("ETag", ⟨none, false, some (.string default default)⟩)]⟩

theorem responses_only_add_crowded :
    let outcome := (produce ⟨⟨default, .empty⟩, "getPart"⟩ tagOnly).run.run crowded
    outcome.1 = .error (.ambiguous "GetPart204ETagHeader") ∧
      outcome.2.model.registry.Keeps (.field "GetPart204ETagHeader" .boolean) :=
  ⟨rfl, (responses_only_add.2 _ _ _).1 _ rfl⟩

end ApiModel

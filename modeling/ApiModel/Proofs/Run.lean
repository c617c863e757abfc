import ApiModel.Proofs.DirectLowering
import ApiModel.Proofs.Registry

/-! Builds that succeed, step by step, and what their steps do to the registry. -/
namespace ApiModel

open Compile (Progress)

variable {α β : Type} {p p' : Progress}

namespace Compile

/-- A step of a build that succeeds: from where it starts, what it gives, and where it ends. -/
def Runs (x : Build α) (p : Progress) (a : α) (p' : Progress) : Prop :=
  x.run.run p = (.ok a, p')

namespace Runs

theorem of_bind {x : Build α} {f : α → Build β} {b : β} (h : Runs (x >>= f) p b p') :
    ∃ a q, Runs x p a q ∧ Runs (f a) q b p' := by
  unfold Runs at *
  rw [ExceptT.run_bind, StateT.run_bind] at h
  generalize x.run.run p = outcome at h
  obtain ⟨result, q⟩ := outcome
  cases result with
  | ok a => exact ⟨a, q, rfl, h⟩
  | error e => cases h

theorem bind {x : Build α} {f : α → Build β} {a : α} {b : β} {q : Progress} (first : Runs x p a q)
    (next : Runs (f a) q b p') : Runs (x >>= f) p b p' := by
  unfold Runs at *
  rw [ExceptT.run_bind, StateT.run_bind, first]
  exact next

theorem of_pure {a b : α} (h : Runs (pure a) p b p') : b = a ∧ p' = p := by
  cases h
  exact ⟨rfl, rfl⟩

theorem of_modify {f : Progress → Progress} {u : Unit} (h : Runs (modify f) p u p') : p' = f p := by
  cases h
  rfl

theorem of_except {x : Except BuildError α} {a : α} (h : Runs (liftM x : Build α) p a p') :
    x = .ok a ∧ p' = p := by
  cases x with
  | ok b =>
    cases h
    exact ⟨rfl, rfl⟩
  | error e => cases h

theorem of_throw {e : BuildError} {a : α} (h : Runs (throw e : Build α) p a p') : False := by
  cases h

end Runs

theorem exists_runs_of_isOk {x : Build α} (h : (x.run.run p).1.isOk = true) :
    ∃ a, Runs x p a (x.run.run p).2 := by
  unfold Runs
  generalize x.run.run p = outcome at *
  obtain ⟨result, q⟩ := outcome
  cases result with
  | ok a => exact ⟨a, rfl⟩
  | error e => cases h

theorem runs_of_isOk {x : Build Unit} (h : (x.run.run p).1.isOk = true) :
    Runs x p () (x.run.run p).2 := by
  obtain ⟨_, run⟩ := exists_runs_of_isOk h
  exact run

theorem perform_runs {work : Lowering α} {a : α} (h : Runs (perform work) p a p') :
    work = ⟨work.trace, .ok a⟩ ∧
      p'.model.registry = p.model.registry.applyAll work.trace := by
  obtain ⟨trace, result⟩ := work
  cases result with
  | ok b =>
    cases h
    exact ⟨rfl, rfl⟩
  | error e => cases h

theorem commitTypes_runs {new : Registry} {u : Unit} (h : Runs (commitTypes new) p u p') :
    p.model.registry.commit new = .ok p'.model.registry ∧
      p' = { p with model := { p.model with registry := p'.model.registry } } := by
  unfold commitTypes at h
  obtain ⟨r, q, read, next⟩ := h.of_bind
  cases read
  obtain ⟨r', q, committing, written⟩ := next.of_bind
  obtain ⟨committed, rfl⟩ := committing.of_except
  obtain rfl := written.of_modify
  exact ⟨committed, rfl⟩

theorem performChecked_commits {work : Lowering α} {a : α} (h : Runs (performChecked work) p a p') :
    work = ⟨work.trace, .ok a⟩ ∧ Runs (commitTypes (Registry.empty.applyAll work.trace))
      { p with notices := p.notices ++ Effect.notices work.trace } () p' := by
  obtain ⟨trace, result⟩ := work
  cases result with
  | error e => cases h
  | ok b =>
    unfold performChecked at h
    obtain ⟨_, q, reported, next⟩ := h.of_bind
    obtain rfl := reported.of_modify
    obtain ⟨c, q, accepted, next⟩ := next.of_bind
    obtain ⟨same, rfl⟩ := accepted.of_except
    obtain ⟨_, q, committing, returned⟩ := next.of_bind
    obtain ⟨rfl, rfl⟩ := returned.of_pure
    cases same
    exact ⟨rfl, committing⟩

theorem performChecked_runs {work : Lowering α} {a : α} (h : Runs (performChecked work) p a p') :
    work = ⟨work.trace, .ok a⟩ ∧
      p.model.registry.commit (Registry.empty.applyAll work.trace) = .ok p'.model.registry := by
  obtain ⟨done, committing⟩ := performChecked_commits h
  exact ⟨done, (commitTypes_runs committing).1⟩

theorem performChecked_frame {work : Lowering α} {a : α} (h : Runs (performChecked work) p a p') :
    p' = ⟨{ p.model with registry := p'.model.registry },
      p.notices ++ Effect.notices work.trace⟩ := by
  obtain ⟨-, committing⟩ := performChecked_commits h
  exact (commitTypes_runs committing).2

end Compile

namespace Registry

/-- A registry that took in a trace: each entry is an old one or a traced one, and exactly the old
names and the traced ones are defined. -/
structure Absorbs (r : Registry) (trace : List Effect) (r' : Registry) : Prop where
  entry : ∀ e, e.name?.isSome → r'.Holds e → e ∈ trace ∨ r.Holds e
  defines : ∀ name, r'.Defines name ↔ r.Defines name ∨ Effect.Named trace name

theorem absorbs_applyAll (r : Registry) (trace : List Effect) :
    Absorbs r trace (r.applyAll trace) where
  entry _ write held := mem_of_holds_applyAll write held
  defines _ := defines_applyAll

theorem not_holds_empty {e : Effect} (write : e.name?.isSome) : ¬ empty.Holds e := by
  cases e <;> simp [Holds, empty, Effect.name?] at *

theorem not_defines_empty {name : Text} : ¬ empty.Defines name := by
  simp [Defines, empty, OrderedMap.keys]

theorem defines_scratch {es : List Effect} {name : Text} :
    (empty.applyAll es).Defines name ↔ Effect.Named es name := by
  rw [defines_applyAll]
  exact or_iff_right not_defines_empty

theorem commit_eq_ok {r new r' : Registry} (h : r.commit new = .ok r') :
    r' = ⟨r.fields.update new.fields, r.structures.update new.structures⟩ := by
  unfold commit at h
  split at h
  · cases h
  · split at h
    · cases h
    · cases h
      rfl

theorem absorbs_commit {r r' : Registry} {trace : List Effect}
    (h : r.commit (empty.applyAll trace) = .ok r') : Absorbs r trace r' := by
  rw [commit_eq_ok h]
  constructor
  · intro e write held
    have split : (empty.applyAll trace).Holds e ∨ r.Holds e := by
      cases e with
      | field name f =>
        simp only [Holds, OrderedMap.get?_update] at held
        rcases Option.or_eq_some_iff.1 held with new | ⟨-, old⟩
        · exact .inl new
        · exact .inr old
      | «structure» name s =>
        simp only [Holds, OrderedMap.get?_update] at held
        rcases Option.or_eq_some_iff.1 held with new | ⟨-, old⟩
        · exact .inl new
        · exact .inr old
      | notice n => simp [Effect.name?] at write
    rcases split with new | old
    · rcases mem_of_holds_applyAll write new with traced | nothing
      · exact .inl traced
      · exact absurd nothing (not_holds_empty write)
    · exact .inr old
  · intro name
    rw [← defines_scratch]
    unfold Defines
    rw [OrderedMap.mem_keys_update, OrderedMap.mem_keys_update]
    tauto

end Registry

namespace Compile

theorem perform_absorbs {work : Lowering α} {a : α} (h : Runs (perform work) p a p') :
    work = ⟨work.trace, .ok a⟩ ∧ p.model.registry.Absorbs work.trace p'.model.registry := by
  obtain ⟨done, applied⟩ := perform_runs h
  rw [applied]
  exact ⟨done, Registry.absorbs_applyAll ..⟩

theorem performChecked_absorbs {work : Lowering α} {a : α}
    (h : Runs (performChecked work) p a p') :
    work = ⟨work.trace, .ok a⟩ ∧ p.model.registry.Absorbs work.trace p'.model.registry := by
  obtain ⟨done, committed⟩ := performChecked_runs h
  exact ⟨done, Registry.absorbs_commit committed⟩

theorem lowerComponents_runs {context : Context} {l : List (Text × Schema)} {u : Unit}
    (h : Runs (lowerComponents context l) p u p') :
    (∀ e ∈ l, ∃ type, lower context e.1 e.2 = ⟨(lower context e.1 e.2).trace, .ok type⟩) ∧
      p'.model.registry =
        p.model.registry.applyAll (l.flatMap fun e => (lower context e.1 e.2).trace) := by
  induction l generalizing p with
  | nil =>
    obtain ⟨-, rfl⟩ := h.of_pure
    exact ⟨by simp, rfl⟩
  | cons entry rest ih =>
    rw [lowerComponents_cons] at h
    obtain ⟨type, q, first, next⟩ := h.of_bind
    obtain ⟨lowered, registry⟩ := perform_runs first
    obtain ⟨accepted, whole⟩ := ih next
    constructor
    · intro e listed
      rcases List.mem_cons.1 listed with rfl | listed
      · exact ⟨type, lowered⟩
      · exact accepted e listed
    · rw [whole, registry, List.flatMap_cons, Registry.applyAll_append]

end Compile

end ApiModel

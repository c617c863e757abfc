import ApiModel.Proofs.Concur
import ApiModel.Proofs.Run
import ApiModel.Proofs.Steps

/-! Two builds side by side. They may report different things, but from related models they end
alike and with related models. -/
namespace ApiModel

variable {α β γ δ : Type}

namespace Effect

def writes (effects : List Effect) : List Effect := effects.filter fun e => e.name?.isSome

@[simp] theorem writes_append (es fs : List Effect) : writes (es ++ fs) = writes es ++ writes fs :=
  List.filter_append ..

@[simp] theorem writes_notice (n : Notice) : writes [.notice n] = [] := rfl

end Effect

theorem Registry.applyAll_writes (r : Registry) (es : List Effect) :
    r.applyAll (Effect.writes es) = r.applyAll es := by
  induction es generalizing r with
  | nil => rfl
  | cons e rest ih =>
    have step : r.applyAll (e :: rest) = (r.apply e).applyAll rest := rfl
    rw [step, ← ih]
    cases e <;> rfl

theorem Registry.applyAll_eq_of_writes {es fs : List Effect}
    (h : Effect.writes es = Effect.writes fs) (r : Registry) : r.applyAll es = r.applyAll fs := by
  rw [← r.applyAll_writes, h, r.applyAll_writes]

/-- Models that differ in their types at most, and there only as a relation allows. -/
structure ServiceModel.AlikeBut (T : Registry → Registry → Prop) (m n : ServiceModel) : Prop where
  types : T m.registry n.registry
  rest : m = { n with registry := m.registry }

theorem ServiceModel.AlikeBut.eq {m n : ServiceModel} (h : AlikeBut Eq m n) : m = n := by
  rw [h.rest, h.types]

namespace Compile

/-- Lowerings that write the same and end alike. -/
structure Parallel (R : α → β → Prop) (x : Lowering α) (y : Lowering β) : Prop where
  writes : Effect.writes x.trace = Effect.writes y.trace
  results : Alike R x.result y.result

namespace Parallel

variable {R : α → β → Prop} {S : γ → δ → Prop} {x : Lowering α} {y : Lowering β}

theorem refl (x : Lowering α) : Parallel Eq x x := ⟨rfl, .refl x.result⟩

theorem of_pure {a : α} {b : β} (related : R a b) : Parallel R (pure a) (pure b) :=
  ⟨rfl, .ok related⟩

theorem of_fail (e : BuildError) : Parallel R (.fail e) (.fail e) := ⟨rfl, .error e⟩

theorem of_bind {f : α → Lowering γ} {g : β → Lowering δ} (first : Parallel R x y)
    (next : ∀ a b, R a b → Parallel S (f a) (g b)) : Parallel S (x >>= f) (y >>= g) := by
  obtain ⟨writes, results⟩ := first
  obtain ⟨trace, result⟩ := x
  obtain ⟨trace', result'⟩ := y
  cases results with
  | error same => exact ⟨writes, Ending.error same⟩
  | ok related =>
    have step := next _ _ related
    refine ⟨?_, step.results⟩
    simp only [bind, Traced.andThen, Effect.writes_append]
    rw [show Effect.writes trace = Effect.writes trace' from writes, step.writes]

theorem noted (n : Notice) (h : Parallel R x y) : Parallel R (note n >>= fun _ => x) y := by
  refine ⟨?_, h.results⟩
  simp only [bind, Traced.andThen, note, Traced.emit, Effect.writes_append, Effect.writes_notice]
  exact h.writes

end Parallel

def outcome (x : Build α) (p : Progress) : Except BuildError ServiceModel :=
  (x.run.run p).1.map fun _ => (x.run.run p).2.model

theorem run_bind_ok {x : Build α} {f : α → Build β} {p q : Progress} {a : α}
    (h : x.run.run p = (.ok a, q)) : (x >>= f).run.run p = (f a).run.run q := by
  rw [ExceptT.run_bind, StateT.run_bind, h]
  rfl

theorem run_bind_error {x : Build α} {f : α → Build β} {p q : Progress} {e : BuildError}
    (h : x.run.run p = (.error e, q)) : (x >>= f).run.run p = (.error e, q) := by
  rw [ExceptT.run_bind, StateT.run_bind, h]
  rfl

theorem run_perform_ok {work : Lowering α} {f : α → Build β} {a : α} (h : work.result = .ok a)
    (p : Progress) :
    (perform work >>= f).run.run p = (f a).run.run
      ⟨{ p.model with registry := p.model.registry.applyAll work.trace },
        p.notices ++ Effect.notices work.trace⟩ := by
  apply run_bind_ok
  rw [perform_run, h]

theorem run_perform_error {work : Lowering α} {f : α → Build β} {e : BuildError}
    (h : work.result = .error e) (p : Progress) :
    ((perform work >>= f).run.run p).1 = .error e := by
  have failed := perform_run work p
  rw [h] at failed
  rw [run_bind_error failed]

theorem outcome_bind_ok {x : Build α} {f : α → Build β} {p q : Progress} {a : α}
    (h : x.run.run p = (.ok a, q)) : outcome (x >>= f) p = outcome (f a) q := by
  unfold outcome
  rw [run_bind_ok h]

theorem outcome_bind_error {x : Build α} {f : α → Build β} {p q : Progress} {e : BuildError}
    (h : x.run.run p = (.error e, q)) : outcome (x >>= f) p = .error e := by
  unfold outcome
  rw [run_bind_error h]
  rfl

/-- Builds that end alike wherever they start from related models, and with related models if they
succeed. -/
def Abreast (S : ServiceModel → ServiceModel → Prop) (R : α → β → Prop) (x : Build α)
    (y : Build β) : Prop :=
  ∀ p q : Progress, S p.model q.model →
    Alike (fun a b => R a b ∧ S (x.run.run p).2.model (y.run.run q).2.model)
      (x.run.run p).1 (y.run.run q).1

namespace Abreast

variable {S : ServiceModel → ServiceModel → Prop} {R : α → β → Prop} {Q : γ → δ → Prop}
  {x : Build α} {y : Build β}

theorem of_pure {a : α} {b : β} (related : R a b) : Abreast S R (pure a) (pure b) :=
  fun _ _ start => .ok ⟨related, start⟩

theorem of_throw (e : BuildError) : Abreast S R (throw e) (throw e) := fun _ _ _ => .error e

theorem of_except {u : Except BuildError α} {v : Except BuildError β} (h : Alike R u v) :
    Abreast S R (liftM u) (liftM v) := by
  intro p q start
  cases h with
  | ok related => exact .ok ⟨related, start⟩
  | error same => exact Ending.error same

theorem of_modify {f g : Progress → Progress}
    (h : ∀ p q : Progress, S p.model q.model → S (f p).model (g q).model) :
    Abreast S Eq (modify f : Build Unit) (modify g) :=
  fun p q start => .ok ⟨rfl, h p q start⟩

theorem of_bind {f : α → Build γ} {g : β → Build δ} (first : Abreast S R x y)
    (next : ∀ a b, R a b → Abreast S Q (f a) (g b)) : Abreast S Q (x >>= f) (y >>= g) := by
  intro p q start
  have step := first p q start
  rw [ExceptT.run_bind, StateT.run_bind, ExceptT.run_bind, StateT.run_bind]
  generalize x.run.run p = u at *
  generalize y.run.run q = v at *
  obtain ⟨result, p'⟩ := u
  obtain ⟨result', q'⟩ := v
  dsimp only at step
  cases step with
  | error same => exact Ending.error same
  | ok h => exact next _ _ h.1 p' q' h.2

theorem of_bind_self {x : Build α} {f : α → Build γ} (first : Abreast S Eq x x)
    (next : ∀ a, Abreast S Eq (f a) (f a)) : Abreast S Eq (x >>= f) (x >>= f) := by
  refine of_bind first ?_
  rintro a _ rfl
  exact next a

theorem of_get : Abreast S (fun p q => S p.model q.model) (get : Build Progress) get :=
  fun _ _ start => .ok ⟨start, start⟩

theorem of_reportAll (ns ms : List Notice) : Abreast S Eq (reportAll ns) (reportAll ms) :=
  of_modify fun _ _ start => start

theorem of_report (n m : Notice) : Abreast S Eq (report n) (report m) :=
  of_modify fun _ _ start => start

theorem reported (n : Notice) (h : Abreast S R x y) :
    Abreast S R (report n >>= fun _ => x) y :=
  fun p q start => h { p with notices := p.notices ++ [n] } q start

theorem outcomes (h : Abreast S R x y) {p q : Progress} (start : S p.model q.model) :
    Alike S (outcome x p) (outcome y q) := by
  have alike := h p q start
  unfold outcome
  generalize x.run.run p = u at *
  generalize y.run.run q = v at *
  obtain ⟨result, p'⟩ := u
  obtain ⟨result', q'⟩ := v
  dsimp only at *
  exact alike.map fun _ _ both => both.2

/-! Steps over models that differ in their types. -/

section Types

open ServiceModel (AlikeBut)

variable {T : Registry → Registry → Prop}

theorem of_currentRegistry : Abreast (AlikeBut T) T currentRegistry currentRegistry :=
  fun _ _ start => .ok ⟨start.types, start⟩

theorem of_setRegistry {r r' : Registry} (h : T r r') :
    Abreast (AlikeBut T) Eq (setRegistry r) (setRegistry r') := by
  apply of_modify
  intro p q start
  refine ⟨h, ?_⟩
  rw [start.rest]

theorem of_perform {x : Lowering α} {y : Lowering β} (parallel : Parallel R x y)
    (h : ∀ r r', T r r' → T (r.applyAll x.trace) (r'.applyAll x.trace)) :
    Abreast (AlikeBut T) R (perform x) (perform y) := by
  refine of_bind of_currentRegistry fun r r' related => ?_
  rw [← Registry.applyAll_eq_of_writes parallel.writes r']
  refine of_bind (of_setRegistry (h r r' related)) fun _ _ _ => ?_
  exact of_bind (of_reportAll _ _) fun _ _ _ => of_except parallel.results

theorem of_performChecked {x : Lowering α} {y : Lowering β} (parallel : Parallel R x y)
    (h : ∀ r r', T r r' → Alike T (r.commit (Registry.empty.applyAll x.trace))
      (r'.commit (Registry.empty.applyAll x.trace))) :
    Abreast (AlikeBut T) R (performChecked x) (performChecked y) := by
  unfold performChecked
  rw [← Registry.applyAll_eq_of_writes parallel.writes]
  refine of_bind (of_reportAll _ _) fun _ _ _ => ?_
  refine of_bind (of_except parallel.results) fun a b same => ?_
  refine of_bind (R := Eq) ?_ fun _ _ _ => of_pure same
  refine of_bind of_currentRegistry fun r r' related => ?_
  exact of_bind (of_except (h r r' related)) fun _ _ => of_setRegistry

theorem of_classify (produced : Produced) :
    Abreast (AlikeBut T) Eq (classify produced) (classify produced) := by
  unfold classify
  split
  · exact of_pure rfl
  · apply of_modify
    intro p q start
    refine ⟨start.types, ?_⟩
    rw [start.rest]

theorem operationSteps : OperationSteps (Abreast (AlikeBut T) Eq) where
  of_pure _ := of_pure rfl
  of_refusal _ _ := of_throw _
  of_bind first next := of_bind first fun a _ same => same ▸ next a
  of_report n := of_report n n
  of_known next := by
    refine of_bind of_get fun p q start => ?_
    rw [start.rest]
    exact next _
  of_entry _ _ := by
    apply of_modify
    intro p q start
    refine ⟨start.types, ?_⟩
    rw [start.rest]

theorem responseSteps {s : Subject}
    (headers : ∀ code headers, let work := headerMembers s code 0 headers .empty
      Abreast (AlikeBut T) Eq (performChecked work) (performChecked work))
    (object : ∀ code suffix notes required properties,
      let work := bodyStructure s code suffix notes required properties
      Abreast (AlikeBut T) Eq (performChecked work) (performChecked work))
    (merged : ∀ code suffix body headers, let work := mergeOutput s code suffix body headers
      Abreast (AlikeBut T) Eq work work) :
    ResponseSteps s fun x => Abreast (AlikeBut T) Eq x x where
  of_pure _ := of_pure rfl
  of_refusal _ _ := of_throw _
  of_bind := of_bind_self
  of_report n := of_report n n
  of_classify := of_classify
  of_headers := headers
  of_object := object
  of_mergeOutput := merged

theorem of_finish (h : ∀ r r', T r r' → r.typeMappings = r'.typeMappings) :
    Abreast (AlikeBut T) Eq finish finish := by
  refine of_bind (of_modify ?_) fun _ _ _ => of_bind of_get fun p q _ => of_report _ _
  intro p q start
  refine ⟨start.types, ?_⟩
  rw [h _ _ start.types, start.rest]

theorem perform_parallel {x : Lowering α} {y : Lowering β} (parallel : Parallel R x y) :
    Abreast (AlikeBut Eq) R (perform x) (perform y) :=
  of_perform parallel fun _ _ same => congrArg (Registry.applyAll · x.trace) same

theorem performChecked_parallel {x : Lowering α} {y : Lowering β} (parallel : Parallel R x y) :
    Abreast (AlikeBut Eq) R (performChecked x) (performChecked y) := by
  refine of_performChecked parallel ?_
  rintro r _ rfl
  exact .refl _

theorem outcome_eq (h : Abreast (AlikeBut Eq) R x y) (p : Progress) :
    outcome x p = outcome y p := by
  have alike := h.outcomes (p := p) ⟨rfl, rfl⟩
  generalize outcome x p = u at *
  generalize outcome y p = v at *
  cases alike with
  | ok both => exact congrArg Except.ok both.eq
  | error same => exact congrArg Except.error same

end Types

end Abreast

end Compile

end ApiModel

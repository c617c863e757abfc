import ApiModel.Proofs.Commit
import ApiModel.Proofs.Refusal
import Mathlib.Logic.Relation

/-! Unions over named schemas. A branch that is a name stands for the members of a named object,
whose parts may be unions over names again. No other reference leads from one schema into another,
so lowering comes to an end if no name expands to itself. -/
namespace ApiModel.Compile

open Relation (TransGen)

/-- A union inside the first named schema has a branch that names the second. -/
def Expands (components : OrderedMap Schema) (name target : Text) : Prop :=
  ∃ schema, components.get? name = some schema ∧ schema.Unites target

def Acyclic (components : OrderedMap Schema) : Prop :=
  ∀ name, ¬ TransGen (Expands components) name name

theorem acyclic_of_rank {components : OrderedMap Schema} (rank : Text → Nat)
    (h : ∀ name target, Expands components name target → rank target < rank name) :
    Acyclic components := by
  have falls (name target : Text) (path : TransGen (Expands components) name target) :
      rank target < rank name := by
    induction path with
    | single step => exact h _ _ step
    | tail _ step ih => exact Nat.lt_trans (h _ _ step) ih
  intro name cycle
  exact Nat.lt_irrefl _ (falls name name cycle)

def crossOnce (context : Context) (next : Crossing) : Crossing := fun union enclosing target =>
  match context.components.get? target with
  | none => .fail (.unknownType target (some union))
  | some (.object _ required properties none) =>
    gather (lowerProperties context.override next enclosing required properties)
  | some schema => refuse (.unionBranch schema.kindWord) union

/-- The way through named schemas that remembers no names: it goes through as many, one inside the
other, as it is told, and leaves the rest to another way. -/
def unrolled (context : Context) (beyond : Crossing) : Nat → Crossing
  | 0 => beyond
  | n + 1 => crossOnce context (unrolled context beyond n)

section Termination

variable {context : Context}

-- The invariant: each name that is not pending any more expands to the one that is crossed now.
theorem crossing_eq_unrolled (acyclic : Acyclic context.components) (beyond : Crossing) (n : Nat)
    {pending : List Text} (enough : pending.length < n) {target : Text}
    (above : ∀ key ∈ context.components.keys, key ∉ pending →
      TransGen (Expands context.components) key target) (union enclosing : Text) :
    crossing context pending union enclosing target =
      unrolled context beyond n union enclosing target := by
  induction n generalizing pending target union enclosing with
  | zero => omega
  | succ n ih =>
    rw [crossing, unrolled, crossOnce]
    cases found : context.components.get? target with
    | none => rfl
    | some schema =>
      have known : target ∈ context.components.keys := OrderedMap.mem_keys_iff.2 ⟨schema, found⟩
      have waiting : target ∈ pending := by
        by_contra gone
        exact acyclic target (above target known gone)
      have fewer : (pending.erase target).length < n := by
        have := List.length_pos_of_mem waiting
        rw [List.length_erase_of_mem waiting]
        omega
      cases schema with
      | object notes required properties additional =>
        cases additional with
        | some values => rfl
        | none =>
          simp only [waiting, dite_true]
          rw [lowerProperties_congr]
          intro e listed
          apply lowerSchema_congr fun _ _ => rfl
          intro next inner union enclosing
          have step : Expands context.components target next := ⟨_, found, .property listed inner⟩
          apply ih fewer
          intro key named left
          by_cases same : key = target
          · exact same ▸ .single step
          · exact (above key named fun there =>
              left ((List.mem_erase_of_ne same).2 there)).tail step
      | _ => rfl

theorem cross_eq_unrolled (acyclic : Acyclic context.components) (beyond : Crossing) {n : Nat}
    (enough : context.components.size < n) : context.cross = unrolled context beyond n := by
  funext union enclosing target
  apply crossing_eq_unrolled acyclic beyond n
  · simpa [OrderedMap.keys, OrderedMap.size] using enough
  · intro key named left
    exact absurd named left

end Termination

/-! What ends a build: anything but a union that contains itself. -/

/-- A result, or an error of a description that was followed to its end. -/
def Ended {α : Type} (x : Except BuildError α) : Prop := ∀ union, x ≠ .error (.endlessUnion union)

section Lowering

variable {α β : Type} {override : ModelOverride} {cross : Crossing}

theorem ended_ok (a : α) : Ended (.ok a) := by
  intro union failed
  cases failed

theorem ended_bind {work : Lowering α} {next : α → Lowering β} (first : Ended work.result)
    (later : ∀ a, Ended (next a).result) : Ended (work >>= next).result := by
  rw [Traced.result_bind]
  cases done : work.result with
  | ok a => exact later a
  | error e =>
    intro union failed
    cases failed
    exact first union done

theorem ended_refuse (construct : Construct) (location : Text) :
    Ended (refuse construct location : Lowering α).result := by
  intro union failed
  cases failed

theorem ended_lowerProperties {required : List Text} {properties : List (Text × Schema)}
    (h : ∀ e ∈ properties, ∀ name, Ended (lowerSchema override cross name e.2).result)
    (enclosing : Text) :
    Ended (gather (lowerProperties override cross enclosing required properties)).result := by
  intro union failed
  obtain ⟨key, schema, declared, failed⟩ := error_of_properties failed
  exact h _ (OrderedMap.mem_of_get?_ofList declared) _ union failed

theorem ended_lowerSchema
    (crossed : ∀ union enclosing target, Ended (cross union enclosing target).result)
    (schema : Schema) : ∀ name, Ended (lowerSchema override cross name schema).result := by
  induction schema using Schema.sizeInduction with
  | step schema ih =>
    intro name union failed
    cases refused_of_error failed with
    | element failed => exact ih _ Schema.sizeOf_items _ union failed
    | property declared failed =>
      exact ih _ (Schema.sizeOf_property (OrderedMap.mem_of_get?_ofList declared)) _ union failed
    | inlineBranch listed declared failed =>
      have member := OrderedMap.mem_of_get?_ofList declared
      exact ih _ (Schema.sizeOf_branchProperty listed member) _ union failed
    | namedBranch listed failed => exact crossed _ _ _ union failed

variable {context : Context}

theorem ended_unrolled {beyond : Crossing}
    (h : ∀ union enclosing target, Ended (beyond union enclosing target).result) (n : Nat) :
    ∀ union enclosing target, Ended (unrolled context beyond n union enclosing target).result := by
  induction n with
  | zero => exact h
  | succ n ih =>
    intro union enclosing target
    unfold unrolled crossOnce
    split
    · intro union failed
      cases failed
    · exact ended_lowerProperties (fun e _ => ended_lowerSchema ih e.2) enclosing
    · exact ended_refuse _ _

theorem ended_cross (acyclic : Acyclic context.components) (union enclosing target : Text) :
    Ended (context.cross union enclosing target).result := by
  rw [cross_eq_unrolled acyclic (fun _ _ _ => pure []) (Nat.lt_succ_self _)]
  exact ended_unrolled (fun _ _ _ => ended_ok []) _ union enclosing target

end Lowering

section Building

open Api (Parameter Response)

variable {α β : Type} {context : Context} {s : Subject}

/-- A step of a build that ends, wherever it starts. -/
def Ends (x : Build α) : Prop := ∀ p : Progress, Ended (x.run.run p).1

namespace Ends

theorem of_pure (a : α) : Ends (pure a) := fun _ => ended_ok a

theorem of_modify (f : Progress → Progress) : Ends (modify f) := fun _ => ended_ok _

theorem of_except {x : Except BuildError α} (h : Ended x) : Ends (liftM x) := by
  intro p
  cases x with
  | ok a => exact ended_ok a
  | error e => exact h

theorem of_bind {x : Build α} {f : α → Build β} (first : Ends x) (next : ∀ a, Ends (f a)) :
    Ends (x >>= f) := by
  intro p
  have start := first p
  rw [ExceptT.run_bind, StateT.run_bind]
  generalize x.run.run p = outcome at *
  obtain ⟨result, q⟩ := outcome
  cases result with
  | ok a => exact next a q
  | error e =>
    intro union failed
    cases failed
    exact start union rfl

theorem of_currentRegistry : Ends currentRegistry := fun p => ended_ok p.model.registry

theorem of_unsupported (construct : Construct) (location : Text) :
    Ends (throw (.unsupported construct location) : Build α) := by
  intro p union failed
  cases failed

end Ends

theorem ends_perform {work : Lowering α} (h : Ended work.result) : Ends (perform work) := by
  refine .of_bind .of_currentRegistry fun r => .of_bind (.of_modify _) fun _ => ?_
  exact .of_bind (.of_modify _) fun _ => .of_except h

theorem ends_performChecked {work : Lowering α} (h : Ended work.result) :
    Ends (performChecked work) := by
  refine .of_bind (.of_modify _) fun _ => .of_bind (.of_except h) fun a => ?_
  refine .of_bind (.of_bind .of_currentRegistry fun r => ?_) fun _ => .of_pure a
  refine .of_bind (.of_except ?_) fun r' => .of_modify _
  unfold Registry.commit
  intro union failed
  split at failed
  · cases failed
  · split at failed <;> cases failed

theorem ended_lower (acyclic : Acyclic context.components) (name : Text) (schema : Schema) :
    Ended (lower context name schema).result :=
  ended_lowerSchema (ended_cross acyclic) schema name

theorem ended_lowerSimple (acyclic : Acyclic context.components) (type location : Text)
    (schema : Option Schema) : Ended (lowerSimple context type schema location).result := by
  unfold lowerSimple
  split
  · exact ended_refuse _ _
  · split
    · intro union failed
      cases failed
    · split
      · exact ended_ok _
      · exact ended_refuse _ _
  · split
    · exact ended_lower acyclic _ _
    · exact ended_refuse _ _

theorem ended_bodyType (acyclic : Acyclic s.context.components) (body : Option Api.RequestBody) :
    Ended (bodyType s body).result := by
  unfold bodyType
  split
  · exact ended_ok _
  · exact ended_ok _
  · exact ended_bind (ended_lower acyclic _ _) fun type => ended_ok _
  · exact ended_refuse _ _

theorem ended_parameterMembers (acyclic : Acyclic s.context.components)
    (parameters : List Parameter) :
    ∀ n members, Ended (parameterMembers s n parameters members).result := by
  induction parameters with
  | nil => exact fun n members => ended_ok members
  | cons parameter rest ih =>
    intro n members
    unfold parameterMembers
    split
    · exact ended_refuse _ _
    · split
      · exact ended_bind (ended_ok ()) fun _ => ih _ _
      · refine ended_bind (ended_bind (ended_lowerSimple acyclic _ _ _) fun type => ended_ok _) ?_
        intro member
        exact ih _ _

theorem ended_headerMembers (acyclic : Acyclic s.context.components) (code : Int)
    (headers : List (Text × Api.Header)) :
    ∀ n members, Ended (headerMembers s code n headers members).result := by
  induction headers with
  | nil => exact fun n members => ended_ok members
  | cons entry rest ih =>
    intro n members
    unfold headerMembers
    split
    · exact ended_bind (ended_ok ()) fun _ => ih _ _
    · exact ended_bind (ended_lowerSimple acyclic _ _ _) fun type => ih _ _

theorem ends_inputOf (acyclic : Acyclic s.context.components) (operation : Api.Operation) :
    Ends (inputOf s operation) := by
  refine .of_bind (ends_perform (ended_bodyType acyclic _)) fun body => ?_
  refine .of_bind (ends_perform (ended_parameterMembers acyclic _ _ _)) fun members => ?_
  refine .of_bind .of_currentRegistry fun r => ?_
  split
  · exact .of_pure _
  · exact .of_bind (ends_perform (ended_ok ())) fun _ => .of_pure _

theorem ends_classify (produced : Produced) : Ends (classify produced) := by
  unfold classify
  split
  · exact .of_pure ()
  · exact .of_modify _

theorem ends_steps (acyclic : Acyclic s.context.components) : ResponseSteps s Ends where
  of_pure := .of_pure
  of_refusal := .of_unsupported
  of_bind := .of_bind
  of_report _ := .of_modify _
  of_classify := ends_classify
  of_headers code headers := ends_performChecked (ended_headerMembers acyclic code headers _ _)
  of_object _ _ _ _ _ := by
    refine ends_performChecked (ended_bind (ended_bind ?_ fun members => ended_ok _) ?_)
    · exact ended_lowerProperties (fun e _ => ended_lowerSchema (ended_cross acyclic) e.2) _
    · exact fun st => ended_ok ()
  of_mergeOutput _ _ _ _ := by
    refine .of_bind .of_currentRegistry fun r => ?_
    exact .of_bind (ends_performChecked (ended_ok ())) fun _ => .of_pure _

theorem operationSteps_ends : OperationSteps (Beside Ends) where
  of_pure a := ⟨rfl, .of_pure a⟩
  of_refusal construct location := ⟨rfl, .of_unsupported construct location⟩
  of_bind := Beside.bind .of_bind
  of_report _ := ⟨rfl, .of_modify _⟩
  of_known next := Beside.bind .of_bind ⟨rfl, fun p => ended_ok p⟩ fun _ => next _
  of_entry _ _ := ⟨rfl, .of_modify _⟩

theorem ends_addOperations (acyclic : Acyclic context.components)
    (operations : List Api.Operation) : Ends (addOperations context operations) := by
  have whole :
      Beside Ends (addOperations context operations) (addOperations context operations) := by
    refine operationSteps_ends.of_addOperations rfl (List.forall₂_same.2 fun operation _ => ?_)
    refine ⟨rfl, rfl, rfl, fun name => operationSteps_ends.of_addOperation ?_⟩
    refine operationSteps_ends.of_decompose ⟨rfl, ends_inputOf acyclic operation⟩ ⟨rfl, ?_⟩ rfl
    exact (ends_steps acyclic).of_produceAll operation.responses
  exact whole.2

theorem ends_lowerComponents (acyclic : Acyclic context.components) (l : List (Text × Schema)) :
    Ends (lowerComponents context l) := by
  have whole : Beside Ends (lowerComponents context l) (lowerComponents context l) :=
    operationSteps_ends.of_lowerComponents
      (List.forall₂_same.2 fun entry _ => ⟨rfl, ends_perform (ended_lower acyclic _ _)⟩)
  exact whole.2

theorem ended_build {d : Api.Description} (acyclic : Acyclic d.schemas) (override : ModelOverride) :
    Ended (build d override).result := by
  have whole : Ends (buildAll ⟨override, d.schemas⟩ d) := by
    refine .of_bind (ends_lowerComponents acyclic _) fun _ => ?_
    refine .of_bind (ends_addOperations acyclic _) fun _ => ?_
    exact .of_bind (.of_modify _) fun _ => .of_bind (fun p => ended_ok p) fun _ => .of_modify _
  intro union failed
  apply whole (start d.info) union
  unfold build at failed
  generalize (buildAll ⟨override, d.schemas⟩ d).run.run (start d.info) = outcome at *
  obtain ⟨result, p⟩ := outcome
  cases result with
  | ok u => cases failed
  | error e =>
    cases failed
    rfl

end Building

end ApiModel.Compile

namespace ApiModel

open Compile

/-- If no name expands to itself, lowering ends on every schema: it goes through at most as many
named schemas, one inside the other, as there are, so what it would do beyond makes no difference.
No build over these names ends in a union that contains itself. -/
theorem lower_terminates {context : Context} (acyclic : Acyclic context.components) :
    (∀ beyond n, context.components.size < n → ∀ name schema,
      lowerSchema context.override (unrolled context beyond n) name schema =
        lower context name schema) ∧
    (∀ name schema union, (lower context name schema).result ≠ .error (.endlessUnion union)) ∧
    ∀ d : Api.Description, d.schemas = context.components → ∀ override union,
      (build d override).result ≠ .error (.endlessUnion union) := by
  refine ⟨?_, fun name schema => ended_lower acyclic name schema, ?_⟩
  · intro beyond n enough name schema
    rw [lower, cross_eq_unrolled acyclic beyond enough]
  · intro d same override
    exact ended_build (same ▸ acyclic) override

def thread : OrderedMap Schema := .ofList
  [("Comment", .object default []
      [("parent", .reference ⟨"Comment", by decide⟩ none),
        ("replies", .array default default (some (.reference ⟨"Comment", by decide⟩ none))),
        ("byAuthor", .object default [] [] (some (.reference ⟨"Comment", by decide⟩ none))),
        ("body", .union .allOf none
          [.reference ⟨"Passage", by decide⟩ none,
            .object default [] [("quoted", .reference ⟨"Comment", by decide⟩ none)] none])] none),
    ("Passage", .object default []
      [("text", .string default default), ("source", .reference ⟨"Comment", by decide⟩ none)] none)]

theorem acyclic_thread : Acyclic thread := by
  apply acyclic_of_rank fun name => if name = "Comment" then 1 else 0
  rintro name target ⟨schema, found, unites⟩
  have entry := OrderedMap.mem_of_get?_ofList found
  simp only [List.mem_cons, Prod.mk.injEq, List.not_mem_nil, or_false] at entry
  rcases entry with ⟨rfl, rfl⟩ | ⟨rfl, rfl⟩
  · obtain rfl : target = "Passage" := by
      cases unites with
      | property listed inner =>
        simp only [List.mem_cons, List.not_mem_nil, or_false] at listed
        rcases listed with rfl | rfl | rfl | rfl
        · cases inner
        · cases inner with
          | items inner => cases inner
        · cases inner with
          | property listed _ => cases listed
        · cases inner with
          | named listed =>
            simp only [List.mem_cons, reduceCtorEq, List.not_mem_nil, or_false] at listed
            cases listed
            rfl
          | branch listed inner =>
            simp only [List.mem_cons, List.not_mem_nil, or_false] at listed
            rcases listed with rfl | rfl
            · cases inner
            · cases inner with
              | property listed inner =>
                obtain rfl := List.mem_singleton.1 listed
                cases inner
    decide
  · cases unites with
    | property listed inner =>
      simp only [List.mem_cons, List.not_mem_nil, or_false] at listed
      rcases listed with rfl | rfl <;> cases inner

theorem lower_terminates_thread :
    Acyclic thread ∧ (∀ beyond name schema,
        lowerSchema default (unrolled ⟨default, thread⟩ beyond 3) name schema =
          lower ⟨default, thread⟩ name schema) ∧
      ∀ union, (build ⟨⟨"Threads", "1", none⟩, [], thread, [], "3.0.0"⟩ default).result ≠
        .error (.endlessUnion union) := by
  obtain ⟨unrolls, -, builds⟩ := @lower_terminates ⟨default, thread⟩ acyclic_thread
  exact ⟨acyclic_thread, fun beyond => unrolls beyond 3 (by decide), builds _ rfl default⟩

end ApiModel

import ApiModel.Document.Resolution
import Mathlib.Data.List.Nodup
import Mathlib.Logic.Relation

/-! Resolving pointers comes to an end. A pointer may lead anywhere in the document, so no value
gets smaller; but a pointer is followed once on a way down, and all pointers that are met stand in
the document. -/
namespace ApiModel

namespace Value

/-- The values that stand in a value, itself included. -/
inductive Part : Value → Value → Prop where
  | refl (v : Value) : Part v v
  | item {items : List Value} {v part : Value} (listed : v ∈ items) (inner : Part v part) :
      Part (list items) part
  | entry {entries : List (Value × Value)} {e : Value × Value} {part : Value} (listed : e ∈ entries)
      (inner : Part e.2 part) : Part (map entries) part

theorem Part.trans {a b c : Value} (h : Part a b) (h' : Part b c) : Part a c := by
  induction h with
  | refl v => exact h'
  | item listed _ ih => exact .item listed (ih h')
  | entry listed _ ih => exact .entry listed (ih h')

theorem areTrees_iff {items : List Value} :
    areTrees items = true ↔ ∀ v ∈ items, v.isTree = true := by
  induction items with
  | nil => simp [areTrees]
  | cons v rest ih => simp [areTrees, ih]

theorem holdTrees_iff {entries : List (Value × Value)} :
    holdTrees entries = true ↔ ∀ e ∈ entries, e.2.isTree = true := by
  induction entries with
  | nil => simp [holdTrees]
  | cons e rest ih => simp [holdTrees, ih]

theorem Part.isTree {whole part : Value} (h : Part whole part) (tree : whole.isTree = true) :
    part.isTree = true := by
  induction h with
  | refl v => exact tree
  | item listed _ ih =>
    rw [Value.isTree, areTrees_iff] at tree
    exact ih (tree _ listed)
  | entry listed _ ih =>
    rw [Value.isTree, holdTrees_iff] at tree
    exact ih (tree _ listed)

theorem within_of_isTree (whole : Value) {part : Value} (tree : part.isTree = true) :
    within whole part = part :=
  refill_of_isTree whole 1 part tree

theorem exists_of_lookupText {key : Text} {entries : List (Value × Value)} {v : Value}
    (h : lookupText key entries = some v) : ∃ k, (k, v) ∈ entries ∧ k.isText key = true := by
  induction entries with
  | nil => simp [lookupText] at h
  | cons e rest ih =>
    unfold lookupText at h
    split at h
    · rename_i here
      cases h
      exact ⟨e.1, List.mem_cons_self, here⟩
    · obtain ⟨k, listed, named⟩ := ih h
      exact ⟨k, List.mem_cons_of_mem _ listed, named⟩

end Value

open Value (Part)

namespace Pointer

theorem mem_allOfItems {items : List Value} {pointer : Text} :
    pointer ∈ allOfItems items ↔ ∃ v ∈ items, pointer ∈ allOf v := by
  induction items with
  | nil => simp [allOfItems]
  | cons v rest ih => simp [allOfItems, ih]

theorem mem_allOfEntries {entries : List (Value × Value)} {pointer : Text} :
    pointer ∈ allOfEntries entries ↔ ∃ e ∈ entries, pointer ∈ allOf e.2 := by
  induction entries with
  | nil => simp [allOfEntries]
  | cons e rest ih => simp [allOfEntries, ih]

theorem allOf_subset_of_part {whole part : Value} (h : Part whole part) :
    allOf part ⊆ allOf whole := by
  induction h with
  | refl v => exact List.Subset.refl _
  | item listed _ ih =>
    intro pointer found
    rw [allOf, mem_allOfItems]
    exact ⟨_, listed, ih found⟩
  | entry listed _ ih =>
    intro pointer found
    rw [allOf, List.mem_append, mem_allOfEntries]
    exact .inr ⟨_, listed, ih found⟩

/-! Where pointers lead. -/

variable {root v target : Value} {pointer : Text}

theorem mem_of_itemAt? {items : List Value} {index : Int} (h : itemAt? items index = some v) :
    v ∈ items := by
  unfold itemAt? at h
  dsimp only at h
  generalize (if index < 0 then index + items.length else index) = place at h
  split at h
  · cases h
  · exact List.mem_of_getElem? h

theorem part_of_step {segment : Text} (tree : v.isTree = true)
    (h : step pointer segment v = .ok target) : Part v target := by
  cases v with
  | map entries =>
    simp only [step] at h
    split at h
    · rename_i found
      obtain ⟨k, listed, -⟩ := Value.exists_of_lookupText found
      have part : Part (.map entries) _ := .entry listed (.refl _)
      rw [Value.within_of_isTree _ (part.isTree tree)] at h
      cases h
      exact part
    · cases h
  | list items =>
    simp only [step] at h
    split at h
    · rename_i item found
      obtain ⟨index, -, place⟩ := Option.bind_eq_some_iff.1 found
      have part : Part (.list items) item := .item (mem_of_itemAt? place) (.refl _)
      rw [Value.within_of_isTree _ (part.isTree tree)] at h
      cases h
      exact part
    · cases h
  | _ => cases h

theorem part_of_walk {segments : List Text} (tree : v.isTree = true)
    (h : walk pointer segments v = .ok target) : Part v target := by
  induction segments generalizing v with
  | nil =>
    cases h
    exact .refl _
  | cons segment rest ih =>
    unfold walk at h
    split at h
    · rename_i taken
      have first := part_of_step tree taken
      exact first.trans (ih (first.isTree tree) h)
    · cases h

theorem part_of_follow (tree : root.isTree = true) (h : follow root pointer = .ok target) :
    Part root target := by
  unfold follow at h
  split at h
  · exact part_of_walk tree h
  · cases h

/-! The recursion, with the pointers that were followed on the way down. -/

/-- What is resolved at some point: the pointers followed so far, and the value that is met. -/
structure Visit where
  seen : List Text
  value : Value

def Visit.start (root : Value) : Visit := ⟨[], root⟩

/-- How an entry of a mapping is resolved; the pointer itself may be kept as it is. -/
def resolveEntry (keep : Bool) (next : Value → Except ReadError Value) (e : Value × Value) :
    Except ReadError (Value × Value) := do
  if keep && e.1.isText "$ref" then return e else return (e.1, ← next e.2)

def resolveBy (root : Value) (next : Visit → Except ReadError Value) :
    Visit → Except ReadError Value
  | ⟨seen, .map entries⟩ =>
    match of? entries with
    | some pointer =>
      if (schemaName? pointer).isSome then
        match follow root pointer with
        | .ok _ => return .map (← entries.mapM (resolveEntry true fun v => next ⟨seen, v⟩))
        | .error e => .error (.document e)
      else if pointer ∈ seen then return .map entries
      else match follow root pointer with
        | .ok target => next ⟨pointer :: seen, target⟩
        | .error e => .error (.document e)
    | none => return .map (← entries.mapM (resolveEntry false fun v => next ⟨seen, v⟩))
  | ⟨seen, .list items⟩ => return .list (← items.mapM fun v => next ⟨seen, v⟩)
  | ⟨_, v⟩ => return v

/-- The visits that a visit leads to. -/
inductive Visit.Calls (root : Value) : Visit → Visit → Prop where
  | item {seen : List Text} {items : List Value} {v : Value} (listed : v ∈ items) :
      Calls root ⟨seen, .list items⟩ ⟨seen, v⟩
  | entry {seen : List Text} {entries : List (Value × Value)} {e : Value × Value}
      (plain : of? entries = none) (listed : e ∈ entries) :
      Calls root ⟨seen, .map entries⟩ ⟨seen, e.2⟩
  | sibling {seen : List Text} {entries : List (Value × Value)} {pointer : Text} {target : Value}
      {e : Value × Value} (found : of? entries = some pointer)
      (named : (schemaName? pointer).isSome) (followed : follow root pointer = .ok target)
      (listed : e ∈ entries) (other : e.1.isText "$ref" = false) :
      Calls root ⟨seen, .map entries⟩ ⟨seen, e.2⟩
  | target {seen : List Text} {entries : List (Value × Value)} {pointer : Text} {target : Value}
      (found : of? entries = some pointer) (unnamed : schemaName? pointer = none)
      (fresh : pointer ∉ seen) (followed : follow root pointer = .ok target) :
      Calls root ⟨seen, .map entries⟩ ⟨pointer :: seen, target⟩

/-- The visits that the resolution of a document comes to. -/
def Visit.Reached (root : Value) : Visit → Prop :=
  Relation.ReflTransGen (Visit.Calls root) (.start root)

def unseen (root : Value) (seen : List Text) : List Text :=
  (allOf root).eraseDups.filter fun pointer => pointer ∉ seen

/-- Fewer pointers are left to follow, or as many and the value is smaller. -/
def Visit.Smaller (root : Value) (a b : Visit) : Prop :=
  Prod.Lex (· < ·) (· < ·) ((unseen root a.seen).length, sizeOf a.value)
    ((unseen root b.seen).length, sizeOf b.value)

theorem nodup_eraseDups (texts : List Text) : texts.eraseDups.Nodup := by
  induction hn : texts.length using Nat.strongRecOn generalizing texts with
  | ind n ih =>
    cases texts with
    | nil => simp
    | cons first rest =>
      rw [List.eraseDups_cons, List.nodup_cons]
      refine ⟨by simp, ih _ ?_ _ rfl⟩
      rw [← hn]
      exact Nat.lt_succ_of_le (List.length_filter_le ..)

theorem mem_unseen {seen : List Text} :
    pointer ∈ unseen root seen ↔ pointer ∈ allOf root ∧ pointer ∉ seen := by
  simp [unseen]

theorem erase_unseen (root : Value) (seen : List Text) (pointer : Text) :
    (unseen root seen).erase pointer = unseen root (pointer :: seen) := by
  have nodup : (unseen root seen).Nodup := (nodup_eraseDups _).filter _
  rw [nodup.erase_eq_filter, unseen, unseen, List.filter_filter]
  apply List.filter_congr
  intro other _
  by_cases same : other = pointer <;> simp [same]

theorem Visit.Reached.part {visit : Visit} (tree : root.isTree = true) (h : Reached root visit) :
    Part root visit.value := by
  induction h with
  | refl => exact .refl root
  | tail _ call ih =>
    cases call with
    | item listed => exact ih.trans (.item listed (.refl _))
    | entry plain listed => exact ih.trans (.entry listed (.refl _))
    | sibling found named followed listed other => exact ih.trans (.entry listed (.refl _))
    | target found unnamed fresh followed => exact part_of_follow tree followed

theorem of?_mem_allOf {entries : List (Value × Value)} (h : of? entries = some pointer) :
    pointer ∈ allOf (.map entries) := by
  simp [allOf, h]

/-- A pointer that is met on the way is still to be followed, unless it was. -/
theorem Visit.Reached.mem_unseen_iff {seen : List Text} {entries : List (Value × Value)}
    (tree : root.isTree = true) (h : Reached root ⟨seen, .map entries⟩)
    (found : of? entries = some pointer) : pointer ∈ unseen root seen ↔ pointer ∉ seen := by
  have listed : pointer ∈ allOf root := allOf_subset_of_part (h.part tree) (of?_mem_allOf found)
  rw [mem_unseen]
  exact and_iff_right listed

theorem sizeOf_entry {entries : List (Value × Value)} {e : Value × Value} (h : e ∈ entries) :
    sizeOf e.2 < sizeOf (Value.map entries) := by
  have inList := List.sizeOf_lt_of_mem h
  obtain ⟨k, v⟩ := e
  simp only [Prod.mk.sizeOf_spec, Value.map.sizeOf_spec] at *
  omega

theorem Visit.Calls.smaller {a b : Visit} (tree : root.isTree = true) (reached : Reached root a)
    (call : Calls root a b) : Smaller root b a := by
  cases call with
  | item listed =>
    refine .right _ ?_
    have := List.sizeOf_lt_of_mem listed
    simp only [Value.list.sizeOf_spec]
    omega
  | entry plain listed =>
    exact .right _ (sizeOf_entry listed)
  | sibling found named followed listed other =>
    exact .right _ (sizeOf_entry listed)
  | target found unnamed fresh followed =>
    refine .left _ _ ?_
    rw [← erase_unseen]
    exact length_erase_lt ((reached.mem_unseen_iff tree found).2 fresh)

theorem wellFounded_calls (tree : root.isTree = true) :
    WellFounded fun b a : { visit // Visit.Reached root visit } => Visit.Calls root a.1 b.1 := by
  have smaller : WellFounded (Visit.Smaller root) :=
    InvImage.wf (fun visit : Visit => ((unseen root visit.seen).length, sizeOf visit.value))
      (Prod.lex Nat.lt_wfRel Nat.lt_wfRel).wf
  refine Subrelation.wf ?_ (InvImage.wf Subtype.val smaller)
  intro b a call
  exact call.smaller tree a.2

/-! The recursion and the pointers that are pending. -/

theorem resolveItems_eq_mapM (pending : List Text) (items : List Value) :
    resolveItems root pending items = items.mapM (resolveValue root pending) := by
  induction items with
  | nil => simp [resolveItems, pure, Except.pure]
  | cons v rest ih =>
    rw [resolveItems, List.mapM_cons, ih]
    cases resolveValue root pending v with
    | error e => rfl
    | ok first => cases rest.mapM (resolveValue root pending) <;> rfl

theorem resolveEntries_eq_mapM (pending : List Text) (keep : Bool)
    (entries : List (Value × Value)) :
    resolveEntries root pending keep entries =
      entries.mapM (resolveEntry keep (resolveValue root pending)) := by
  induction entries with
  | nil => simp [resolveEntries, pure, Except.pure]
  | cons e rest ih =>
    rw [resolveEntries, List.mapM_cons, ih, resolveEntry]
    by_cases kept : (keep && e.1.isText "$ref") = true
    · rw [if_pos kept, if_pos kept]
      cases rest.mapM (resolveEntry keep (resolveValue root pending)) <;> rfl
    · rw [if_neg kept, if_neg kept]
      cases resolveValue root pending e.2 with
      | error e => rfl
      | ok first => cases rest.mapM (resolveEntry keep (resolveValue root pending)) <;> rfl

def resolved (root : Value) (visit : Visit) : Except ReadError Value :=
  resolveValue root (unseen root visit.seen) visit.value

theorem resolved_start (root : Value) : resolved root (.start root) = resolve root := by
  unfold resolved resolve unseen
  simp [Visit.start]

theorem resolved_eq {visit : Visit} (tree : root.isTree = true)
    (reached : Visit.Reached root visit) :
    resolved root visit = resolveBy root (resolved root) visit := by
  obtain ⟨seen, v⟩ := visit
  unfold resolved
  cases v with
  | map entries =>
    simp only [resolveValue, resolveBy, resolveEntries_eq_mapM]
    have whole (keep : Bool) :
        ((entries.mapM (resolveEntry keep (resolveValue root (unseen root seen)))).map .map :
          Except ReadError Value) =
        (return .map (← entries.mapM (resolveEntry keep fun v =>
          resolveValue root (unseen root seen) v))) := by
      cases entries.mapM (resolveEntry keep (resolveValue root (unseen root seen))) <;> rfl
    cases found : of? entries with
    | none => exact whole false
    | some pointer =>
      dsimp only
      rw [whole, erase_unseen]
      by_cases followed : pointer ∈ seen
      · have absent := mt (reached.mem_unseen_iff tree found).1 (not_not.2 followed)
        rw [if_neg absent, if_pos followed]
        rfl
      · have pending := (reached.mem_unseen_iff tree found).2 followed
        exact congrArg _ ((if_pos pending).trans (if_neg followed).symm)
  | list items =>
    simp only [resolveValue, resolveBy, resolveItems_eq_mapM]
    cases items.mapM (resolveValue root (unseen root seen)) <;> rfl
  | loop kind levels => cases (reached.part tree).isTree tree
  | _ => simp [resolveValue, resolveBy, pure, Except.pure]

theorem mapM_congr {α β : Type} {f g : α → Except ReadError β} {l : List α}
    (h : ∀ a ∈ l, f a = g a) : l.mapM f = l.mapM g := by
  induction l with
  | nil => rfl
  | cons a rest ih =>
    rw [List.mapM_cons, List.mapM_cons, h a List.mem_cons_self,
      ih fun b listed => h b (List.mem_cons_of_mem _ listed)]

theorem resolveBy_congr {f g : Visit → Except ReadError Value} {visit : Visit}
    (h : ∀ b, visit.Calls root b → f b = g b) :
    resolveBy root f visit = resolveBy root g visit := by
  obtain ⟨seen, v⟩ := visit
  cases v with
  | map entries =>
    simp only [resolveBy]
    cases found : of? entries with
    | none =>
      dsimp only
      rw [mapM_congr (g := resolveEntry false fun v => g ⟨seen, v⟩)]
      intro e listed
      simp only [resolveEntry, h ⟨seen, e.2⟩ (.entry found listed)]
    | some pointer =>
      dsimp only
      cases followed : follow root pointer with
      | error e => rfl
      | ok target =>
        dsimp only
        split
        · rename_i named
          rw [mapM_congr (g := resolveEntry true fun v => g ⟨seen, v⟩)]
          intro e listed
          cases other : e.1.isText "$ref" with
          | true => simp only [resolveEntry, other, Bool.and_self, if_true]
          | false =>
            simp only [resolveEntry, h ⟨seen, e.2⟩ (.sibling found named followed listed other)]
        · rename_i unnamed
          split
          · rfl
          · rename_i fresh
            exact h _ (.target found (by simpa using unnamed) fresh followed)
  | list items =>
    simp only [resolveBy]
    rw [mapM_congr (g := fun v => g ⟨seen, v⟩) fun v listed => h ⟨seen, v⟩ (.item listed)]
  | _ => rfl

/-- A result, or a fault of the document. -/
def Settles {α : Type} (x : Except ReadError α) : Prop :=
  (∃ a, x = .ok a) ∨ ∃ e, x = .error (.document e)

theorem Settles.mapM {α β : Type} {f : α → Except ReadError β} {l : List α}
    (h : ∀ a ∈ l, Settles (f a)) : Settles (l.mapM f) := by
  induction l with
  | nil => exact .inl ⟨[], rfl⟩
  | cons a rest ih =>
    rw [List.mapM_cons]
    rcases h a List.mem_cons_self with ⟨b, first⟩ | ⟨e, first⟩
    · rcases ih fun b listed => h b (List.mem_cons_of_mem _ listed) with ⟨bs, more⟩ | ⟨e, more⟩
      · exact .inl ⟨b :: bs, by rw [first, more]; rfl⟩
      · exact .inr ⟨e, by rw [first, more]; rfl⟩
    · exact .inr ⟨e, by rw [first]; rfl⟩

theorem Settles.map {α β : Type} {x : Except ReadError α} (f : α → β) (h : Settles x) :
    Settles (do return f (← x)) := by
  rcases h with ⟨a, rfl⟩ | ⟨e, rfl⟩
  · exact .inl ⟨f a, rfl⟩
  · exact .inr ⟨e, rfl⟩

theorem settles_resolveBy {f : Visit → Except ReadError Value} {visit : Visit}
    (h : ∀ b, visit.Calls root b → Settles (f b)) : Settles (resolveBy root f visit) := by
  obtain ⟨seen, v⟩ := visit
  cases v with
  | map entries =>
    simp only [resolveBy]
    cases found : of? entries with
    | none =>
      refine .map _ (.mapM fun e listed => ?_)
      simp only [resolveEntry, Bool.false_and, Bool.false_eq_true, if_false]
      exact .map _ (h ⟨seen, e.2⟩ (.entry found listed))
    | some pointer =>
      dsimp only
      cases followed : follow root pointer with
      | error e =>
        dsimp only
        split
        · exact .inr ⟨e, rfl⟩
        · split
          · exact .inl ⟨_, rfl⟩
          · exact .inr ⟨e, rfl⟩
      | ok target =>
        dsimp only
        split
        · rename_i named
          refine .map _ (.mapM fun e listed => ?_)
          cases other : e.1.isText "$ref" with
          | true =>
            simp only [resolveEntry, other, Bool.and_self, if_true]
            exact .inl ⟨e, rfl⟩
          | false =>
            simp only [resolveEntry, other, Bool.and_false, Bool.false_eq_true, if_false]
            exact .map _ (h ⟨seen, e.2⟩ (.sibling found named followed listed other))
        · rename_i unnamed
          split
          · exact .inl ⟨_, rfl⟩
          · rename_i fresh
            exact h _ (.target found (by simpa using unnamed) fresh followed)
  | list items =>
    simp only [resolveBy]
    exact .map _ (.mapM fun v listed => h ⟨seen, v⟩ (.item listed))
  | _ => exact .inl ⟨_, rfl⟩

theorem Visit.Reached.induction {P : Visit → Prop} (tree : root.isTree = true)
    (step : ∀ a, Reached root a → (∀ b, a.Calls root b → P b) → P a) :
    ∀ visit, Reached root visit → P visit := by
  intro visit reached
  refine (wellFounded_calls tree).induction (C := fun a => P a.1) ⟨visit, reached⟩ ?_
  intro a ih
  exact step a.1 a.2 fun b call => ih ⟨b, a.2.tail call⟩ call

theorem resolved_unique {f : Visit → Except ReadError Value} (tree : root.isTree = true)
    (h : ∀ visit, Visit.Reached root visit → f visit = resolveBy root f visit) :
    ∀ visit, Visit.Reached root visit → f visit = resolved root visit := by
  refine Visit.Reached.induction (P := fun visit => f visit = resolved root visit) tree ?_
  intro a reached ih
  rw [h a reached, resolved_eq tree reached]
  exact resolveBy_congr ih

theorem settles_resolved (tree : root.isTree = true) :
    ∀ visit, Visit.Reached root visit → Settles (resolved root visit) := by
  refine Visit.Reached.induction (P := fun visit => Settles (resolved root visit)) tree ?_
  intro a reached ih
  rw [resolved_eq tree reached]
  exact settles_resolveBy ih

end Pointer

open Pointer

/-- Every document without an end of its own is resolved. The recursion follows a pointer once on
each way down, so with every call there are fewer pointers left to follow, or as many and a smaller
value; what it comes to is a document or a fault of this one. -/
theorem resolve_terminates {root : Value} (tree : root.isTree = true) :
    (∀ a b, Visit.Reached root a → a.Calls root b → b.Smaller root a) ∧
    (WellFounded fun b a : { visit // Visit.Reached root visit } => a.1.Calls root b.1) ∧
    (∃ f, (∀ visit, Visit.Reached root visit → f visit = resolveBy root f visit) ∧
      f (.start root) = resolve root) ∧
    (∀ f, (∀ visit, Visit.Reached root visit → f visit = resolveBy root f visit) →
      f (.start root) = resolve root) ∧
    ((∃ v, resolve root = .ok v) ∨ ∃ e, resolve root = .error (.document e)) := by
  have started : Visit.Reached root (.start root) := .refl
  rw [← resolved_start]
  refine ⟨fun a b reached call => call.smaller tree reached, wellFounded_calls tree, ?_, ?_,
    settles_resolved tree _ started⟩
  · exact ⟨resolved root, fun visit => resolved_eq tree, rfl⟩
  · intro f h
    exact resolved_unique tree h _ started

def knot : Value :=
  .ofEntries
    [("left", .ofEntries [("$ref", .str "#/right")]),
      ("right", .ofEntries
        [("back", .ofEntries [("$ref", .str "#/left")]),
          ("self", .ofEntries [("$ref", .str "#/right")]),
          ("part", .ofEntries [("$ref", .str "#/definitions/Part")])]),
      ("definitions", .ofEntries [("Part", .ofEntries [("type", .str "string")])])]

theorem resolve_terminates_knot :
    knot.isTree = true ∧
      (WellFounded fun b a : { visit // Visit.Reached knot visit } => a.1.Calls knot b.1) ∧
      ((∃ v, resolve knot = .ok v) ∨ ∃ e, resolve knot = .error (.document e)) := by
  have tree : knot.isTree = true := by decide
  obtain ⟨-, wellFounded, -, -, settled⟩ := resolve_terminates tree
  exact ⟨tree, wellFounded, settled⟩

end ApiModel

import ApiModel.Proofs.PointerNames
import Mathlib.Data.List.Infix

/-! Resolving a resolved document. Nothing is left to be put in place, and the pointers that stay
are followed in the new document: their targets may have changed, but the way to the schemas is the
same. -/
namespace ApiModel

open Value (Part Keyed)
open Api (Dialect)

namespace Pointer

variable {root v w r target : Value} {seen : List Text} {pointer segment : Text}

/-! One step in a document and in what it is resolved to. -/

theorem itemAt?_map (f : Value → Value) (items : List Value) (index : Int) :
    itemAt? (items.map f) index = (itemAt? items index).map f := by
  unfold itemAt?
  rw [List.length_map]
  dsimp only
  generalize (if index < 0 then index + items.length else index) = place
  split
  · rfl
  · rw [List.getElem?_map]

/-- A list is resolved item by item, and a mapping that is no reference entry by entry. So a step
that can be made is still possible behind the resolution. -/
theorem Resolves.step (h : Resolves root seen v w)
    (stays : ∀ fields, v = .map fields → ¬ IsReference fields)
    (stepped : Pointer.step pointer segment v = .ok target) :
    ∃ target', Pointer.step pointer segment w = .ok target' := by
  cases v with
  | map fields =>
    obtain ⟨entries, rfl, look⟩ := h.lookup (stays fields rfl)
    cases found : Value.lookupText segment fields with
    | none => simp [Pointer.step, found] at stepped
    | some part =>
      obtain ⟨result, there, -⟩ := look segment part found
      exact ⟨_, by simp only [Pointer.step, there]; rfl⟩
  | list items =>
    cases h with
    | scalar _ noList => exact absurd rfl (noList items)
    | list result parts =>
      cases index : Number.integer? segment with
      | none => simp [Pointer.step, index] at stepped
      | some n =>
        cases found : itemAt? items n with
        | none => simp [Pointer.step, index, found] at stepped
        | some item => simp [Pointer.step, index, itemAt?_map, found]
  | _ => cases stepped

/-- The same way leads to a target behind the resolution, if no mapping on it is a reference. Only
the last step may go into a list. -/
theorem Resolves.walk {keys : List Text} (tree : v.isTree = true) (tree' : w.isTree = true)
    (h : Resolves root seen v w)
    (words : ∀ key ∈ keys, unescape key = key ∧ key ≠ "$ref" ∧ Number.integer? key = none)
    (stays : ∀ front fields, front <+: keys → v.descend front = some (.map fields) →
      ¬ IsReference fields)
    (walked : Pointer.walk pointer (keys ++ [segment]) v = .ok target) :
    ∃ target', Pointer.walk pointer (keys ++ [segment]) w = .ok target' := by
  have here : ∀ fields, v = .map fields → ¬ IsReference fields := fun fields same =>
    stays [] fields List.nil_prefix (congrArg some same)
  induction keys generalizing v w with
  | nil =>
    rw [List.nil_append, walk_single] at walked ⊢
    exact h.step here walked
  | cons key rest ih =>
    obtain ⟨⟨word, noPointer, noIndex⟩, words⟩ := List.forall_mem_cons.1 words
    cases v with
    | map fields =>
      obtain ⟨entries, rfl, look⟩ := h.lookup (here fields rfl)
      rw [List.cons_append, walk_map tree, word] at walked
      cases found : Value.lookupText key fields with
      | none => simp [found] at walked
      | some part =>
        obtain ⟨result, there, resolves⟩ := look key part found
        have inner := (Value.part_of_lookupText found).isTree tree
        have below (front : List Text) :
            (Value.map fields).descend (key :: front) = part.descend front := by
          simp only [Value.descend, found, Option.bind_some, Value.within_of_isTree _ inner]
        simp only [found] at walked
        rw [List.cons_append, walk_map tree', word, there]
        have stays' (front : List Text) (others : List (Value × Value)) (ahead : front <+: rest)
            (reached : part.descend front = some (.map others)) : ¬ IsReference others :=
          stays (key :: front) others (List.cons_prefix_cons.2 ⟨rfl, ahead⟩)
            ((below front).trans reached)
        exact ih inner ((Value.part_of_lookupText there).isTree tree')
          (resolves noPointer) words stays'
          walked fun others same => stays' [] others List.nil_prefix (congrArg some same)
    | list items =>
      rw [List.cons_append, Pointer.walk, word] at walked
      simp [Pointer.step, noIndex] at walked
    | _ => cases walked

/-- The mappings on the way to the schemas are no references: neither the document nor those that
hold them. -/
def Placed (root : Value) : Prop :=
  ∀ (dialect : Dialect) (keys : List Text) (fields : List (Value × Value)), keys <+: dialect.place →
    root.descend keys = some (.map fields) → ¬ IsReference fields

def pointer? : Value → Option Text
  | .map entries => of? entries
  | _ => none

theorem placed_of_plain (plain : ∀ dialect : Dialect, ∀ keys ∈ dialect.place.inits,
    (root.descend keys).bind pointer? = none) : Placed root := by
  rintro dialect keys fields ahead found ⟨pointer, own, -⟩
  have absent := plain dialect keys ((List.mem_inits _ _).2 ahead)
  rw [found, Option.bind_some, pointer?, own] at absent
  cases absent

theorem not_cyclic_of_named (followed : Pointer.follow root pointer = .ok target)
    (named : ∀ other ∈ allOf target, (schemaName? other).isSome = true) :
    ¬ Cyclic root pointer := by
  rintro ⟨-, -, cycle⟩
  obtain ⟨other, ⟨_, entries, same, inside, found, unnamed⟩, -⟩ :=
    Relation.TransGen.head'_iff.1 cycle
  obtain rfl := Except.ok.inj (followed.symm.trans same)
  have listed := allOf_subset_of_part inside.part (of?_mem_allOf found)
  simpa [unnamed] using named other listed

theorem place_words (dialect : Dialect) :
    ∀ key ∈ dialect.place, unescape key = key ∧ key ≠ "$ref" ∧ Number.integer? key = none := by
  cases dialect <;> decide

theorem Resolves.follow (tree : root.isTree = true) (placed : Placed root)
    (h : Resolves root [] root r)
    (named : (schemaName? pointer).isSome = true)
    (followed : Pointer.follow root pointer = .ok target) :
    ∃ target', Pointer.follow r pointer = .ok target' := by
  obtain ⟨name, named⟩ := Option.isSome_iff_exists.1 named
  have there (dialect : Dialect) (behind : nameBehind? dialect.lead pointer = some name) :
      ∃ target', Pointer.follow r pointer = .ok target' := by
    obtain ⟨segment, -, path⟩ := Api.follow_of_lead behind
    rw [path] at followed ⊢
    exact h.walk tree (h.isTree tree (.refl _)) (place_words dialect)
      (fun front fields ahead => placed dialect front fields ahead) followed
  rcases Api.nameBehind?_of_schemaName? named .swagger with behind | behind
  · exact there .swagger behind
  · exact there .openApi behind

end Pointer

open Pointer

/-- A resolved document resolves to itself. No reference may lead back to itself or stand in the way
to the schemas. Besides, where references under `$ref` lead to a text, this has to be a pointer to a
schema that is there, since it is a pointer from then on. -/
theorem resolve_resolve {root r : Value} (tree : root.isTree = true) (keyed : Keyed root)
    (acyclic : ∀ pointer ∈ allOf root, ¬ Cyclic root pointer) (placed : Placed root)
    (done : resolve root = .ok r)
    (spelled : ∀ entries text, Part r (.map entries) → of? entries = some text →
      Spelled root entries text →
      (schemaName? text).isSome = true ∧ ∃ target, follow root text = .ok target) :
    resolve r = .ok r := by
  rw [← resolved_start] at done
  have resolves : Resolves root [] root r := resolves_of_resolved tree _ .refl r done
  have kept : ∀ pointer ∈ allOf r,
      (schemaName? pointer).isSome = true ∧ ∃ target, follow root pointer = .ok target := by
    intro pointer listed
    obtain ⟨entries, part, holds⟩ := Api.exists_part_of_mem_allOf listed
    rcases leftover_of_acyclic tree keyed acyclic resolves part holds with ⟨-, preserved⟩ | text
    · exact preserved
    · exact spelled entries pointer part holds text
  refine resolveValue_of_sound _ ⟨resolves.isTree tree (.refl _), ?_⟩ fun pointer listed =>
    (kept pointer listed).1
  intro pointer listed
  obtain ⟨named, target, followed⟩ := kept pointer listed
  exact resolves.follow tree placed named followed

def woodReference : Value := .ofEntries [("$ref", .str "#/definitions/Wood")]

def scrapbookOf (cover back : Value) : Value :=
  .ofEntries
    [("cover", cover), ("back", back), ("frame", .ofEntries [("of", woodReference)]),
      ("label", .str "#/definitions/Wood"), ("definitions", .ofEntries [("Wood", .ofEntries [])])]

def scrapbook : Value :=
  scrapbookOf (.ofEntries [("$ref", .str "#/frame")])
    (.ofEntries [("$ref", .ofEntries [("$ref", .str "#/label")])])

def resolvedScrapbook : Value := scrapbookOf (.ofEntries [("of", woodReference)]) woodReference

theorem resolve_scrapbook : resolve scrapbook = .ok resolvedScrapbook := by
  have pending : (allOf scrapbook).eraseDups =
      [Text.ofString "#/frame", Text.ofString "#/label",
        Text.ofString "#/definitions/Wood"] := by decide
  rw [resolve, pending]
  generalize given : [Text.ofString "#/frame", Text.ofString "#/label",
    Text.ofString "#/definitions/Wood"] = pending
  have frame (pending : List Text) :
      resolveValue scrapbook pending (.ofEntries [("of", woodReference)]) =
      .ok (.ofEntries [("of", woodReference)]) := resolveValue_eq_self pending rfl (by decide)
  have cover : resolveValue scrapbook pending (.ofEntries [("$ref", .str "#/frame")]) =
      .ok (.ofEntries [("of", woodReference)]) :=
    (resolveValue_target rfl rfl (by rw [← given]; decide) rfl).trans (frame _)
  have label : resolveValue scrapbook pending (.ofEntries [("$ref", .str "#/label")]) =
      .ok (.str "#/definitions/Wood") :=
    (resolveValue_target rfl rfl (by rw [← given]; decide) rfl).trans (resolveValue_str _)
  have back : resolveValue scrapbook pending
      (.ofEntries [("$ref", .ofEntries [("$ref", .str "#/label")])]) = .ok woodReference := by
    refine (resolveValue_plain rfl).trans ?_
    simp only [List.map_cons, List.map_nil, resolveEntries, Bool.false_and,
      Bool.false_eq_true, if_false, label]
    rfl
  have definitions : resolveValue scrapbook pending (.ofEntries [("Wood", .ofEntries [])]) =
      .ok (.ofEntries [("Wood", .ofEntries [])]) := resolveValue_eq_self pending rfl (by decide)
  refine (resolveValue_plain rfl).trans ?_
  simp only [List.map_cons, List.map_nil, resolveEntries, Bool.false_and,
    Bool.false_eq_true, if_false, cover, back, frame, resolveValue_str, definitions]
  rfl

theorem resolve_resolve_scrapbook :
    resolve scrapbook = .ok resolvedScrapbook ∧
      resolve resolvedScrapbook = .ok resolvedScrapbook := by
  refine ⟨resolve_scrapbook,
    resolve_resolve rfl (Value.keyed_of_written rfl) ?_ ?_ resolve_scrapbook ?_⟩
  · have pointers : allOf scrapbook = [Text.ofString "#/frame", Text.ofString "#/label",
        Text.ofString "#/definitions/Wood"] := by decide
    rw [pointers]
    simp only [List.forall_mem_cons]
    refine ⟨not_cyclic_of_named rfl (by decide), not_cyclic_of_named rfl (by decide),
      not_cyclic_of_named rfl (by decide), by simp⟩
  · apply placed_of_plain
    intro dialect
    cases dialect <;> decide
  · intro entries text part holds _
    have listed := allOf_subset_of_part part (of?_mem_allOf holds)
    have only : ∀ pointer ∈ allOf resolvedScrapbook, pointer = "#/definitions/Wood" := by decide
    obtain rfl := only text listed
    exact ⟨rfl, _, rfl⟩

/-- The text that came to stand under `$ref` is followed the next time, and it leads out of the
document. -/
theorem not_resolve_resolve_spelledLink :
    spelledLink.isTree = true ∧ Keyed spelledLink ∧
      (∀ pointer ∈ allOf spelledLink, ¬ Cyclic spelledLink pointer) ∧ Placed spelledLink ∧
      ∃ r, resolve spelledLink = .ok r ∧
        resolve r = .error (.document (.externalPointer "http://elsewhere")) := by
  refine ⟨rfl, Value.keyed_of_written rfl, ?_, ?_, _, resolve_spelledLink, ?_⟩
  · have pointers : allOf spelledLink = [Text.ofString "#/address"] := by decide
    rw [pointers]
    simp only [List.forall_mem_cons]
    exact ⟨not_cyclic_of_named rfl (by decide), by simp⟩
  · apply placed_of_plain
    intro dialect
    cases dialect <;> decide
  · have pending : (allOf openLink).eraseDups = [Text.ofString "http://elsewhere"] := by decide
    have link : resolveValue openLink [Text.ofString "http://elsewhere"]
        (.ofEntries [("$ref", .str "http://elsewhere")]) =
          .error (.document (.externalPointer "http://elsewhere")) :=
      resolveValue_lost rfl rfl (by decide) rfl
    rw [resolve, pending]
    refine (resolveValue_plain rfl).trans ?_
    simp only [List.map_cons, List.map_nil, resolveEntries, Bool.false_and,
      Bool.false_eq_true, if_false, link]
    rfl

end ApiModel

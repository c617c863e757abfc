import ApiModel.Proofs.DialectConversion

/-! What a resolved document still refers to. A pointer to a schema stays, and so does a pointer
that comes up again below its own target; any other is followed. Besides, what stands under `$ref`
may be a reference itself. Then it is resolved like any other value, and a text that comes to stand
there is not followed. -/
namespace ApiModel

namespace Value

/-- The parts of a value that lie inside no mapping of some kind. -/
inductive Outer (closed : List (Value × Value) → Prop) : Value → Value → Prop where
  | refl (v : Value) : Outer closed v v
  | item {items : List Value} {v part : Value} (listed : v ∈ items) (inner : Outer closed v part) :
      Outer closed (list items) part
  | entry {entries : List (Value × Value)} {e : Value × Value} {part : Value}
      (opened : ¬ closed entries) (listed : e ∈ entries) (inner : Outer closed e.2 part) :
      Outer closed (map entries) part

variable {closed : List (Value × Value) → Prop} {a b c : Value}

theorem Outer.trans (h : Outer closed a b) (h' : Outer closed b c) : Outer closed a c := by
  induction h with
  | refl v => exact h'
  | item listed _ ih => exact .item listed (ih h')
  | entry opened listed _ ih => exact .entry opened listed (ih h')

theorem Outer.part (h : Outer closed a b) : Part a b := by
  induction h with
  | refl v => exact .refl v
  | item listed _ ih => exact .item listed ih
  | entry _ listed _ ih => exact .entry listed ih

theorem Part.outer (none : ∀ entries, ¬ closed entries) (h : Part a b) : Outer closed a b := by
  induction h with
  | refl v => exact .refl v
  | item listed _ ih => exact .item listed ih
  | entry listed _ ih => exact .entry (none _) listed ih

end Value

open Value (Part Outer Keyed)
open Relation (TransGen ReflTransGen)

namespace Pointer

variable {root v r : Value} {seen : List Text} {entries : List (Value × Value)} {pointer : Text}

/-! References and where they lead. -/

/-- A mapping in whose place its target is put: its pointer names no schema. -/
def IsReference (entries : List (Value × Value)) : Prop :=
  ∃ pointer, of? entries = some pointer ∧ schemaName? pointer = none

/-- From a reference to its target. -/
def Jumps (root v target : Value) : Prop :=
  ∃ entries pointer, v = .map entries ∧ of? entries = some pointer ∧ schemaName? pointer = none ∧
    follow root pointer = .ok target

/-- The target of one pointer holds a reference with the other, outside of any other reference. -/
def Refers (root : Value) (pointer other : Text) : Prop :=
  ∃ target entries, follow root pointer = .ok target ∧ Outer IsReference target (.map entries) ∧
    of? entries = some other ∧ schemaName? other = none

/-- A reference that is left in place, since its pointer was followed on the way to it. -/
def Left (root : Value) (entries : List (Value × Value)) : Prop :=
  ∃ seen pointer, Visit.Reached root ⟨seen, .map entries⟩ ∧ of? entries = some pointer ∧
    schemaName? pointer = none ∧ pointer ∈ seen

/-- A pointer of the document to a schema that is there. -/
def Preserved (root : Value) (pointer : Text) : Prop :=
  pointer ∈ allOf root ∧ (schemaName? pointer).isSome = true ∧
    ∃ target, follow root pointer = .ok target

/-- A pointer to no schema, from whose target references lead to the pointer again. -/
def Cyclic (root : Value) (pointer : Text) : Prop :=
  schemaName? pointer = none ∧ (∃ target, follow root pointer = .ok target) ∧
    TransGen (Refers root) pointer pointer

/-- A text to which the references lead that stand under `$ref` in a mapping of the document;
`entries` is what becomes of the mapping. -/
def Spelled (root : Value) (entries : List (Value × Value)) (text : Text) : Prop :=
  ∃ origin v, Part root (.map origin) ∧ origin.map Prod.fst = entries.map Prod.fst ∧
    Value.lookupText "$ref" origin = some v ∧ TransGen (Jumps root) v (.str text)

/-! What a value is resolved to. -/

/-- The result for a value, where some pointers were followed on the way to it. -/
inductive Resolves (root : Value) : List Text → Value → Value → Prop where
  | scalar {seen : List Text} {v : Value} (noMap : ∀ entries, v ≠ .map entries)
      (noList : ∀ items, v ≠ .list items) : Resolves root seen v v
  | list {seen : List Text} {items : List Value} (result : Value → Value)
      (parts : ∀ v ∈ items, Resolves root seen v (result v)) :
      Resolves root seen (.list items) (.list (items.map result))
  | plain {seen : List Text} {entries : List (Value × Value)} (result : Value → Value)
      (none : of? entries = none) (parts : ∀ e ∈ entries, Resolves root seen e.2 (result e.2)) :
      Resolves root seen (.map entries) (.map (entries.map fun e => (e.1, result e.2)))
  | named {seen : List Text} {entries : List (Value × Value)} {pointer : Text} {target : Value}
      (result : Value → Value) (found : of? entries = some pointer)
      (named : (schemaName? pointer).isSome = true) (followed : follow root pointer = .ok target)
      (parts : ∀ e ∈ entries, e.1.isText "$ref" = false → Resolves root seen e.2 (result e.2)) :
      Resolves root seen (.map entries)
        (.map (entries.map fun e => (e.1, if e.1.isText "$ref" then e.2 else result e.2)))
  | left {seen : List Text} {entries : List (Value × Value)} {pointer : Text}
      (found : of? entries = some pointer) (unnamed : schemaName? pointer = none)
      (again : pointer ∈ seen) : Resolves root seen (.map entries) (.map entries)
  | target {seen : List Text} {entries : List (Value × Value)} {pointer : Text} {target r : Value}
      (found : of? entries = some pointer) (unnamed : schemaName? pointer = none)
      (fresh : pointer ∉ seen) (followed : follow root pointer = .ok target)
      (next : Resolves root (pointer :: seen) target r) : Resolves root seen (.map entries) r

theorem eq_map_of_mapM {α β : Type} {f : α → Except ReadError β} {result : α → β} {l : List α}
    {l' : List β} (done : l.mapM f = .ok l') (each : ∀ a ∈ l, ∀ b, f a = .ok b → b = result a) :
    l' = l.map result := by
  induction mapM_eq_ok_iff.1 done with
  | nil => rfl
  | @cons a b rest more first others ih =>
    rw [List.map_cons, each a List.mem_cons_self b first,
      ih (mapM_eq_ok_iff.2 others) fun a listed => each a (List.mem_cons_of_mem _ listed)]

def resultOf (root : Value) (seen : List Text) (v : Value) : Value :=
  (resolved root ⟨seen, v⟩).toOption.getD .null

theorem resultOf_eq (done : resolved root ⟨seen, v⟩ = .ok r) : resultOf root seen v = r := by
  rw [resultOf, done]
  rfl

theorem entries_of_mapM {keep : Bool} {entries' : List (Value × Value)}
    (done : entries.mapM (resolveEntry keep fun v => resolved root ⟨seen, v⟩) = .ok entries') :
    entries' = entries.map (fun e =>
      (e.1, if (keep && e.1.isText "$ref") = true then e.2 else resultOf root seen e.2)) ∧
    ∀ e ∈ entries, (keep && e.1.isText "$ref") = false →
      resolved root ⟨seen, e.2⟩ = .ok (resultOf root seen e.2) := by
  have one (e e' : Value × Value)
      (made : resolveEntry keep (fun v => resolved root ⟨seen, v⟩) e = .ok e') :
      e' = (e.1, if (keep && e.1.isText "$ref") = true then e.2 else resultOf root seen e.2) ∧
        ((keep && e.1.isText "$ref") = false →
          resolved root ⟨seen, e.2⟩ = .ok (resultOf root seen e.2)) := by
    unfold resolveEntry at made
    split at made
    · rename_i kept
      cases made
      simp [kept]
    · rename_i other
      obtain ⟨w, result, same⟩ := bind_eq_ok_iff.1 made
      cases same
      rw [if_neg other, resultOf_eq result]
      exact ⟨rfl, fun _ => result⟩
  constructor
  · exact eq_map_of_mapM done fun e _ e' made => (one e e' made).1
  · intro e listed other
    obtain ⟨e', made⟩ := mapM_isOk_iff.1 ⟨_, done⟩ e listed
    exact (one e e' made).2 other

theorem resolves_of_resolved (tree : root.isTree = true) :
    ∀ visit, Visit.Reached root visit → ∀ r, resolved root visit = .ok r →
      Resolves root visit.seen visit.value r := by
  refine Visit.Reached.induction (P := fun visit => ∀ r, resolved root visit = .ok r →
    Resolves root visit.seen visit.value r) tree ?_
  rintro ⟨seen, v⟩ reached ih r done
  rw [resolved_eq tree reached] at done
  cases v with
  | map entries =>
    simp only [resolveBy] at done
    cases found : of? entries with
    | none =>
      simp only [found] at done
      obtain ⟨entries', each, same⟩ := bind_eq_ok_iff.1 done
      obtain ⟨rfl, parts⟩ := entries_of_mapM each
      cases same
      simp only [Bool.false_and, Bool.false_eq_true, if_false] at *
      exact .plain _ found fun e listed => ih _ (.entry found listed) _ (parts e listed trivial)
    | some pointer =>
      simp only [found] at done
      split at done
      · rename_i named
        cases followed : follow root pointer with
        | error e => simp [followed] at done
        | ok target =>
          simp only [followed] at done
          obtain ⟨entries', each, same⟩ := bind_eq_ok_iff.1 done
          obtain ⟨rfl, parts⟩ := entries_of_mapM each
          cases same
          simp only [Bool.true_and] at *
          exact .named _ found named followed fun e listed other =>
            ih _ (.sibling found named followed listed other) _ (parts e listed other)
      · rename_i unnamed
        have unnamed : schemaName? pointer = none := by simpa using unnamed
        split at done
        · rename_i again
          cases done
          exact .left found unnamed again
        · rename_i fresh
          cases followed : follow root pointer with
          | error e => simp [followed] at done
          | ok target =>
            simp only [followed] at done
            exact .target found unnamed fresh followed
              (ih _ (.target found unnamed fresh followed) r done)
  | list items =>
    simp only [resolveBy] at done
    obtain ⟨items', each, same⟩ := bind_eq_ok_iff.1 done
    obtain rfl : items' = items.map (resultOf root seen) :=
      eq_map_of_mapM each fun v _ w made => (resultOf_eq made).symm
    cases same
    refine .list _ fun v listed => ?_
    obtain ⟨w, made⟩ := mapM_isOk_iff.1 ⟨_, each⟩ v listed
    rw [resultOf_eq made]
    exact ih _ (.item listed) w made
  | _ =>
    cases done
    exact .scalar (by simp) (by simp)

/-! References that come up again. -/

/-- From the target of a pointer, references lead to a value. -/
def Leads (root : Value) (pointer : Text) (v : Value) : Prop :=
  ∃ last target, ReflTransGen (Refers root) pointer last ∧ follow root last = .ok target ∧
    Outer IsReference target v

theorem Leads.outer {w : Value} (h : Leads root pointer v) (inner : Outer IsReference v w) :
    Leads root pointer w := by
  obtain ⟨last, target, way, followed, there⟩ := h
  exact ⟨last, target, way, followed, there.trans inner⟩

theorem Leads.refers {other : Text} (h : Leads root pointer (.map entries))
    (found : of? entries = some other) (unnamed : schemaName? other = none) :
    TransGen (Refers root) pointer other := by
  obtain ⟨last, target, way, followed, there⟩ := h
  exact .tail' way ⟨target, entries, followed, there, found, unnamed⟩

theorem not_isReference_of_named (found : of? entries = some pointer)
    (named : (schemaName? pointer).isSome = true) : ¬ IsReference entries := by
  rintro ⟨other, same, unnamed⟩
  rw [found] at same
  cases same
  rw [unnamed] at named
  cases named

theorem not_isReference_of_none (none : of? entries = none) : ¬ IsReference entries := by
  rintro ⟨other, same, -⟩
  rw [none] at same
  cases same

theorem Visit.Reached.leads {visit : Visit} (h : Reached root visit) :
    ∀ pointer ∈ visit.seen, Leads root pointer visit.value := by
  induction h with
  | refl =>
    intro pointer seen
    cases seen
  | tail _ call ih =>
    intro pointer seen
    cases call with
    | item listed => exact (ih pointer seen).outer (.item listed (.refl _))
    | entry plain listed =>
      exact (ih pointer seen).outer (.entry (not_isReference_of_none plain) listed (.refl _))
    | sibling found named followed listed other =>
      exact (ih pointer seen).outer (.entry (not_isReference_of_named found named) listed (.refl _))
    | target found unnamed fresh followed =>
      rcases List.mem_cons.1 seen with rfl | earlier
      · exact ⟨_, _, .refl, followed, .refl _⟩
      · exact ⟨_, _, ((ih pointer earlier).refers found unnamed).to_reflTransGen, followed, .refl _⟩

theorem cyclic_of_left (h : Left root entries) (found : of? entries = some pointer) :
    Cyclic root pointer := by
  obtain ⟨seen, other, reached, same, unnamed, again⟩ := h
  rw [found] at same
  cases same
  have cycle := (reached.leads pointer again).refers found unnamed
  obtain ⟨next, ⟨target, _, followed, -⟩, -⟩ := TransGen.head'_iff.1 cycle
  exact ⟨unnamed, ⟨target, followed⟩, cycle⟩

theorem mem_allOf_of_cyclic (tree : root.isTree = true) (h : Cyclic root pointer) :
    pointer ∈ allOf root := by
  obtain ⟨-, -, cycle⟩ := h
  obtain ⟨last, -, target, entries, followed, there, found, -⟩ := TransGen.tail'_iff.1 cycle
  have part := (part_of_follow tree followed).trans there.part
  exact allOf_subset_of_part part (of?_mem_allOf found)

/-! Pointers of the result. -/

theorem jumps_of_resolves {text : Text} (h : Resolves root seen v (.str text)) :
    ReflTransGen (Jumps root) v (.str text) := by
  generalize same : Value.str text = result at h
  induction h with
  | scalar _ _ => exact same ▸ .refl
  | target found unnamed fresh followed _ ih =>
    exact .head ⟨_, _, rfl, found, unnamed, followed⟩ (ih same)
  | _ => cases same

theorem of?_map_unpinned (result : Value → Value) (entries : List (Value × Value)) :
    of? (entries.map fun e => (e.1, if e.1.isText "$ref" then e.2 else result e.2)) =
      of? entries := by
  have kept : (Value.str "$ref").isText "$ref" = true := by simp [Value.isText]
  rw [of?, of?, Value.lookupText_map fun k v => if k.isText "$ref" then v else result v]
  cases Value.lookupText "$ref" entries with
  | none => rfl
  | some v => simp only [Option.map_some, kept, if_true]

theorem spelled_of_plain {origin : List (Value × Value)} {result : Value → Value} {found : Text}
    (there : Part root (.map origin)) (none : of? origin = none)
    (parts : ∀ e ∈ origin, Resolves root seen e.2 (result e.2))
    (holds : of? (origin.map fun e => (e.1, result e.2)) = some found) :
    Spelled root (origin.map fun e => (e.1, result e.2)) found := by
  rw [of?, Value.lookupText_map fun _ v => result v] at holds
  cases given : Value.lookupText "$ref" origin with
  | none => simp [given] at holds
  | some v =>
    obtain ⟨k, listed, -⟩ := Value.exists_of_lookupText given
    have resolves := parts (k, v) listed
    simp only [given, Option.map_some] at holds
    cases made : result v with
    | str text =>
      simp only [made, Option.some.injEq] at holds
      dsimp only at resolves
      rw [made] at resolves
      subst holds
      refine ⟨origin, v, there, by simp, given, ?_⟩
      rcases Relation.reflTransGen_iff_eq_or_transGen.1 (jumps_of_resolves resolves) with same | way
      · rw [of?, given, ← same] at none
        cases none
      · exact way
    | _ => simp [made] at holds

theorem leftover (tree : root.isTree = true) (keyed : Keyed root) {found : Text}
    (reached : Visit.Reached root ⟨seen, v⟩) (h : Resolves root seen v r)
    (outer : Outer (Left root) r (.map entries)) (holds : of? entries = some found) :
    Preserved root found ∨ Cyclic root found ∨ Spelled root entries found := by
  induction h with
  | scalar noMap noList =>
    cases outer with
    | refl => exact absurd rfl (noMap _)
    | item listed inner => exact absurd rfl (noList _)
    | entry opened listed inner => exact absurd rfl (noMap _)
  | list result parts ih =>
    cases outer with
    | item listed inner =>
      obtain ⟨v, there, rfl⟩ := List.mem_map.1 listed
      exact ih v there (reached.tail (.item there)) inner
  | @plain seen origin result none parts ih =>
    cases outer with
    | refl => exact .inr (.inr (spelled_of_plain (reached.part tree) none parts holds))
    | entry opened listed inner =>
      obtain ⟨e, there, rfl⟩ := List.mem_map.1 listed
      exact ih e there (reached.tail (.entry none there)) inner
  | @named seen origin pointer target result own named followed parts ih =>
    cases outer with
    | refl =>
      rw [of?_map_unpinned, own] at holds
      cases holds
      exact .inl ⟨allOf_subset_of_part (reached.part tree) (of?_mem_allOf own), named,
        target, followed⟩
    | entry opened listed inner =>
      obtain ⟨e, there, rfl⟩ := List.mem_map.1 listed
      cases pinned : e.1.isText "$ref" with
      | true =>
        -- the entry that is kept is the pointer itself
        rw [if_pos pinned,
          eq_str_of_pinned (keyed.part (reached.part tree)) there pinned own] at inner
        cases inner
      | false =>
        simp only [pinned, Bool.false_eq_true, if_false] at inner
        exact ih e there pinned (reached.tail (.sibling own named followed there pinned)) inner
  | @left seen origin pointer own unnamed again =>
    have left : Left root origin := ⟨seen, pointer, reached, own, unnamed, again⟩
    cases outer with
    | refl => exact .inr (.inl (cyclic_of_left left holds))
    | entry opened listed inner => exact absurd left opened
  | target own unnamed fresh followed _ ih =>
    exact ih (reached.tail (.target own unnamed fresh followed)) outer

theorem not_left_of_acyclic (tree : root.isTree = true)
    (acyclic : ∀ pointer ∈ allOf root, ¬ Cyclic root pointer) (entries : List (Value × Value)) :
    ¬ Left root entries := by
  intro left
  have ⟨_, pointer, _, found, _⟩ := left
  have cyclic := cyclic_of_left left found
  exact acyclic pointer (mem_allOf_of_cyclic tree cyclic) cyclic

theorem leftover_of_acyclic (tree : root.isTree = true) (keyed : Keyed root)
    (acyclic : ∀ pointer ∈ allOf root, ¬ Cyclic root pointer) (resolves : Resolves root [] root r)
    (part : Part r (.map entries)) (holds : of? entries = some pointer) :
    Preserved root pointer ∨ Spelled root entries pointer := by
  have outer := part.outer (not_left_of_acyclic tree acyclic)
  rcases leftover tree keyed .refl resolves outer holds with preserved | cyclic | spelled
  · exact .inl preserved
  · exact absurd cyclic (acyclic pointer (mem_allOf_of_cyclic tree cyclic))
  · exact .inr spelled

/-! One step of the resolution. -/

section Step

variable {pending : List Text} {target : Value}

theorem resolveValue_str (text : Text) :
    resolveValue root pending (.str text) = .ok (.str text) := by
  rw [resolveValue] <;> simp

theorem resolveValue_plain (plain : of? entries = none) :
    resolveValue root pending (.map entries) =
      (resolveEntries root pending false entries).map .map := by
  rw [resolveValue, plain]

theorem resolveValue_named (found : of? entries = some pointer)
    (named : (schemaName? pointer).isSome = true) (followed : follow root pointer = .ok target) :
    resolveValue root pending (.map entries) =
      (resolveEntries root pending true entries).map .map := by
  rw [resolveValue]
  simp only [found, named, followed, if_true]

theorem resolveValue_left (found : of? entries = some pointer)
    (unnamed : schemaName? pointer = none) (again : pointer ∉ pending) :
    resolveValue root pending (.map entries) = .ok (.map entries) := by
  rw [resolveValue]
  simp [found, unnamed, again]

theorem resolveValue_target (found : of? entries = some pointer)
    (unnamed : schemaName? pointer = none) (fresh : pointer ∈ pending)
    (followed : follow root pointer = .ok target) :
    resolveValue root pending (.map entries) =
      resolveValue root (pending.erase pointer) target := by
  rw [resolveValue]
  simp [found, unnamed, fresh, followed]

theorem resolveValue_lost {e : DocumentError} (found : of? entries = some pointer)
    (unnamed : schemaName? pointer = none) (fresh : pointer ∈ pending)
    (failed : follow root pointer = .error e) :
    resolveValue root pending (.map entries) = .error (.document e) := by
  rw [resolveValue]
  simp [found, unnamed, fresh, failed]

end Step

end Pointer

open Pointer

/-- What a resolved document refers to. Outside of references that are left in place, every pointer
names a schema that is there, or it leads to a place from where references lead back to it, or it is
a text that references under `$ref` lead to. Where no reference leads back to itself, nothing is
left in place, and the first and the last are the only cases. -/
theorem resolve_leaves {root r : Value} (tree : root.isTree = true) (keyed : Keyed root)
    (done : resolve root = .ok r) :
    (∀ entries pointer, Outer (Left root) r (.map entries) → of? entries = some pointer →
      Preserved root pointer ∨ Cyclic root pointer ∨ Spelled root entries pointer) ∧
    ((∀ pointer ∈ allOf root, ¬ Cyclic root pointer) →
      ∀ entries pointer, Part r (.map entries) → of? entries = some pointer →
        Preserved root pointer ∨ Spelled root entries pointer) := by
  rw [← resolved_start] at done
  have resolves := resolves_of_resolved tree _ .refl r done
  constructor
  · intro entries pointer outer holds
    exact leftover tree keyed .refl resolves outer holds
  · intro acyclic entries pointer part holds
    exact leftover_of_acyclic tree keyed acyclic resolves part holds

/-- A link of a chain. It refers to the next link and to a schema. -/
def linkTo (next : Value) : Value :=
  .ofEntries [("next", next), ("of", .ofEntries [("$ref", .str "#/definitions/Metal")])]

def chainOf (link : Value) : Value :=
  .ofEntries [("link", link), ("definitions", .ofEntries [("Metal", .ofEntries [])])]

def chain : Value := chainOf (linkTo (.ofEntries [("$ref", .str "#/link")]))

theorem resolveValue_linkTo {pending : List Text} {next r : Value}
    (done : resolveValue chain pending next = .ok r) :
    resolveValue chain pending (linkTo next) = .ok (linkTo r) := by
  have metal : resolveValue chain pending (.ofEntries [("$ref", .str "#/definitions/Metal")]) =
      .ok (.ofEntries [("$ref", .str "#/definitions/Metal")]) := by
    refine (resolveValue_named rfl rfl rfl).trans ?_
    simp only [List.map_cons, List.map_nil, resolveEntries]
    rfl
  refine (resolveValue_plain rfl).trans ?_
  simp only [List.map_cons, List.map_nil, resolveEntries, Bool.false_and, Bool.false_eq_true,
    if_false, done, metal]
  rfl

theorem resolve_chain :
    resolve chain = .ok (chainOf (linkTo (linkTo (.ofEntries [("$ref", .str "#/link")])))) := by
  have pending : (allOf chain).eraseDups =
      [Text.ofString "#/link", Text.ofString "#/definitions/Metal"] := by decide
  have last : resolveValue chain
      ([Text.ofString "#/link", Text.ofString "#/definitions/Metal"].erase "#/link")
      (.ofEntries [("$ref", .str "#/link")]) = .ok (.ofEntries [("$ref", .str "#/link")]) :=
    resolveValue_left rfl rfl (by decide)
  have next : resolveValue chain [Text.ofString "#/link", Text.ofString "#/definitions/Metal"]
      (.ofEntries [("$ref", .str "#/link")]) =
        .ok (linkTo (.ofEntries [("$ref", .str "#/link")])) :=
    (resolveValue_target rfl rfl (by decide) rfl).trans
      (resolveValue_linkTo last)
  have link := resolveValue_linkTo next
  rw [resolve, pending]
  refine (resolveValue_plain rfl).trans ?_
  simp only [List.map_cons, List.map_nil, resolveEntries, Bool.false_and, Bool.false_eq_true,
    if_false, link]
  rw [resolveValue_of_sound _ ⟨rfl, fun _ listed => absurd listed List.not_mem_nil⟩ (by decide)]
  rfl

theorem resolve_leaves_chain :
    (∀ entries pointer,
      Outer (Left chain) (chainOf (linkTo (linkTo (.ofEntries [("$ref", .str "#/link")]))))
        (.map entries) → of? entries = some pointer →
      Preserved chain pointer ∨ Cyclic chain pointer ∨ Spelled chain entries pointer) ∧
    ((∀ pointer ∈ allOf chain, ¬ Cyclic chain pointer) →
      ∀ entries pointer,
        Part (chainOf (linkTo (linkTo (.ofEntries [("$ref", .str "#/link")])))) (.map entries) →
        of? entries = some pointer → Preserved chain pointer ∨ Spelled chain entries pointer) :=
  resolve_leaves rfl (Value.keyed_of_written rfl) resolve_chain

def spelledLink : Value :=
  .ofEntries
    [("link", .ofEntries [("$ref", .ofEntries [("$ref", .str "#/address")])]),
      ("address", .str "http://elsewhere")]

def openLink : Value :=
  .ofEntries
    [("link", .ofEntries [("$ref", .str "http://elsewhere")]), ("address", .str "http://elsewhere")]

theorem resolve_spelledLink : resolve spelledLink = .ok openLink := by
  have pending : (allOf spelledLink).eraseDups = [Text.ofString "#/address"] := by decide
  have target : resolveValue spelledLink [Text.ofString "#/address"]
      (.ofEntries [("$ref", .str "#/address")]) = .ok (.str "http://elsewhere") :=
    (resolveValue_target rfl rfl (by decide) rfl).trans (resolveValue_str _)
  have link : resolveValue spelledLink [Text.ofString "#/address"]
      (.ofEntries [("$ref", .ofEntries [("$ref", .str "#/address")])]) =
        .ok (.ofEntries [("$ref", .str "http://elsewhere")]) := by
    refine (resolveValue_plain rfl).trans ?_
    simp only [List.map_cons, List.map_nil, resolveEntries, Bool.false_and, Bool.false_eq_true,
      if_false, target]
    rfl
  rw [resolve, pending]
  refine (resolveValue_plain rfl).trans ?_
  simp only [List.map_cons, List.map_nil, resolveEntries, Bool.false_and, Bool.false_eq_true,
    if_false, link, resolveValue_str]
  rfl

/-- The text is no pointer into the document. -/
theorem not_resolve_leaves_spelledLink :
    ∃ r entries, resolve spelledLink = .ok r ∧ Outer (Left spelledLink) r (.map entries) ∧
      of? entries = some "http://elsewhere" ∧ ¬ Preserved spelledLink "http://elsewhere" ∧
      ¬ Cyclic spelledLink "http://elsewhere" := by
  refine ⟨_, [(.str "$ref", .str "http://elsewhere")], resolve_spelledLink, ?_, rfl, ?_, ?_⟩
  · refine .entry ?_ List.mem_cons_self (.refl _)
    rintro ⟨_, _, -, found, -⟩
    cases found
  · rintro ⟨-, -, target, followed⟩
    cases followed
  · rintro ⟨-, ⟨target, followed⟩, -⟩
    cases followed

end ApiModel

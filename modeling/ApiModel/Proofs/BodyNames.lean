import ApiModel.Proofs.Classification
import ApiModel.Proofs.Effects
import ApiModel.Proofs.EmittedName
import ApiModel.Proofs.NameRoots

/-! The names of inline bodies. A body of a response is named after its status code and its place in
the unions around it, and all that it consists of is named after the body. No such name begins with
another, so the bodies of an operation share no names and cannot contradict each other. -/
namespace ApiModel

theorem Text.eq_of_append_cons_prefix {front front' rest rest' : Text} {c c' : CodePoint}
    (inFront : CodePoint → Bool) (within : ∀ a ∈ front, inFront a = true)
    (within' : ∀ a ∈ front', inFront a = true) (outside : inFront c = false)
    (outside' : inFront c' = false) (h : front ++ c :: rest <+: front' ++ c' :: rest') :
    front = front' ∧ rest <+: rest' := by
  induction front generalizing front' with
  | nil =>
    cases front' with
    | nil => exact ⟨rfl, (List.cons_prefix_cons.1 h).2⟩
    | cons a more =>
      obtain ⟨rfl, -⟩ := List.cons_prefix_cons.1 h
      exact absurd (within' c List.mem_cons_self) (by simp [outside])
  | cons a more ih =>
    cases front' with
    | nil =>
      obtain ⟨rfl, -⟩ := List.cons_prefix_cons.1 h
      exact absurd (within a List.mem_cons_self) (by simp [outside'])
    | cons a' more' =>
      obtain ⟨rfl, later⟩ := List.cons_prefix_cons.1 h
      obtain ⟨rfl, others⟩ :=
        ih (List.forall_mem_cons.1 within).2 (List.forall_mem_cons.1 within').2
        later
      exact ⟨rfl, others⟩

namespace Text

def isDigitOr (mark c : CodePoint) : Bool := c.isDigit || c = mark

theorem isDigitOr_of_mem_ofNat {n : Nat} {mark c : CodePoint} (h : c ∈ ofNat n) :
    isDigitOr mark c = true := by
  simp [isDigitOr, isDigit_of_mem_ofNat h]

theorem isDigitOr_of_mem_ofInt {n : Int} {c : CodePoint} (h : c ∈ ofInt n) :
    isDigitOr '-' c = true := by
  cases n with
  | ofNat n => exact isDigitOr_of_mem_ofNat h
  | negSucc n =>
    rw [ofInt_negSucc] at h
    rcases List.mem_cons.1 h with rfl | digit
    · rfl
    · exact isDigitOr_of_mem_ofNat digit

theorem ofInt_ne_nil (n : Int) : ofInt n ≠ [] := by
  cases n with
  | ofNat n => exact ofNat_ne_nil n
  | negSucc n => simp [ofInt_negSucc]

theorem ofInt_inj {m n : Int} (h : ofInt m = ofInt n) : m = n := by
  have unsigned (k l : Nat) : ofNat k ≠ .char '-' :: ofNat l := by
    intro same
    have digit : CodePoint.isDigit (.char '-') = true :=
      isDigit_of_mem_ofNat (n := k) (by simp [same])
    exact absurd digit (by decide)
  cases m with
  | ofNat m =>
    cases n with
    | ofNat n => rw [ofNat_inj.1 h]
    | negSucc n =>
      rw [ofInt_negSucc] at h
      exact absurd h (unsigned _ _)
  | negSucc m =>
    cases n with
    | ofNat n =>
      rw [ofInt_negSucc] at h
      exact absurd h.symm (unsigned _ _)
    | negSucc n =>
      rw [ofInt_negSucc, ofInt_negSucc] at h
      have same := ofNat_inj.1 (List.cons.inj h).2
      rw [Nat.succ.inj same]

end Text

namespace Compile

variable {s : Subject} {code code' : Int} {path path' : List Nat} {p q : Progress} {key : Text}

/-! Paths through unions. -/

theorem pathSuffix_singleton (n : Nat) : pathSuffix [n] = Text.ofNat n := by
  simp [pathSuffix, Text.join]

theorem pathSuffix_cons_cons (n m : Nat) (rest : List Nat) :
    pathSuffix (n :: m :: rest) = Text.ofNat n ++ .char '_' :: pathSuffix (m :: rest) := by
  simp only [pathSuffix, List.map_cons, Text.join, List.append_assoc]
  rfl

theorem isDigitOr_of_mem_pathSuffix {c : CodePoint} (h : c ∈ pathSuffix path) :
    Text.isDigitOr '_' c = true := by
  induction path with
  | nil => cases h
  | cons n rest ih =>
    cases rest with
    | nil =>
      rw [pathSuffix_singleton] at h
      exact Text.isDigitOr_of_mem_ofNat h
    | cons m rest =>
      rw [pathSuffix_cons_cons] at h
      rcases List.mem_append.1 h with digit | later
      · exact Text.isDigitOr_of_mem_ofNat digit
      · rcases List.mem_cons.1 later with rfl | later
        · rfl
        · exact ih later

theorem pathSuffix_marked (n : Nat) (path : List Nat) :
    pathSuffix (n :: path) ++ [.char '_'] = (n :: path).flatMap fun n => Text.ofNat n ++
      [.char '_'] := by
  induction path generalizing n with
  | nil => simp [pathSuffix_singleton]
  | cons m rest ih =>
    rw [pathSuffix_cons_cons, List.append_assoc, List.cons_append, ih, List.flatMap_cons]
    simp

theorem eq_of_flatMap_marked
    (h : path.flatMap (fun n => Text.ofNat n ++ [.char '_']) =
      path'.flatMap fun n => Text.ofNat n ++ [.char '_']) : path = path' := by
  induction path generalizing path' with
  | nil =>
    cases path' with
    | nil => rfl
    | cons m rest' => simp at h
  | cons n rest ih =>
    cases path' with
    | nil => simp at h
    | cons m rest' =>
      simp only [List.flatMap_cons, List.append_assoc, List.singleton_append] at h
      obtain ⟨same, -⟩ := Text.eq_of_append_cons_prefix CodePoint.isDigit
        (fun _ => Text.isDigit_of_mem_ofNat) (fun _ => Text.isDigit_of_mem_ofNat) rfl rfl
        ⟨[], (List.append_nil _).trans h⟩
      obtain rfl := Text.ofNat_inj.1 same
      rw [ih (List.cons.inj (List.append_cancel_left h)).2]

theorem pathSuffix_inj (h : pathSuffix path = pathSuffix path') : path = path' := by
  have unempty (n : Nat) (rest : List Nat) : pathSuffix (n :: rest) ≠ pathSuffix [] := by
    intro empty
    cases rest <;> simp [pathSuffix, Text.join, Text.ofNat_ne_nil] at empty
  cases path with
  | nil =>
    cases path' with
    | nil => rfl
    | cons m rest' => exact absurd h.symm (unempty m rest')
  | cons n rest =>
    cases path' with
    | nil => exact absurd h (unempty n rest)
    | cons m rest' =>
      apply eq_of_flatMap_marked
      rw [← pathSuffix_marked, ← pathSuffix_marked, h]

/-! Names of bodies. -/

def bodyName (s : Subject) (code : Int) (path : List Nat) : Text :=
  s.lead ++ Text.ofInt code ++ "Response" ++ pathSuffix path ++ "Body"

theorem eq_of_bodyName_prefix (h : bodyName s code path <+: bodyName s code' path') :
    code = code' ∧ path = path' := by
  have response : ("Response" : Text) = .char 'R' :: ("esponse" : Text) := rfl
  have body : ("Body" : Text) = .char 'B' :: ("ody" : Text) := rfl
  simp only [bodyName, response, body, List.append_assoc, List.prefix_append_right_inj,
    List.cons_append] at h
  -- a letter ends the code, and another one the path
  obtain ⟨sameCode, later⟩ := Text.eq_of_append_cons_prefix (Text.isDigitOr '-')
    (fun _ => Text.isDigitOr_of_mem_ofInt) (fun _ => Text.isDigitOr_of_mem_ofInt) rfl rfl h
  rw [List.prefix_append_right_inj] at later
  obtain ⟨samePath, -⟩ := Text.eq_of_append_cons_prefix (Text.isDigitOr '_')
    (fun _ => isDigitOr_of_mem_pathSuffix) (fun _ => isDigitOr_of_mem_pathSuffix) rfl rfl later
  exact ⟨Text.ofInt_inj sameCode, pathSuffix_inj samePath⟩

/-- A name that no list takes a letter from. -/
def IsSingular (name : Text) : Prop := ∀ last ∈ name.getLast?, last ≠ 's' ∧ last ≠ 'S'

theorem isSingular_bodyName (s : Subject) (code : Int) (path : List Nat) :
    IsSingular (bodyName s code path) := by
  intro last ends
  have body : ("Body" : Text) = ("Bod" : Text) ++ [.char 'y'] := rfl
  rw [bodyName, body, ← List.append_assoc, List.getLast?_concat] at ends
  cases ends
  decide

theorem root_of_isSingular {name : Text} (singular : IsSingular name) :
    Naming.root name = name := by
  rw [Naming.root, List.rdropWhile_eq_self_iff]
  intro nonempty ending
  have last := singular _ (List.getLast?_eq_some_getLast nonempty)
  exact (not_or.2 last) (Naming.eq_or_of_ending (of_decide_eq_true ending))

theorem prefix_of_named_object {lead name : Text} (singular : IsSingular lead)
    (start : lead <+: name)
    {description : Option Text} {required : List Text} {properties : List (Text × Schema)}
    (h : Effect.Named (do
      let structure' ← lowerObject s.context name description required properties
      writeStructure name structure' : Lowering Unit).trace key) : lead <+: key := by
  obtain ⟨rest, rfl⟩ := start
  obtain ⟨e, listed, named⟩ := h
  rcases Traced.mem_trace_bind listed with ofObject | ⟨_, _, written⟩
  · rcases Traced.mem_trace_bind ofObject with ofProperty | ⟨_, _, returned⟩
    · obtain ⟨entry, -, arisen⟩ := mem_trace_properties ofProperty
      have below :=
        hereditary_root.lowerSchema (hereditary_root.crossing s.context _) entry.2 _ e arisen
        key named
      rw [Naming.partName, List.append_assoc] at below
      rw [← root_of_isSingular singular]
      exact (Naming.prefix_root_append _ _).trans below
    · simp at returned
  · obtain rfl := List.mem_singleton.1 written
    cases named
    exact List.prefix_append _ _

structure InlineBody where
  notes : Notes
  required : List Text
  properties : List (Text × Schema)

namespace InlineBody

variable {b b' : InlineBody}

def schema (b : InlineBody) : Schema := .object b.notes b.required b.properties none

def lowering (b : InlineBody) (s : Subject) (code : Int) (path : List Nat) : Lowering Unit := do
  let structure' ← lowerObject s.context (bodyName s code path) b.notes.description b.required
    b.properties
  writeStructure (bodyName s code path) structure'

theorem bodyTypes_eq (b : InlineBody) (s : Subject) (code : Int) (path : List Nat) :
    bodyTypes s code (pathSuffix path) b.schema = do
      performChecked (b.lowering s code path)
      return [(pathSuffix path, bodyName s code path)] := by
  rw [schema, bodyTypes]
  rfl

theorem prefix_of_named (h : Effect.Named (b.lowering s code path).trace key) :
    bodyName s code path <+: key :=
  prefix_of_named_object (isSingular_bodyName s code path) List.prefix_rfl h

theorem not_named_of_named (apart : (code, path) ≠ (code', path'))
    (h : Effect.Named (b.lowering s code path).trace key) :
    ¬ Effect.Named (b'.lowering s code' path').trace key := by
  intro other
  rcases List.prefix_or_prefix_of_prefix (prefix_of_named h) (prefix_of_named other) with
    longer | longer
  · obtain ⟨rfl, rfl⟩ := eq_of_bodyName_prefix longer
    exact apart rfl
  · obtain ⟨rfl, rfl⟩ := eq_of_bodyName_prefix longer
    exact apart rfl

theorem lowering_of_runs {types : List (Text × Text)}
    (run : Runs (bodyTypes s code (pathSuffix path) b.schema) p types q) :
    Runs (performChecked (b.lowering s code path)) p () q := by
  rw [bodyTypes_eq] at run
  obtain ⟨_, q, performed, returned⟩ := run.of_bind
  obtain ⟨-, rfl⟩ := returned.of_pure
  exact performed

/-- A body comes out the same whatever stands under the names of a body at another place. -/
theorem bodyTypes_congr (apart : (code, path) ≠ (code', path'))
    (agree : p.model.registry.AgreeOutside (Effect.Named (b.lowering s code path).trace)
      q.model.registry) :
    ((bodyTypes s code' (pathSuffix path') b'.schema).run.run p).1 =
      ((bodyTypes s code' (pathSuffix path') b'.schema).run.run q).1 := by
  have outcome (p : Progress) : ((bodyTypes s code' (pathSuffix path') b'.schema).run.run p).1 =
      ((performChecked (b'.lowering s code' path')).run.run p).1.map
        fun _ => [(pathSuffix path', bodyName s code' path')] := by
    rw [bodyTypes_eq, ExceptT.run_bind, StateT.run_bind]
    generalize (performChecked (b'.lowering s code' path')).run.run p = done
    obtain ⟨result, last⟩ := done
    cases result <;> rfl
  rw [outcome, outcome, performChecked_congr agree]
  exact fun name written named => not_named_of_named apart named written

end InlineBody

/-! Suffixes of leaves. -/

theorem of_mem_leavesFrom {branches : List Schema} {n : Nat} {leaf : List Nat × Schema}
    (h : leaf ∈ Schema.leavesFrom n branches) : ∃ m rest, leaf.1 = m :: rest ∧ n ≤ m := by
  induction branches generalizing n with
  | nil => simp [Schema.leavesFrom] at h
  | cons branch others ih =>
    rw [Schema.leavesFrom] at h
    rcases List.mem_append.1 h with here | later
    · obtain ⟨below, -, rfl⟩ := List.mem_map.1 here
      exact ⟨n, below.1, rfl, Nat.le_refl n⟩
    · obtain ⟨m, rest, same, bound⟩ := ih later
      exact ⟨m, rest, same, Nat.le_of_succ_le bound⟩

theorem nodup_leavesFrom {branches : List Schema}
    (ih : ∀ branch ∈ branches, (branch.leaves.map Prod.fst).Nodup) (n : Nat) :
    ((Schema.leavesFrom n branches).map Prod.fst).Nodup := by
  induction branches generalizing n with
  | nil => simp [Schema.leavesFrom]
  | cons branch others induction =>
    obtain ⟨first, later⟩ := List.forall_mem_cons.1 ih
    have below : (branch.leaves.map (fun leaf => (n :: leaf.1, leaf.2))).map Prod.fst =
        (branch.leaves.map Prod.fst).map (n :: ·) := by simp
    rw [Schema.leavesFrom, List.map_append, below]
    refine List.Nodup.append (first.map List.cons_injective) (induction later (n + 1)) ?_
    -- the first numbers tell the branches apart
    intro path here there
    obtain ⟨short, -, rfl⟩ := List.mem_map.1 here
    obtain ⟨leaf, listed, same⟩ := List.mem_map.1 there
    obtain ⟨m, rest, other, bound⟩ := of_mem_leavesFrom listed
    obtain ⟨rfl, -⟩ := List.cons.inj (other.symm.trans same)
    omega

theorem nodup_leaves (schema : Schema) : (schema.leaves.map Prod.fst).Nodup := by
  induction schema using Schema.sizeInduction with
  | step schema ih =>
    cases schema with
    | union kind description branches =>
      rw [Schema.leaves]
      exact nodup_leavesFrom (fun branch listed => ih branch (Schema.sizeOf_branch listed)) 0
    | _ => simp [Schema.leaves]

theorem nodup_suffixes {schema : Schema} {types : List (Text × Text)}
    (run : Runs (bodyTypes s code (pathSuffix path) schema) p types q) :
    (types.map Prod.fst).Nodup := by
  obtain ⟨rfl, -⟩ := bodyTypes_leaves schema path _ _ _ run
  have suffixes : (schema.leaves.map (leafFrom s code path)).map Prod.fst =
      (schema.leaves.map Prod.fst).map fun rest => pathSuffix (path ++ rest) := by
    simp [leafFrom]
  rw [suffixes]
  refine (nodup_leaves schema).map fun rest rest' same => ?_
  exact List.append_cancel_left (pathSuffix_inj same)

end Compile

open Compile

/-- Inline bodies of an operation do not interfere. All that a body writes is named after it, no
name of a body begins with that of another, and so each comes out as if the other were not there.
The leaves of one response have suffixes of their own. -/
theorem inline_bodies_apart (s : Subject) :
    (∀ (b : InlineBody) (code : Int) (path : List Nat),
      (∀ key, Effect.Named (b.lowering s code path).trace key → bodyName s code path <+: key) ∧
      ∀ p types q, Runs (bodyTypes s code (pathSuffix path) b.schema) p types q →
        ∀ key, q.model.registry.Defines key ↔
          p.model.registry.Defines key ∨ Effect.Named (b.lowering s code path).trace key) ∧
    (∀ (code code' : Int) (path path' : List Nat), (code, path) ≠ (code', path') →
      ¬ bodyName s code path <+: bodyName s code' path' ∧
      ∀ b b' : InlineBody,
        (∀ key, Effect.Named (b.lowering s code path).trace key →
          ¬ Effect.Named (b'.lowering s code' path').trace key) ∧
        let second := bodyTypes s code' (pathSuffix path') b'.schema
        (∀ p types q, Runs (bodyTypes s code (pathSuffix path) b.schema) p types q →
          (second.run.run q).1 = (second.run.run p).1) ∧
        ∀ p q : Progress, p.model.registry.AgreeOutside
          (Effect.Named (b.lowering s code path).trace) q.model.registry →
          (second.run.run p).1 = (second.run.run q).1) ∧
    ∀ (schema : Schema) (code : Int) (path : List Nat) (p : Progress) (types : List (Text × Text))
      (q : Progress), Runs (bodyTypes s code (pathSuffix path) schema) p types q →
      (types.map Prod.fst).Nodup := by
  refine ⟨?_, ?_, ?_⟩
  · intro b code path
    refine ⟨fun key => InlineBody.prefix_of_named, ?_⟩
    intro p types q run key
    exact (performChecked_absorbs (InlineBody.lowering_of_runs run)).2.defines key
  · intro code code' path path' apart
    refine ⟨?_, ?_⟩
    · intro longer
      obtain ⟨rfl, rfl⟩ := eq_of_bodyName_prefix longer
      exact apart rfl
    · intro b b'
      refine ⟨fun key => InlineBody.not_named_of_named apart, ?_, ?_⟩
      · intro p types q run
        have agree := agreeOutside_performChecked (InlineBody.lowering_of_runs run)
        exact (InlineBody.bodyTypes_congr apart agree).symm
      · intro p q agree
        exact InlineBody.bodyTypes_congr apart agree
  · intro schema code path p types q run
    exact nodup_suffixes run

def tray : InlineBody where
  notes := default
  required := []
  properties := [("s", .array default default (some (.string default default))),
    ("label", .object default [] [("text", .string default default)] none)]

/-- Places whose names differ in a mark only, and a union with leaves at both. -/
theorem inline_bodies_apart_tray :
    let s : Subject := ⟨⟨default, .empty⟩, "getTray"⟩
    let first := bodyTypes s 200 (pathSuffix [1, 0]) tray.schema
    let second := bodyTypes s 200 (pathSuffix [10]) tray.schema
    bodyName s 200 [1, 0] = "GetTray200Response1_0Body" ∧
      bodyName s 200 [10] = "GetTray200Response10Body" ∧
      (∃ types q, Runs first ⟨.empty, []⟩ types q ∧ (second.run.run q).1.isOk = true) ∧
      ∃ types q, Runs (bodyTypes s 200 "" (.union .oneOf none [.reference ⟨"Tray", by decide⟩ none,
          .union .anyOf none [tray.schema, tray.schema]])) ⟨.empty, []⟩ types q ∧
        types.map Prod.fst = ["0", "1_0", "1_1"] ∧ (types.map Prod.fst).Nodup := by
  intro s first second
  refine ⟨rfl, rfl, ?_, ?_⟩
  · obtain ⟨types, run⟩ := exists_runs_of_isOk (p := ⟨.empty, []⟩) (x := first) (by decide +kernel)
    refine ⟨types, _, run, ?_⟩
    have same := ((inline_bodies_apart s).2.1 200 200 [1, 0] [10] (by decide)).2 tray tray
    rw [same.2.1 _ _ _ run]
    decide +kernel
  · obtain ⟨types, run⟩ := exists_runs_of_isOk (p := ⟨.empty, []⟩)
      (x := bodyTypes s 200 "" (.union .oneOf none [.reference ⟨"Tray", by decide⟩ none,
        .union .anyOf none [tray.schema, tray.schema]])) (by decide +kernel)
    refine ⟨types, _, run, ?_, (inline_bodies_apart s).2.2 _ 200 [] _ _ _ run⟩
    obtain ⟨rfl, -⟩ := bodyTypes_leaves _ [] _ _ _ run
    decide +kernel

end ApiModel

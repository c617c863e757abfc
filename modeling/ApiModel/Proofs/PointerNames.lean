import ApiModel.Proofs.NamedSchemas

/-! Names of schemas and pointers to them. A name is read off a pointer in one piece, while the
pointer is followed segment by segment; both come to the same entry. Every name has a pointer, in
which its tildes and slashes are escaped. -/
namespace ApiModel

namespace Text

/-! Replacing a character and replacing a pair. -/

theorem replace_singleton (c : CodePoint) (new text : Text) :
    replace [c] new text = text.flatMap fun d => if d = c then new else [d] := by
  unfold replace
  induction text with
  | nil => rfl
  | cons d rest ih =>
    rw [replaceFrom, List.flatMap_cons, ← ih]
    by_cases here : d = c
    · simp [startsWith, dropLeading?, here]
    · have other : ¬ c = d := fun same => here same.symm
      simp [startsWith, dropLeading?, here, other]

variable {a b c : CodePoint} {new rest : Text}

theorem replacePair_here :
    replacePair a b new (a :: b :: rest) = new ++ replacePair a b new rest := by
  rw [replacePair, if_pos ⟨rfl, rfl⟩]

theorem replacePair_first (differ : c ≠ a) :
    replacePair a b new (c :: rest) = c :: replacePair a b new rest := by
  cases rest with
  | nil => rw [replacePair, replacePair]
  | cons d rest => rw [replacePair, if_neg fun pair => differ pair.1]

theorem replacePair_second (differ : c ≠ b) :
    replacePair a b new (a :: c :: rest) = a :: replacePair a b new (c :: rest) := by
  rw [replacePair, if_neg fun pair => differ pair.2]

end Text

namespace Pointer

/-! Escapes. -/

def escape (name : Text) : Text := Text.replace "/" "~1" (Text.replace "~" "~0" name)

def escaped (c : CodePoint) : Text :=
  if c = .char '~' then "~0" else if c = .char '/' then "~1" else [c]

theorem escape_eq_flatMap (name : Text) : escape name = name.flatMap escaped := by
  have single (c : Char) : Text.ofString (String.singleton c) = [.char c] := by simp [Text.ofString]
  change Text.replace (Text.ofString (String.singleton '/')) _
    (Text.replace (Text.ofString (String.singleton '~')) _ name) = _
  rw [single, single, Text.replace_singleton, Text.replace_singleton, List.flatMap_assoc]
  congr 1
  funext c
  unfold escaped
  by_cases tilde : c = .char '~'
  · rw [if_pos tilde, if_pos tilde]
    decide
  · rw [if_neg tilde, if_neg tilde, List.flatMap_singleton]

theorem escaped_other {c : CodePoint} (tilde : c ≠ .char '~') (slash : c ≠ .char '/') :
    escaped c = [c] := by
  rw [escaped, if_neg tilde, if_neg slash]

theorem escape_cons (c : CodePoint) (name : Text) :
    escape (c :: name) = escaped c ++ escape name := by
  rw [escape_eq_flatMap, escape_eq_flatMap, List.flatMap_cons]

/-- The slashes are put back first; no escaped tilde looks like a slash. -/
theorem replacePair_escape (name : Text) :
    Text.replacePair '~' '1' ['/'] (escape name) =
      name.flatMap fun c => if c = .char '~' then "~0" else [c] := by
  induction name with
  | nil => rfl
  | cons c name ih =>
    rw [escape_cons, List.flatMap_cons, ← ih]
    by_cases tilde : c = .char '~'
    · subst tilde
      change Text.replacePair '~' '1' ['/'] (.char '~' :: .char '0' :: escape name) = _
      rw [Text.replacePair_second (by decide), Text.replacePair_first (by decide)]
      rfl
    · by_cases slash : c = .char '/'
      · subst slash
        change Text.replacePair '~' '1' ['/'] (.char '~' :: .char '1' :: escape name) = _
        rw [Text.replacePair_here]
        rfl
      · rw [escaped_other tilde slash, List.singleton_append,
          Text.replacePair_first tilde, if_neg tilde, List.singleton_append]

theorem replacePair_tildes (name : Text) :
    Text.replacePair '~' '0' ['~']
      (name.flatMap fun c => if c = .char '~' then "~0" else [c]) = name := by
  induction name with
  | nil => rfl
  | cons c name ih =>
    rw [List.flatMap_cons]
    by_cases tilde : c = .char '~'
    · subst tilde
      exact Text.replacePair_here.trans (congrArg (CodePoint.char '~' :: ·) ih)
    · rw [if_neg tilde, List.singleton_append, Text.replacePair_first tilde, ih]

theorem unescape_escape (name : Text) : unescape (escape name) = name := by
  unfold unescape
  rw [replacePair_escape, replacePair_tildes]

theorem slash_not_mem_escape (name : Text) : .char '/' ∉ escape name := by
  rw [escape_eq_flatMap, List.mem_flatMap]
  rintro ⟨c, -, inside⟩
  unfold escaped at inside
  split at inside
  · revert inside
    decide
  · split at inside
    · revert inside
      decide
    · rename_i slash
      exact slash (List.mem_singleton.1 inside).symm

theorem escape_ne_nil {name : Text} (some : name ≠ []) : escape name ≠ [] := by
  intro none
  have back := unescape_escape name
  rw [none] at back
  exact some back.symm

theorem nameBehind?_escape (lead : Text) {name : Text} (some : name ≠ []) :
    nameBehind? lead (lead ++ escape name) = .some name := by
  unfold nameBehind?
  rw [Text.dropLeading?_append]
  simp [escape_ne_nil some, slash_not_mem_escape, unescape_escape]

end Pointer

/-! Entries of mappings. -/

def Value.descend : List Text → Value → Option Value
  | [], v => some v
  | key :: rest, .map entries =>
    (lookupText key entries).bind fun v => descend rest (within (.map entries) v)
  | _ :: _, _ => none

namespace Pointer

open Api (Dialect)

variable {pointer name : Text} {dialect : Dialect}

theorem walk_descend {keys segments : List Text} {v w : Value}
    (words : ∀ key ∈ keys, unescape key = key) (found : v.descend keys = some w) :
    walk pointer (keys ++ segments) v = walk pointer segments w := by
  induction keys generalizing v with
  | nil =>
    cases found
    rfl
  | cons key rest ih =>
    obtain ⟨word, words⟩ := List.forall_mem_cons.1 words
    cases v with
    | map entries =>
      obtain ⟨part, there, found⟩ := Option.bind_eq_some_iff.1 found
      rw [List.cons_append, walk, word]
      simp only [step, there]
      exact ih words found
    | _ => cases found

theorem unescape_place (dialect : Dialect) : ∀ key ∈ dialect.place, unescape key = key := by
  cases dialect <;> decide

theorem nameBehind?_of_lead (named : schemaName? pointer = some name)
    (lead : dialect.lead <+: pointer) :
    nameBehind? dialect.lead pointer = some name := by
  rcases Api.nameBehind?_of_schemaName? named dialect with own | other
  · exact own
  · obtain ⟨segment, rfl, -⟩ := nameBehind?_eq_some other
    have clash := List.prefix_or_prefix_of_prefix lead (List.prefix_append _ segment)
    cases dialect <;> exact absurd clash (by decide)

theorem schemaName?_of_lead (behind : nameBehind? dialect.lead pointer = some name) :
    schemaName? pointer = some name := by
  cases dialect with
  | openApi =>
    unfold schemaName? schemaLeads
    rw [List.findSome?_cons,
      show nameBehind? "#/components/schemas/" pointer = some name from behind]
  | swagger =>
    obtain ⟨other, found⟩ :=
      Option.isSome_iff_exists.1 (isSome_schemaName? (Option.isSome_of_eq_some behind))
    obtain ⟨segment, rfl, -⟩ := nameBehind?_eq_some behind
    have own := nameBehind?_of_lead found (List.prefix_append Dialect.swagger.lead segment)
    rw [found, ← own, behind]

end Pointer

open Pointer
open Api (Dialect)

/-- Names and pointers agree. In every document whose schemas stand in mappings, a pointer that
names a schema leads to the entry under that name and fails if there is none. And every name but the
empty one is named by the pointer with its escaped form, behind either lead. -/
theorem follow_named_entry :
    (∀ pointer name, schemaName? pointer = some name →
      (∃ dialect : Dialect, dialect.lead <+: pointer) ∧
      ∀ dialect : Dialect, dialect.lead <+: pointer → ∀ root container,
        root.descend dialect.place = some (.map container) →
          (∀ v, Value.lookupText name container = some v →
            follow root pointer = .ok (Value.within (.map container) v)) ∧
          (Value.lookupText name container = none →
            follow root pointer = .error (.missingSegment pointer name))) ∧
    ∀ (dialect : Dialect) (name : Text), name ≠ [] →
      schemaName? (dialect.lead ++ escape name) = some name := by
  refine ⟨fun pointer name named => ⟨?_, ?_⟩, ?_⟩
  · rcases Api.nameBehind?_of_schemaName? named .swagger with behind | behind
    all_goals
      obtain ⟨segment, rfl, -⟩ := nameBehind?_eq_some behind
      exact ⟨_, List.prefix_append _ segment⟩
  · intro dialect lead root container there
    obtain ⟨segment, rfl, path⟩ := Api.follow_of_lead (nameBehind?_of_lead named lead)
    rw [path, walk_descend (unescape_place dialect) there, walk, step]
    constructor
    · intro v found
      rw [found]
      rfl
    · intro missing
      rw [missing]
  · intro dialect name some
    exact schemaName?_of_lead (nameBehind?_escape dialect.lead some)

def cabinet : Value :=
  .ofEntries [("definitions", .ofEntries [("a/b~1", .ofEntries [("type", .str "string")])])]

theorem follow_named_entry_cabinet :
    schemaName? "#/definitions/a~1b~01" = some "a/b~1" ∧
      follow cabinet "#/definitions/a~1b~01" = .ok (.ofEntries [("type", .str "string")]) ∧
      follow cabinet "#/definitions/a~1b" = .error (.missingSegment "#/definitions/a~1b" "a/b") ∧
      schemaName? (Dialect.openApi.lead ++ escape "~1/~0") = some "~1/~0" := by
  obtain ⟨agree, names⟩ := follow_named_entry
  have named : schemaName? "#/definitions/a~1b~01" = some "a/b~1" := by decide
  have missing : schemaName? "#/definitions/a~1b" = some "a/b" := by decide
  have found := (agree _ _ named).2 .swagger (by decide) cabinet _ rfl
  have lost := (agree _ _ missing).2 .swagger (by decide) cabinet _ rfl
  exact ⟨named, found.1 _ rfl, lost.2 rfl, names .openApi _ (by decide)⟩

end ApiModel

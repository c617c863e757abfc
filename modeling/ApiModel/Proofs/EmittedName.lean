import ApiModel.Model.Service
import ApiModel.Proofs.Registry

/-! Emitted names. Within one form a name gets a word and a number that tell it from all others,
unless only text is called `String`. Two forms may still meet, where one is the beginning of the
other. -/
namespace ApiModel

namespace Text

theorem isDigit_char (c : Char) : (CodePoint.char c).isDigit = c.isDigit := by
  simp only [CodePoint.isDigit, Char.isDigit]
  rfl

theorem isDigit_of_mem_ofNat {n : Nat} {c : CodePoint} (h : c ∈ ofNat n) : c.isDigit = true := by
  rw [ofNat, ofString, Nat.toString_eq_ofList_toDigits, String.toList_ofList] at h
  obtain ⟨digit, listed, rfl⟩ := List.mem_map.1 h
  rw [isDigit_char]
  exact Nat.isDigit_of_mem_toDigits (by decide) (by decide) listed

theorem ofNat_inj {m n : Nat} : ofNat m = ofNat n ↔ m = n := by
  refine ⟨fun h => ?_, fun h => by rw [h]⟩
  simp only [ofNat, ofString, Nat.toString_eq_ofList_toDigits, String.toList_ofList] at h
  have digits : Nat.toDigits 10 m = Nat.toDigits 10 n :=
    List.map_injective_iff.2 (fun _ _ same => CodePoint.char.inj same) h
  rw [← @Nat.ofDigitChars_ten_toDigits m, digits, Nat.ofDigitChars_ten_toDigits]

theorem append_digits_inj {word word' number number' : Text}
    (plain : ∀ c ∈ word, c.isDigit = false) (plain' : ∀ c ∈ word', c.isDigit = false)
    (digits : ∀ c ∈ number, c.isDigit = true) (digits' : ∀ c ∈ number', c.isDigit = true)
    (same : word ++ number = word' ++ number') : word = word' ∧ number = number' := by
  have cut {w n : Text} (plain : ∀ c ∈ w, c.isDigit = false)
      (digits : ∀ c ∈ n, c.isDigit = true) :
      (w ++ n).takeWhile (fun c => !c.isDigit) = w := by
    rw [List.takeWhile_append_of_pos (by simpa using plain)]
    cases n with
    | nil => simp
    | cons c rest => simp [digits c List.mem_cons_self]
  have words : word = word' := by
    rw [← cut plain digits, same, cut plain' digits']
  subst words
  exact ⟨rfl, List.append_cancel_left same⟩

end Text

namespace EmittedName

variable {entries : List Entry} {form a b t : Text}

theorem mem_firstSeen {texts : List Text} : t ∈ firstSeen texts ↔ t ∈ texts := by
  unfold firstSeen
  suffices step : ∀ seen : List Text, t ∈ texts.foldl
      (fun seen t => if seen.contains t then seen else seen ++ [t]) seen ↔ t ∈ seen ∨ t ∈ texts by
    rw [step, or_iff_right (List.not_mem_nil)]
  induction texts with
  | nil => simp
  | cons first rest ih =>
    intro seen
    rw [List.foldl_cons, ih]
    split <;> grind

theorem nodup_firstSeen (texts : List Text) : (firstSeen texts).Nodup := by
  unfold firstSeen
  suffices step : ∀ seen : List Text, seen.Nodup → (texts.foldl
      (fun seen t => if seen.contains t then seen else seen ++ [t]) seen).Nodup from
    step [] List.nodup_nil
  induction texts with
  | nil => exact fun _ h => h
  | cons first rest ih =>
    intro seen distinct
    rw [List.foldl_cons]
    apply ih
    split
    · exact distinct
    · rename_i fresh
      exact List.nodup_append.2 ⟨distinct, by simp, by grind⟩

theorem mem_numbered {names : List Text} {name number : Text}
    (h : (name, number) ∈ numbered names) :
    names = [name] ∧ number = [] ∨ ∃ i, names[i]? = some name ∧ number = .ofNat (i + 1) := by
  unfold numbered at h
  split at h
  · obtain ⟨rfl, rfl⟩ := Prod.mk.inj (List.mem_singleton.1 h)
    exact .inl ⟨rfl, rfl⟩
  · obtain ⟨⟨_, i⟩, listed, same⟩ := List.mem_map.1 h
    cases same
    exact .inr ⟨i, List.mem_zipIdx_iff_getElem?.1 listed, rfl⟩

theorem isDigit_of_numbered {names : List Text} {name number : Text}
    (h : (name, number) ∈ numbered names) : ∀ c ∈ number, c.isDigit = true := by
  rcases mem_numbered h with ⟨-, rfl⟩ | ⟨i, -, rfl⟩
  · simp
  · exact fun c listed => Text.isDigit_of_mem_ofNat listed

theorem mem_of_numbered {names : List Text} {name number : Text}
    (h : (name, number) ∈ numbered names) : name ∈ names := by
  rcases mem_numbered h with ⟨rfl, -⟩ | ⟨i, found, -⟩
  · exact List.mem_singleton_self name
  · exact List.mem_of_getElem? found

theorem numbered_inj {names : List Text} {number : Text} (ofA : (a, number) ∈ numbered names)
    (ofB : (b, number) ∈ numbered names) : a = b := by
  rcases mem_numbered ofA with ⟨rfl, -⟩ | ⟨i, atI, rfl⟩
  · exact (List.mem_singleton.1 (mem_of_numbered ofB)).symm
  · rcases mem_numbered ofB with ⟨rfl, -⟩ | ⟨j, atJ, same⟩
    · exact List.mem_singleton.1 (mem_of_numbered ofA)
    · obtain rfl : i = j := by simpa using Text.ofNat_inj.1 same
      exact Option.some.inj (atI.symm.trans atJ)

theorem exists_numbered {names : List Text} {name : Text} (h : name ∈ names) :
    ∃ number, (name, number) ∈ numbered names := by
  unfold numbered
  split
  · exact ⟨"", by simpa using h⟩
  · obtain ⟨i, found⟩ := List.mem_iff_getElem?.1 h
    exact ⟨_, List.mem_map.2 ⟨(name, i), List.mem_zipIdx_iff_getElem?.2 found, rfl⟩⟩

/-- The word that is shown with a name: none if all names have the same one. -/
def shownWord (entries : List Entry) (word : Text) : Text :=
  if (firstSeen (entries.map Entry.word)).length > 1 then word else ""

theorem word_eq_of_shownWord_eq {word word' : Text} (h : word ∈ entries.map Entry.word)
    (h' : word' ∈ entries.map Entry.word)
    (same : shownWord entries word = shownWord entries word') :
    word = word' := by
  unfold shownWord at same
  split at same
  · exact same
  · rw [← mem_firstSeen] at h h'
    generalize firstSeen (entries.map Entry.word) = words at *
    match words with
    | [] => simp at h
    | [only] => rw [List.mem_singleton.1 h, List.mem_singleton.1 h']
    | _ :: _ :: _ => simp at *

theorem shownWord_of_only {word : Text} (only : ∀ e ∈ entries, e.word = word) :
    shownWord entries word = [] := by
  have distinct := nodup_firstSeen (entries.map Entry.word)
  have all : ∀ t ∈ firstSeen (entries.map Entry.word), t = word := by
    intro t listed
    obtain ⟨e, ofEntry, rfl⟩ := List.mem_map.1 (mem_firstSeen.1 listed)
    exact only e ofEntry
  unfold shownWord
  rw [if_neg]
  · rfl
  generalize firstSeen (entries.map Entry.word) = words at *
  match words with
  | [] => simp
  | [_] => simp
  | first :: second :: rest => simp [all first (by simp), all second (by simp)] at distinct

theorem only_of_shownWord {word : Text} (h : word ∈ entries.map Entry.word) (proper : word ≠ [])
    (hidden : shownWord entries word = []) : ∀ e ∈ entries, e.word = word := by
  intro e listed
  apply word_eq_of_shownWord_eq (List.mem_map_of_mem listed) h
  unfold shownWord at *
  split at hidden
  · exact absurd hidden proper
  · rename_i single
    rw [if_neg single, if_neg single]

def label (form : Text) (entries : List Entry) (word number : Text) : Text :=
  if word = "String" ∧ form = "String" ∧ shownWord entries word = [] then "String"
  else form ++ shownWord entries word ++ number

theorem mapClass_eq :
    mapClass form entries = (firstSeen (entries.map Entry.word)).flatMap fun word =>
    (numbered ((entries.filter fun e => e.word == word).map Entry.name)).map fun e =>
      (e.1, label form entries word e.2) := by
  unfold mapClass
  dsimp only
  congr 1
  funext word
  congr 1
  funext e
  simp only [label, shownWord, List.isEmpty_iff]
  exact (apply_ite (Prod.mk e.1) _ _ _).symm

theorem mem_mapClass : (a, t) ∈ mapClass form entries ↔ ∃ word ∈ entries.map Entry.word, ∃ number,
    (a, number) ∈ numbered ((entries.filter fun e => e.word == word).map Entry.name) ∧
      t = label form entries word number := by
  rw [mapClass_eq]
  simp only [List.mem_flatMap, List.mem_map, mem_firstSeen, Prod.exists, Prod.mk.injEq]
  grind

theorem mem_names_of_mapClass (h : (a, t) ∈ mapClass form entries) : ∃ e ∈ entries, e.name = a := by
  obtain ⟨word, -, number, listed, -⟩ := mem_mapClass.1 h
  obtain ⟨e, found, rfl⟩ := List.mem_map.1 (mem_of_numbered listed)
  exact ⟨e, List.mem_of_mem_filter found, rfl⟩

theorem exists_mapClass {e : Entry} (h : e ∈ entries) :
    ∃ t, (e.name, t) ∈ mapClass form entries := by
  have named : e.name ∈ (entries.filter fun other => other.word == e.word).map Entry.name :=
    List.mem_map_of_mem (List.mem_filter.2 ⟨h, by simp⟩)
  obtain ⟨number, listed⟩ := exists_numbered named
  exact ⟨_, mem_mapClass.2 ⟨e.word, List.mem_map_of_mem h, number, listed, rfl⟩⟩

theorem form_of_mapClass (h : (a, t) ∈ mapClass form entries) : ∃ suffix, t = form ++ suffix := by
  obtain ⟨word, -, number, -, rfl⟩ := mem_mapClass.1 h
  unfold label
  split
  · rename_i text
    exact ⟨[], by rw [text.2.1, List.append_nil]⟩
  · exact ⟨_, List.append_assoc ..⟩

theorem eq_string_of_mapClass (ofForm : form = "String") (only : ∀ e ∈ entries, e.word = "String")
    (h : (a, t) ∈ mapClass form entries) : t = "String" := by
  obtain ⟨word, listed, number, -, rfl⟩ := mem_mapClass.1 h
  obtain ⟨e, ofEntry, rfl⟩ := List.mem_map.1 listed
  rw [only e ofEntry]
  exact if_pos ⟨rfl, ofForm, shownWord_of_only only⟩

theorem mapClass_inj (plain : ∀ e ∈ entries, ∀ c ∈ e.word, c.isDigit = false)
    (ofA : (a, t) ∈ mapClass form entries) (ofB : (b, t) ∈ mapClass form entries) :
    a = b ∨ form = "String" ∧ ∀ e ∈ entries, e.word = "String" := by
  obtain ⟨word, listed, number, ofNumber, same⟩ := mem_mapClass.1 ofA
  obtain ⟨word', listed', number', ofNumber', same'⟩ := mem_mapClass.1 ofB
  have shown_plain : ∀ word ∈ entries.map Entry.word, ∀ c ∈ shownWord entries word,
      c.isDigit = false := by
    intro word listed c shown
    obtain ⟨e, ofEntry, rfl⟩ := List.mem_map.1 listed
    unfold shownWord at shown
    split at shown
    · exact plain e ofEntry c shown
    · cases shown
  have text : ∀ word ∈ entries.map Entry.word,
      word = "String" ∧ form = "String" ∧ shownWord entries word = [] →
      form = "String" ∧ ∀ e ∈ entries, e.word = "String" := by
    rintro _ listed ⟨rfl, ofForm, hidden⟩
    exact ⟨ofForm, only_of_shownWord listed (by decide) hidden⟩
  rw [same] at same'
  unfold label at same'
  split at same'
  · exact .inr (text word listed ‹_›)
  split at same'
  · exact .inr (text word' listed' ‹_›)
  rw [List.append_assoc, List.append_assoc] at same'
  -- no word holds a digit, so the word and the number are read off the emitted name
  obtain ⟨shown, numbers⟩ := Text.append_digits_inj (shown_plain word listed)
    (shown_plain word' listed') (isDigit_of_numbered ofNumber) (isDigit_of_numbered ofNumber')
    (List.append_cancel_left same')
  obtain rfl := word_eq_of_shownWord_eq listed listed' shown
  rw [← numbers] at ofNumber'
  exact .inl (numbered_inj ofNumber ofNumber')

def sharing (entries : List Entry) (form : Text) : List Entry :=
  entries.filter fun e => e.form == form

theorem mem_sharing {e : Entry} : e ∈ sharing entries form ↔ e ∈ entries ∧ e.form = form := by
  simp [sharing]

theorem mappings_eq : mappings entries =
    OrderedMap.ofList ((firstSeen (entries.map Entry.form)).flatMap fun form =>
      if (sharing entries form).length < 2 then [] else mapClass form (sharing entries form)) := by
  have same (form : Text) : ((entries.map fun e => (e.form, e)).filter fun p => p.1 == form).map
      Prod.snd = sharing entries form := by
    rw [List.filter_map, List.map_map]
    exact List.map_id _
  simp only [mappings, same, List.map_map]
  rfl

theorem of_get?_mappings (h : (mappings entries).get? a = some t) :
    (a, t) ∈ mapClass (Text.upperFirst a) (sharing entries (Text.upperFirst a)) := by
  rw [mappings_eq] at h
  obtain ⟨form, -, listed⟩ := List.mem_flatMap.1 (OrderedMap.mem_of_get?_ofList h)
  split at listed
  · cases listed
  · obtain ⟨e, member, rfl⟩ := mem_names_of_mapClass listed
    obtain rfl := (mem_sharing.1 member).2
    exact listed

theorem exists_get?_mappings {e : Entry} (listed : e ∈ entries)
    (shared : 2 ≤ (sharing entries e.form).length) :
    ∃ t, (mappings entries).get? e.name = some t := by
  apply OrderedMap.mem_keys_iff.1
  rw [mappings_eq, OrderedMap.mem_keys_ofList]
  obtain ⟨t, member⟩ : ∃ t, (e.name, t) ∈ mapClass e.form (sharing entries e.form) :=
    exists_mapClass (mem_sharing.2 ⟨listed, rfl⟩)
  refine List.mem_map.2 ⟨(e.name, t), List.mem_flatMap.2 ⟨e.form, ?_, ?_⟩, rfl⟩
  · exact mem_firstSeen.2 (List.mem_map_of_mem listed)
  · rw [if_neg (by omega)]
    exact member

end EmittedName

namespace Registry

variable {r : Registry} {name form : Text}

theorem mem_namedKinds {e : EmittedName.Entry} : e ∈ r.namedKinds ↔
    (∃ f, r.fields.get? e.name = some f ∧ e.word = f.typeWord) ∨
      e.name ∈ r.structures.keys ∧ e.word = [] := by
  obtain ⟨name, word⟩ := e
  simp only [namedKinds, OrderedMap.sortedEntries, OrderedMap.sortedKeys, sortTexts,
    List.mem_append,
    List.mem_map, (perm_sortByKey _).mem_iff, (perm_sortBy _ _).mem_iff,
    OrderedMap.get?_eq_some_iff, EmittedName.Entry.mk.injEq, Prod.exists]
  constructor
  · rintro (⟨_, f, listed, rfl, rfl⟩ | ⟨_, listed, rfl, rfl⟩)
    · exact .inl ⟨f, listed, rfl⟩
    · exact .inr ⟨listed, rfl⟩
  · rintro (⟨f, listed, rfl⟩ | ⟨listed, rfl⟩)
    · exact .inl ⟨name, f, listed, rfl, rfl⟩
    · exact .inr ⟨name, listed, rfl, rfl⟩

theorem defines_iff_namedKinds : r.Defines name ↔ ∃ e ∈ r.namedKinds, e.name = name := by
  unfold Defines
  simp only [mem_namedKinds]
  rw [OrderedMap.mem_keys_iff]
  constructor
  · rintro (⟨f, found⟩ | listed)
    · exact ⟨⟨name, f.typeWord⟩, .inl ⟨f, found, rfl⟩, rfl⟩
    · exact ⟨⟨name, []⟩, .inr ⟨listed, rfl⟩, rfl⟩
  · rintro ⟨e, ⟨f, found, -⟩ | ⟨listed, -⟩, rfl⟩
    · exact .inl ⟨f, found⟩
    · exact .inr listed

/-- Whether the form is `String` and stands for nothing but text. -/
def OnlyStrings (r : Registry) (form : Text) : Prop :=
  form = "String" ∧ ∀ name, Text.upperFirst name = form →
    name ∉ r.structures.keys ∧ ∀ f, r.fields.get? name = some f → f.typeWord = "String"

theorem onlyStrings_iff : r.OnlyStrings form ↔
    form = "String" ∧ ∀ e ∈ EmittedName.sharing r.namedKinds form, e.word = "String" := by
  refine and_congr_right fun _ => ⟨?_, ?_⟩
  · intro only e listed
    obtain ⟨kind, rfl⟩ := EmittedName.mem_sharing.1 listed
    rcases mem_namedKinds.1 kind with ⟨f, found, word⟩ | ⟨known, -⟩
    · rw [word]
      exact (only e.name rfl).2 f found
    · exact absurd known (only e.name rfl).1
  · rintro only name rfl
    constructor
    · intro known
      have text := only ⟨name, []⟩
        (EmittedName.mem_sharing.2 ⟨mem_namedKinds.2 (.inr ⟨known, rfl⟩), rfl⟩)
      cases text
    · intro f found
      exact only ⟨name, f.typeWord⟩
        (EmittedName.mem_sharing.2 ⟨mem_namedKinds.2 (.inl ⟨f, found, rfl⟩), rfl⟩)

theorem word_plain {e : EmittedName.Entry} (h : e ∈ r.namedKinds) :
    ∀ c ∈ e.word, c.isDigit = false := by
  rcases mem_namedKinds.1 h with ⟨f, -, word⟩ | ⟨-, word⟩
  · rw [word]
    cases f <;> simp only [Field.typeWord] <;> decide
  · simp [word]

theorem mapped_of_shared {a b : Text} (ofA : r.Defines a) (ofB : r.Defines b) (distinct : a ≠ b)
    (same : Text.upperFirst a = Text.upperFirst b) : ∃ t, r.typeMappings.get? a = some t := by
  obtain ⟨e, listed, rfl⟩ := defines_iff_namedKinds.1 ofA
  obtain ⟨e', listed', rfl⟩ := defines_iff_namedKinds.1 ofB
  apply EmittedName.exists_get?_mappings listed
  have first : e ∈ EmittedName.sharing r.namedKinds e.form :=
    EmittedName.mem_sharing.2 ⟨listed, rfl⟩
  have second : e' ∈ EmittedName.sharing r.namedKinds e.form :=
    EmittedName.mem_sharing.2 ⟨listed', same.symm⟩
  by_contra few
  generalize EmittedName.sharing r.namedKinds e.form = shared at *
  match shared with
  | [] => cases first
  | [only] =>
    rw [List.mem_singleton.1 first, List.mem_singleton.1 second] at distinct
    exact distinct rfl
  | _ :: _ :: _ => simp at few

end Registry

variable {m : ServiceModel} {a b : Text}

theorem emittedName_of_mapped {t : Text} (h : m.typeMappings.get? a = some t) :
    m.emittedName a = t := by
  simp [ServiceModel.emittedName, h]

theorem exists_emittedName_eq (settled : m.typeMappings = m.registry.typeMappings) (a : Text) :
    ∃ suffix, m.emittedName a = Text.upperFirst a ++ suffix ∧
      (suffix ≠ [] → a ∈ m.typeMappings.keys) := by
  cases mapped : m.typeMappings.get? a with
  | none => exact ⟨[], by simp [ServiceModel.emittedName, mapped], fun h => absurd rfl h⟩
  | some t =>
    rw [emittedName_of_mapped mapped]
    rw [settled] at mapped
    obtain ⟨suffix, rfl⟩ := EmittedName.form_of_mapClass (EmittedName.of_get?_mappings mapped)
    rw [settled]
    exact ⟨suffix, rfl, fun _ => OrderedMap.mem_keys_iff.2 ⟨_, mapped⟩⟩

/-- Names of one form are emitted alike exactly if the form is `String` and stands for text alone.
Names of two forms are emitted alike only if one form goes on where the other ends, and the shorter
one is mapped. -/
theorem emittedName_eq_iff (settled : m.typeMappings = m.registry.typeMappings)
    (ofA : m.registry.Defines a) (ofB : m.registry.Defines b) (distinct : a ≠ b) :
    (Text.upperFirst a = Text.upperFirst b →
      (m.emittedName a = m.emittedName b ↔ m.registry.OnlyStrings (Text.upperFirst a))) ∧
    (Text.upperFirst a ≠ Text.upperFirst b → m.emittedName a = m.emittedName b →
      ∃ suffix, suffix ≠ [] ∧
        (Text.upperFirst b = Text.upperFirst a ++ suffix ∧ a ∈ m.typeMappings.keys ∨
          Text.upperFirst a = Text.upperFirst b ++ suffix ∧ b ∈ m.typeMappings.keys)) := by
  constructor
  · intro form
    obtain ⟨t, mappedA⟩ := Registry.mapped_of_shared ofA ofB distinct form
    obtain ⟨u, mappedB⟩ := Registry.mapped_of_shared ofB ofA distinct.symm form.symm
    have inA := EmittedName.of_get?_mappings mappedA
    have inB := EmittedName.of_get?_mappings mappedB
    rw [← settled] at mappedA mappedB
    rw [emittedName_of_mapped mappedA, emittedName_of_mapped mappedB, Registry.onlyStrings_iff]
    rw [← form] at inB
    constructor
    · rintro rfl
      have plain : ∀ e ∈ EmittedName.sharing m.registry.namedKinds (Text.upperFirst a),
          ∀ c ∈ e.word, c.isDigit = false :=
        fun e listed => Registry.word_plain (EmittedName.mem_sharing.1 listed).1
      exact (EmittedName.mapClass_inj plain inA inB).resolve_left distinct
    · rintro ⟨ofForm, only⟩
      rw [EmittedName.eq_string_of_mapClass ofForm only inA,
        EmittedName.eq_string_of_mapClass ofForm only inB]
  · intro forms same
    obtain ⟨suffixA, emittedA, mappedA⟩ := exists_emittedName_eq settled a
    obtain ⟨suffixB, emittedB, mappedB⟩ := exists_emittedName_eq settled b
    rw [emittedA, emittedB] at same
    rcases List.append_eq_append_iff.1 same with ⟨suffix, longer, rest⟩ | ⟨suffix, longer, rest⟩
    · have proper : suffix ≠ [] := by
        rintro rfl
        simp [longer] at forms
      exact ⟨suffix, proper, .inl ⟨longer, mappedA (by simp [rest, proper])⟩⟩
    · have proper : suffix ≠ [] := by
        rintro rfl
        simp [longer] at forms
      exact ⟨suffix, proper, .inr ⟨longer, mappedB (by simp [rest, proper])⟩⟩

def neighbours : ServiceModel :=
  let text : Field := .string none default []
  let registry : Registry :=
    ⟨.ofList [("A", text), ("A1", .boolean), ("a", text)], .empty⟩
  { ServiceModel.empty with registry := registry, typeMappings := registry.typeMappings }

theorem emittedName_eq_iff_neighbours :
    neighbours.emittedName "A" ≠ neighbours.emittedName "a" ∧
      (Text.upperFirst "A" ≠ Text.upperFirst "A1" →
        neighbours.emittedName "A" = neighbours.emittedName "A1" →
        ∃ suffix, suffix ≠ [] ∧
          (Text.upperFirst "A1" = Text.upperFirst "A" ++ suffix ∧
              ("A" : Text) ∈ neighbours.typeMappings.keys ∨
            Text.upperFirst "A" = Text.upperFirst "A1" ++ suffix ∧
              ("A1" : Text) ∈ neighbours.typeMappings.keys)) := by
  have text : ¬ neighbours.registry.OnlyStrings (Text.upperFirst "A") := by
    rintro ⟨form, -⟩
    exact absurd form (by decide +kernel)
  have ofA : neighbours.registry.Defines "A" := .inl (by decide +kernel)
  have inClass := (emittedName_eq_iff rfl ofA (b := "a") (.inl (by decide +kernel)) (by decide)).1
    (by decide +kernel)
  refine ⟨fun same => text (inClass.1 same), ?_⟩
  exact (emittedName_eq_iff rfl ofA (b := "A1") (.inl (by decide +kernel)) (by decide)).2

/-- A number that is added can make one name what another one is already. -/
theorem emittedName_neighbours :
    neighbours.typeMappings = neighbours.registry.typeMappings ∧
      neighbours.registry.Defines "A" ∧ neighbours.registry.Defines "A1" ∧
      ("A" : Text) ≠ "A1" ∧ Text.upperFirst "A" ≠ "String" ∧
      neighbours.emittedName "A" = "A1" ∧ neighbours.emittedName "A1" = "A1" :=
  ⟨rfl, .inl (by decide +kernel), .inl (by decide +kernel), by decide, by decide +kernel,
    by decide +kernel, by decide +kernel⟩

end ApiModel

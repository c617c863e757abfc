import ApiModel.Document.Parse
import ApiModel.Compile.Build
import ApiModel.Model.Read
import ApiModel.Model.Write
import ApiModel.Proofs.Concur
import ApiModel.Proofs.JsonRoundTrip

/-! The written form of a model, read as a model again. Names are written as far as they have
characters; all else comes back as it was. -/
namespace ApiModel

/-! Reading the parts of a record. -/

namespace Validation

variable {α β : Type}

namespace Checked

@[simp] theorem map_accepted (f : α → β) (a : α) : f <$> accepted a = accepted (f a) := rfl

@[simp] theorem seq_accepted (f : α → β) (a : α) : accepted f <*> accepted a = accepted (f a) := rfl

@[simp] theorem under_accepted (step : Step) (a : α) : (accepted a).under step = accepted a := rfl

end Checked

@[simp] theorem record_ofEntries (reader : Entries → Checked α) (entries : List (Text × Value)) :
    record reader (.ofEntries entries) = reader (entries.map fun e => (.str e.1, e.2)) := rfl

@[simp] theorem lookupText_cons (name key : Text) (v : Value) (es : Entries) :
    Value.lookupText name ((.str key, v) :: es) =
      if key = name then some v else Value.lookupText name es := by
  simp [Value.lookupText, Value.isText]

@[simp] theorem text_str (s : Text) : text (.str s) = .accepted s := rfl

@[simp] theorem integer_int (n : Int) : integer (.int n) = .accepted n := rfl

@[simp] theorem truth_bool (b : Bool) : truth (.bool b) = .accepted b := rfl

@[simp] theorem nullable_ofText? (text? : Option Text) :
    nullable text (Value.ofText? text?) = .accepted text? := by
  cases text? <;> rfl

@[simp] theorem nullable_ofInt? (n? : Option Int) :
    nullable integer (Value.ofInt? n?) = .accepted n? := by
  cases n? <;> rfl

@[simp] theorem nullable_bound (origin : Number.Origin) (b? : Option Bound) :
    nullable (bound origin) (Bound.toValue? b?) = .accepted b? := by
  rcases b? with _ | _ | _ <;> rfl

theorem itemsFrom_map {write : α → Value} {reader : Value → Checked α}
    (read : ∀ a, reader (write a) = .accepted a) (items : List α) (n : Nat) :
    itemsFrom reader n (items.map write) = .accepted items := by
  induction items generalizing n with
  | nil => rfl
  | cons a items ih => simp [itemsFrom, read, ih]

@[simp] theorem list_map {write : α → Value} {reader : Value → Checked α}
    (read : ∀ a, reader (write a) = .accepted a) (items : List α) :
    list reader (.list (items.map write)) = .accepted items :=
  itemsFrom_map read items 0

@[simp] theorem list_ofTexts (texts : List Text) : list text (.ofTexts texts) = .accepted texts :=
  list_map text_str texts

end Validation

open Validation

/-! Entities. Each is a record that finds its fields by their names, which differ. -/

@[simp] theorem LengthRange.read_toValue (r : LengthRange) : read r.toValue = .accepted r := by
  simp [read, toValue, fieldOr, fieldEntry?, Text.ofString_inj]

@[simp] theorem NumericRange.read_toValue (r : NumericRange) : read r.toValue = .accepted r := by
  simp [read, toValue, fieldOr, fieldEntry?, Text.ofString_inj]

@[simp] theorem EnumerationValue.read_toValue (v : EnumerationValue) :
    read v.toValue = .accepted v := by
  simp [read, toValue, field, fieldEntry?, Text.ofString_inj]

namespace Field

theorem readParts_parts (f : Field) (tag : Value) :
    readParts f.kind ((.str "kind", tag) :: f.parts.map fun e => (.str e.1, e.2)) =
      .accepted f := by
  cases f <;> simp [kind, parts, readParts, readLength, readNumericRange, fieldOr, Validation.field,
    fieldEntry?, Text.ofString_inj]

theorem find?_tag (kind : Kind) :
    (Kind.all.find? fun other => (Value.str kind.tag).isText other.tag) = some kind := by
  cases kind <;> rfl

@[simp] theorem read_toValue (f : Field) : read f.toValue = .accepted f := by
  rw [toValue, Value.ofEntries, List.map_cons, read, lookupText_cons, if_pos rfl]
  simp only [find?_tag, readParts_parts, Checked.under_accepted]

end Field

@[simp] theorem Member.read_toValue (m : Member) : read m.toValue = .accepted m := by
  simp [read, toValue, field, fieldOr, fieldEntry?, Text.ofString_inj]

@[simp] theorem InputLocation.read_word (l : InputLocation) : read (.str l.word) = .accepted l := by
  cases l <;> rfl

@[simp] theorem InputDescription.read_toValue (d : InputDescription) :
    read d.toValue = .accepted d := by
  simp [read, toValue, fieldOr, fieldEntry?, Text.ofString_inj]

@[simp] theorem OutputDescription.read_toValue (d : OutputDescription) :
    read d.toValue = .accepted d := by
  simp [read, toValue, fieldOr, fieldEntry?, Text.ofString_inj]

@[simp] theorem OperationError.read_toValue (e : OperationError) :
    read e.toValue = .accepted e := by
  simp [read, toValue, field, fieldEntry?, Text.ofString_inj]

@[simp] theorem OperationDescription.read_toValue (d : OperationDescription) :
    read d.toValue = .accepted d := by
  simp [read, toValue, fieldOr, fieldEntry?, Text.ofString_inj]

@[simp] theorem ServiceInformation.read_toValue (i : ServiceInformation) :
    read i.toValue = .accepted i := by
  simp [read, toValue, field, fieldOr, fieldEntry?, Text.ofString_inj]

/-! Names. -/

namespace Text

/-- Whether a text has characters throughout. -/
def IsWhole (text : Text) : Prop := ∀ c ∈ text, c.toChar?.isSome = true

instance (text : Text) : Decidable text.IsWhole :=
  inferInstanceAs (Decidable (∀ c ∈ text, c.toChar?.isSome = true))

theorem isWhole_lossy (text : Text) : IsWhole (lossy text) := by
  intro c listed
  obtain ⟨d, -, made⟩ := List.mem_flatMap.1 listed
  cases d with
  | char d =>
    rw [List.mem_singleton.1 made]
    rfl
  | half offset =>
    rw [List.eq_of_mem_replicate made]
    rfl

theorem lossy_eq_self_iff {text : Text} : lossy text = text ↔ IsWhole text := by
  constructor
  · intro same
    rw [← same]
    exact isWhole_lossy text
  · intro whole
    induction text with
    | nil => rfl
    | cons c text ih =>
      have rest := ih fun d listed => whole d (List.mem_cons_of_mem _ listed)
      cases c with
      | char c =>
        rw [lossy, List.flatMap_cons, ← lossy, rest]
        rfl
      | half offset => cases whole _ List.mem_cons_self

end Text

namespace OrderedMap

variable {α β : Type}

def spelled (m : OrderedMap α) : OrderedMap α :=
  ofList (m.entries.map fun e => (Text.lossy e.1, e.2))

theorem toValue_eq (write : α → Value) (m : OrderedMap α) :
    m.toValue write = .ofEntries (m.spelled.mapVals write).entries := by
  rw [spelled, ofList, mapVals_foldl_insert, List.map_map]
  rfl

theorem isWhole_of_mem_spelled {m : OrderedMap α} {key : Text} (listed : key ∈ m.spelled.keys) :
    key.IsWhole := by
  obtain ⟨_, made, rfl⟩ := List.mem_map.1 (mem_keys_ofList.1 listed)
  obtain ⟨e, -, rfl⟩ := List.mem_map.1 made
  exact Text.isWhole_lossy e.1

theorem spelled_eq_self_iff {m : OrderedMap α} : m.spelled = m ↔ ∀ key ∈ m.keys, key.IsWhole := by
  constructor
  · intro same key listed
    rw [← same] at listed
    exact isWhole_of_mem_spelled listed
  · intro whole
    have kept : (m.entries.map fun e => (Text.lossy e.1, e.2)) = m.entries := by
      rw [List.map_congr_left (g := id), List.map_id]
      intro e listed
      rw [Text.lossy_eq_self_iff.2 (whole e.1 (List.mem_map_of_mem listed))]
      rfl
    rw [spelled, kept]
    exact OrderedMap.ext (entries_ofList m.nodup)

theorem mapVals_spelled_eq_self_iff {m : OrderedMap α} {f : α → α} :
    m.spelled.mapVals f = m ↔ (∀ key ∈ m.keys, key.IsWhole) ∧ ∀ v ∈ m.values, f v = v := by
  constructor
  · intro same
    have whole : ∀ key ∈ m.keys, key.IsWhole := by
      intro key listed
      rw [← same, keys_mapVals] at listed
      exact isWhole_of_mem_spelled listed
    rw [spelled_eq_self_iff.2 whole] at same
    exact ⟨whole, mapVals_eq_self_iff.1 same⟩
  · rintro ⟨whole, kept⟩
    rw [spelled_eq_self_iff.2 whole]
    exact mapVals_eq_self_iff.2 kept

theorem entries_ofEntries {reader : Value → Checked β} {write : α → Value} {f : α → β}
    (read : ∀ a, reader (write a) = .accepted (f a)) (l : List (Text × α)) :
    Validation.entries reader ((l.map fun e => (e.1, write e.2)).map fun e => (.str e.1, e.2)) =
      .accepted (l.map fun e => (e.1, f e.2)) := by
  induction l with
  | nil => rfl
  | cons e l ih =>
    rw [List.map_cons, List.map_cons, Validation.entries, ih, read]
    rfl

theorem textMap_toValue {reader : Value → Checked β} {write : α → Value} {f : α → β}
    (read : ∀ a, reader (write a) = .accepted (f a)) (m : OrderedMap α) :
    textMap reader (m.toValue write) = .accepted (m.spelled.mapVals f) := by
  have kept : ofList (m.spelled.mapVals f).entries = m.spelled.mapVals f :=
    OrderedMap.ext (entries_ofList (m.spelled.mapVals f).nodup)
  rw [toValue_eq, Value.ofEntries, textMap, mapVals, entries_ofEntries read]
  exact congrArg Checked.accepted kept

@[simp] theorem textMap_toValue_same {reader : Value → Checked α} {write : α → Value}
    (read : ∀ a, reader (write a) = .accepted a) (m : OrderedMap α) :
    textMap reader (m.toValue write) = .accepted m.spelled := by
  have same : m.spelled.mapVals id = m.spelled := mapVals_eq_self_iff.2 fun _ _ => rfl
  rw [textMap_toValue (f := id) read, same]

end OrderedMap

/-! Sets. -/

theorem insertSorted_of_lt {text : Text} {l : List Text} (last : ∀ other ∈ l, other < text) :
    insertSorted text l = l ++ [text] := by
  induction l with
  | nil => rfl
  | cons first l ih =>
    have before := last first List.mem_cons_self
    have after : ¬ text < first := fun h => Text.lt_irrefl _ (Text.lt_trans before h)
    have other : text ≠ first := by
      rintro rfl
      exact after before
    rw [insertSorted, if_neg after, if_neg other,
      ih fun other listed => last other (List.mem_cons_of_mem _ listed)]
    rfl

theorem TextSet.ofList_members (s : TextSet) : TextSet.ofList s.members = s := by
  have appended : ∀ (l : List Text) (t : TextSet), (t.members ++ l).Pairwise (· < ·) →
      (l.foldl insert t).members = t.members ++ l := by
    intro l
    induction l with
    | nil => simp
    | cons text l ih =>
      intro t increasing
      have last : ∀ other ∈ t.members, other < text := fun other listed =>
        (List.pairwise_append.1 increasing).2.2 other listed text List.mem_cons_self
      have placed : (t.insert text).members = t.members ++ [text] := insertSorted_of_lt last
      rw [List.foldl_cons, ih (t.insert text) (by simpa [placed] using increasing), placed]
      simp
  have members := appended s.members empty s.increasing
  cases h : TextSet.ofList s.members with
  | mk l increasing =>
    rw [← TextSet.ofList, h] at members
    cases members
    rfl

@[simp] theorem Validation.textSet_members (s : TextSet) :
    textSet (.ofTexts s.members) = .accepted s := by
  rw [Value.ofTexts, textSet, itemsFrom_map text_str]
  exact congrArg Checked.accepted s.ofList_members

/-! The model. -/

def Structure.spelled (s : Structure) : Structure := { s with members := s.members.spelled }

theorem Structure.read_toValue (s : Structure) : read s.toValue = .accepted s.spelled := by
  simp [read, toValue, fieldOr, fieldEntry?, Text.ofString_inj, spelled]

theorem Structure.spelled_eq_self_iff {s : Structure} :
    s.spelled = s ↔ ∀ key ∈ s.members.keys, key.IsWhole := by
  rw [← OrderedMap.spelled_eq_self_iff]
  cases s
  simp [spelled]

@[simp] theorem ServiceInformation.read_toValue? (i? : Option ServiceInformation) :
    nullable read (toValue? i?) = .accepted i? := by
  cases i? with
  | none => rfl
  | some i => exact congrArg (some <$> ·) i.read_toValue

namespace ServiceModel

def spelled (m : ServiceModel) : ServiceModel :=
  { m with
    registry := ⟨m.registry.fields.spelled, m.registry.structures.spelled.mapVals Structure.spelled⟩
    operations := m.operations.spelled
    typeMappings := m.typeMappings.spelled }

def names (m : ServiceModel) : List Text :=
  m.registry.fields.keys ++ m.registry.structures.keys ++
    m.registry.structures.values.flatMap (fun s => s.members.keys) ++ m.operations.keys ++
    m.typeMappings.keys

theorem read_toValue (m : ServiceModel) : read m.toValue = .accepted m.spelled := by
  have structures := OrderedMap.textMap_toValue Structure.read_toValue m.registry.structures
  have mappings := OrderedMap.textMap_toValue_same text_str m.typeMappings
  simp [read, toValue, fieldOr, fieldEntry?, Text.ofString_inj, structures, mappings, spelled]

theorem spelled_eq_self_iff {m : ServiceModel} :
    m.spelled = m ↔ ∀ name ∈ m.names, name.IsWhole := by
  have parts : m.spelled = m ↔ m.registry.fields.spelled = m.registry.fields ∧
      m.registry.structures.spelled.mapVals Structure.spelled = m.registry.structures ∧
      m.operations.spelled = m.operations ∧ m.typeMappings.spelled = m.typeMappings := by
    rcases m with ⟨_, ⟨_, _⟩, _, _, _⟩
    simp [spelled, and_assoc]
  rw [parts, OrderedMap.mapVals_spelled_eq_self_iff]
  simp only [OrderedMap.spelled_eq_self_iff, Structure.spelled_eq_self_iff, names, List.mem_append,
    List.mem_flatMap]
  grind

end ServiceModel

/-! The model as JSON. -/

def Bound.isInteger : Bound → Bool
  | int _ => true
  | float _ => false

def NumericRange.hasIntegers (r : NumericRange) : Bool :=
  r.minimum.all Bound.isInteger && r.maximum.all Bound.isInteger

def Field.hasIntegers : Field → Bool
  | integer r | long r | double r => r.hasIntegers
  | _ => true

def ServiceModel.hasIntegers (m : ServiceModel) : Bool :=
  m.registry.fields.values.all Field.hasIntegers

namespace Json

attribute [simp] Exact.null Exact.bool Exact.int Exact.str

@[simp] theorem exact_ofText? (text? : Option Text) : Exact (.ofText? text?) := by
  cases text? <;> simp [Value.ofText?]

@[simp] theorem exact_ofInt? (n? : Option Int) : Exact (.ofInt? n?) := by
  cases n? <;> simp [Value.ofInt?]

theorem exact_bound {b? : Option Bound} (integer : b?.all Bound.isInteger = true) :
    Exact (Bound.toValue? b?) := by
  rcases b? with _ | _ | _
  · exact .null
  · exact .int _
  · cases integer

theorem exact_map {α : Type} {write : α → Value} {items : List α}
    (inner : ∀ a ∈ items, Exact (write a)) : Exact (.list (items.map write)) :=
  .list (List.forall_mem_map.2 inner)

@[simp] theorem exact_ofTexts (texts : List Text) : Exact (.ofTexts texts) :=
  exact_map fun text _ => .str text

theorem exact_toValue {α : Type} {write : α → Value} {m : OrderedMap α}
    (inner : ∀ v ∈ m.values, Exact (write v)) : Exact (m.toValue write) := by
  rw [OrderedMap.toValue_eq]
  refine .map (m.spelled.mapVals write).nodup (List.forall_mem_map.2 ?_)
  rintro ⟨key, v⟩ listed
  have put := OrderedMap.mem_of_get?_ofList (OrderedMap.get?_eq_some_iff.2 listed)
  obtain ⟨e, own, same⟩ := List.mem_map.1 put
  cases same
  exact inner e.2 (List.mem_map_of_mem own)

/-! Entities, with the same names as keys. -/

@[simp] theorem exact_length (r : LengthRange) : Exact r.toValue :=
  .map (by simp [Text.ofString_inj]) (by simp)

theorem exact_range {r : NumericRange} (integers : r.hasIntegers = true) : Exact r.toValue := by
  rw [NumericRange.hasIntegers, Bool.and_eq_true] at integers
  exact .map (by simp [Text.ofString_inj])
    (by simp [exact_bound integers.1, exact_bound integers.2])

theorem exact_value (v : EnumerationValue) : Exact v.toValue :=
  .map (by simp [Text.ofString_inj]) (by simp)

theorem exact_field {f : Field} (integers : f.hasIntegers = true) : Exact f.toValue := by
  refine .map ?_ ?_
  · cases f <;> simp [Field.parts, Text.ofString_inj]
  · rw [List.forall_mem_cons]
    refine ⟨.str _, ?_⟩
    cases f with
    | string pattern length values => simp [Field.parts, exact_map fun v _ => exact_value v]
    | integer r | long r | double r => simp [Field.parts, exact_range integers]
    | boolean | timestamp | binary => simp [Field.parts]
    | list element length => simp [Field.parts]
    | map key value length => simp [Field.parts]

theorem exact_member (m : Member) : Exact m.toValue :=
  .map (by simp [Text.ofString_inj]) (by simp)

theorem exact_structure (s : Structure) : Exact s.toValue :=
  .map (by simp [Text.ofString_inj]) (by simp [exact_toValue fun m _ => exact_member m])

theorem exact_input (d : InputDescription) : Exact d.toValue :=
  .map (by simp [Text.ofString_inj]) (by simp)

theorem exact_output (d : OutputDescription) : Exact d.toValue :=
  .map (by simp [Text.ofString_inj]) (by simp)

theorem exact_error (e : OperationError) : Exact e.toValue :=
  .map (by simp [Text.ofString_inj]) (by simp)

theorem exact_operation (d : OperationDescription) : Exact d.toValue :=
  .map (by simp [Text.ofString_inj])
    (by simp [exact_input, exact_output, exact_map fun e _ => exact_error e])

theorem exact_information (i? : Option ServiceInformation) :
    Exact (ServiceInformation.toValue? i?) := by
  cases i? with
  | none => exact .null
  | some i => exact .map (by simp [Text.ofString_inj]) (by simp)

theorem exact_model {m : ServiceModel} (integers : m.hasIntegers = true) : Exact m.toValue := by
  have fields : Exact (m.registry.fields.toValue Field.toValue) :=
    exact_toValue fun f listed => exact_field (List.all_eq_true.1 integers f listed)
  exact .map (by simp [Text.ofString_inj])
    (by simp [fields, exact_information, exact_toValue fun s _ => exact_structure s,
      exact_toValue fun d _ => exact_operation d, exact_toValue fun text _ => .str text])

end Json

namespace ServiceModel

open Compile

variable {m : ServiceModel}

theorem parse_toJson (integers : m.hasIntegers = true)
    (short : m.toValue.hasLong = false) {layout : Json.Layout} (blank : layout.IsBlank) :
    ∃ entries, m.toValue = .map entries ∧
      Document.parse .json (m.toJson layout) = pure entries := by
  refine ⟨_, rfl, ?_⟩
  rw [Document.parse, toJson, Json.parse_write blank (Json.exact_model integers) short]
  · rfl
  · exact nofun

/-- A model without decimals is written unless an integer is too long. What is written is read as
the written form, and this as the model again, exactly if its names have characters throughout. -/
theorem read_dump (integers : m.hasIntegers = true) (width : Nat) :
    (m.toValue.hasLong = true → m.dump (.blanks width) = .error .longInteger) ∧
    (m.toValue.hasLong = false → ∃ text entries, m.dump (.blanks width) = .ok text ∧
      Document.parse .json text = pure entries ∧ m.toValue = .map entries ∧
      read (.map entries) = .accepted m.spelled ∧
      (m.spelled = m ↔ ∀ name ∈ m.names, name.IsWhole)) := by
  constructor
  · intro long
    rw [dump, if_pos long]
  · intro short
    obtain ⟨entries, value, parsed⟩ :=
      parse_toJson integers short (Json.Layout.isBlank_blanks width)
    refine ⟨m.toJson (.blanks width), entries, ?_, parsed, value, ?_, spelled_eq_self_iff⟩
    · rw [dump, short]
      rfl
    · rw [← value]
      exact m.read_toValue

def countsFrom (name : Text) (least : Int) : Api.Description where
  info := ⟨"Counts", "1", none⟩
  servers := []
  schemas := .ofList
    [(name, .integer default { (default : NumericRange) with minimum := some (.int least) })]
  operations := []
  version := "3.0.0"

theorem read_dump_countsFrom :
    ∃ m, (build (countsFrom "\"Co\\unt\"\n" (-5)) default).result = .ok m ∧
      m.hasIntegers = true ∧ m.toValue.hasLong = false ∧
      ∃ text entries, m.dump (.blanks 2) = .ok text ∧
        Document.parse .json text = pure entries ∧ m.toValue = .map entries ∧
        read (.map entries) = .accepted m.spelled ∧
        (m.spelled = m ↔ ∀ name ∈ m.names, name.IsWhole) := by
  obtain ⟨m, built, integers, short⟩ := exists_of_decided
    (x := (build (countsFrom "\"Co\\unt\"\n" (-5)) default).result)
    (p := fun m => m.hasIntegers = true ∧ m.toValue.hasLong = false) (by decide +kernel)
  exact ⟨m, built, integers, short, (read_dump integers 2).2 short⟩

/-- A model may hold an integer that cannot be written, or a name that does not come back. -/
theorem not_read_dump_countsFrom :
    (∃ m, (build (countsFrom "Count" (Number.tenTo Number.digitLimit)) default).result = .ok m ∧
      m.hasIntegers = true ∧ (∀ name ∈ m.names, name.IsWhole) ∧
      ∀ width, m.dump (.blanks width) = .error .longInteger) ∧
    ∃ m, (build (countsFrom [.half 0] 0) default).result = .ok m ∧
      m.hasIntegers = true ∧ m.toValue.hasLong = false ∧ read m.toValue ≠ .accepted m := by
  constructor
  · obtain ⟨m, built, integers, whole, long⟩ := exists_of_decided
      (x := (build (countsFrom "Count" (Number.tenTo Number.digitLimit)) default).result)
      (p := fun m => m.hasIntegers = true ∧ (∀ name ∈ m.names, name.IsWhole) ∧
        m.toValue.hasLong = true) (by decide +kernel)
    exact ⟨m, built, integers, whole, fun width => if_pos long⟩
  · obtain ⟨m, built, integers, short, broken⟩ := exists_of_decided
      (x := (build (countsFrom [.half 0] 0) default).result)
      (p := fun m => m.hasIntegers = true ∧ m.toValue.hasLong = false ∧
        ¬ ∀ name ∈ m.names, name.IsWhole) (by decide +kernel)
    refine ⟨m, built, integers, short, fun same => broken (spelled_eq_self_iff.1 ?_)⟩
    rw [read_toValue] at same
    exact Checked.accepted.inj same

end ServiceModel

end ApiModel

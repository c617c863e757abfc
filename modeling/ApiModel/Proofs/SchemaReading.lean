import ApiModel.Proofs.Concur
import ApiModel.Proofs.OrderedMap
import ApiModel.Schema.Read

/-! How schemas are read, one level at a time. -/
namespace ApiModel.Schema

variable {location : Location} {entries : List (Value × Value)}

abbrev Reader := Location → Value → Except ReadError Schema

def readBranchesBy (next : Reader) (location : Location) : Value → Except ReadError (List Schema)
  | .list items => items.zipIdx.mapM fun e => next (location.below (.ofNat e.2)) e.1
  | v => if v.isPresent then do readLeaves location 0 (← v.looseItems) else .ok []

def readPropertiesBy (next : Reader) (location : Location) (fields : List (Value × Value)) :
    Except ReadError (List (Text × Schema)) :=
  fields.mapM fun e => do
    let key ← e.1.shown
    return (key, ← next (location.below key) e.2)

def propertiesBy (next : Reader) (location : Location) (entries : List (Value × Value)) :
    Except ReadError (List (Text × Schema)) :=
  match Value.getPresent? "properties" entries with
  | some (.map fields) => readPropertiesBy next location fields
  | some _ => .error (.shape .notMapping)
  | none => .ok []

def partBy (next : Reader) (location : Location) : Option Value → Except ReadError (Option Schema)
  | some v => some <$> next location v
  | none => .ok none

def readTypedBy (next : Reader) (location : Location) (entries : List (Value × Value)) :
    TypeName → Except ReadError Schema
  | .boolean => Schema.boolean <$> (readNotes entries).orStop .schema
  | .untyped => Schema.fragment <$> (readNotes entries).orStop .schema
  | .integer => (Schema.integer <$> readNotes entries <*> readRange location entries).orStop .schema
  | .number => (Schema.number <$> readNotes entries <*> readRange location entries).orStop .schema
  | .string => (Schema.string <$> readNotes entries <*> readFacets entries).orStop .schema
  | .array => do
    let items ← partBy next (location.below "items") (Value.getSome? "items" entries)
    ((fun notes count => Schema.array notes count items)
      <$> readNotes entries <*> readItemCount entries).orStop .schema
  | .object => do
    let required ← requiredItems entries
    let properties ← propertiesBy next location entries
    let additional ← partBy next (location.below "additionalProperties") (additionalPart? entries)
    ((fun notes required => Schema.object notes required (distinctProperties properties) additional)
      <$> readNotes entries
      <*> (Validation.itemsFrom Validation.text 0 required).under (.name "required")).orStop .schema

def readMapBy (next : Reader) (location : Location) (entries : List (Value × Value)) :
    Except ReadError Schema :=
  match Pointer.of? entries with
  | some pointer =>
    match referenceName? pointer with
    | some name => Schema.reference name <$> (readDescription entries).orStop .schema
    | none => .error (.document (.notSchemaName pointer location.name))
  | none =>
    match unionPart? entries with
    | some (kind, part) => do
      let branches ← readBranchesBy next (location.below kind.keyword) part
      let description ← (readDescription entries).orStop .schema
      return .union kind description branches
    | none =>
      if Value.has "not" entries then Schema.negation <$> (readDescription entries).orStop .schema
      else typeName entries >>= readTypedBy next location entries

theorem distinctProperties_eq_entries {σ : Type} (properties : List (Text × σ)) :
    distinctProperties properties = (OrderedMap.ofList properties).entries :=
  OrderedMap.foldl_putEntry properties

theorem readItems_eq (location : Location) (n : Nat) (items : List Value) :
    readItems location n items =
      (items.zipIdx n).mapM fun e => read (location.below (.ofNat e.2)) e.1 := by
  induction items generalizing n with
  | nil =>
    rw [readItems]
    rfl
  | cons v rest ih =>
    rw [readItems, ih, List.zipIdx_cons, List.mapM_cons]

theorem readProperties_eq (location : Location) (fields : List (Value × Value)) :
    readProperties location fields = readPropertiesBy read location fields := by
  unfold readPropertiesBy
  induction fields with
  | nil =>
    rw [readProperties]
    rfl
  | cons e rest ih =>
    rw [readProperties, ih, List.mapM_cons]
    cases e.1.shown with
    | error e => rfl
    | ok key => simp only [bind, Except.bind]; cases read (location.below key) e.2 <;> rfl

theorem readBranches_eq (location : Location) (v : Value) :
    readBranches location v = readBranchesBy read location v := by
  cases v with
  | list items => rw [readBranches, readItems_eq, readBranchesBy]
  | _ =>
    rw [readBranches]
    · rfl
    · simp

theorem read_of_no_map {v : Value} (location : Location) (noMap : ∀ entries, v ≠ .map entries) :
    read location v = readLeaf location v := by
  cases v with
  | map entries => exact absurd rfl (noMap entries)
  | _ => rw [read]; simp

theorem read_map (location : Location) (entries : List (Value × Value)) :
    read location (.map entries) = readMapBy read location entries := by
  rw [read]
  unfold readMapBy
  cases Pointer.of? entries with
  | some pointer => rfl
  | none =>
    dsimp only
    split
    · rename_i kind part found
      rw [found, readBranches_eq]
    · rename_i missing
      rw [missing]
      dsimp only
      split
      · rfl
      · refine congrArg (typeName entries >>= ·) (funext fun type => ?_)
        cases type with
        | array =>
          dsimp only [readTypedBy]
          split <;> rename_i found <;> rw [found] <;> rfl
        | object =>
          dsimp only [readTypedBy, propertiesBy]
          refine congrArg (requiredItems entries >>= ·) (funext fun required => ?_)
          split
          · rename_i fields found
            rw [found, readProperties_eq]
            refine congrArg (readPropertiesBy read location fields >>= ·)
              (funext fun properties => ?_)
            split <;> rename_i given <;> rw [given] <;> rfl
          · rename_i part shape found
            rw [found]
            cases part with
            | map fields => exact absurd rfl (shape fields)
            | _ => rfl
          · rename_i found
            rw [found]
            dsimp only [pure, Except.pure, bind, Except.bind]
            split <;> rename_i given <;> rw [given] <;> rfl
        | _ => rfl

/-! Mappings with the same keywords. -/

def plainKeywords : List Text :=
  ["$ref", "type", "format", "description", "minimum", "maximum", "exclusiveMinimum",
    "exclusiveMaximum", "minLength", "maxLength", "pattern", "enum", "minItems", "maxItems"]

def partKeywords : List Text :=
  ["items", "additionalProperties", "properties", "required", "allOf", "anyOf", "oneOf"]

/-- Plain keywords with the same values, and the other ones of which only the presence counts. -/
structure SamePlain (es es' : List (Value × Value)) : Prop where
  look : ∀ key ∈ plainKeywords, Value.lookupText key es = Value.lookupText key es'
  presence : ∀ key ∈ ([("properties" : Text), "additionalProperties", "items", "not"] : List Text),
    Value.has key es = Value.has key es'

namespace SamePlain

variable {es es' : List (Value × Value)} (h : SamePlain es es')
include h

theorem get_eq (key : Text) (plain : key ∈ plainKeywords) :
    Value.get key es = Value.get key es' := by
  rw [Value.get, Value.get, h.look key plain]

theorem of?_eq : Pointer.of? es = Pointer.of? es' := by
  unfold Pointer.of?
  rw [h.look "$ref" (by simp [plainKeywords])]

theorem typeName_eq : typeName es = typeName es' := by
  unfold typeName declaredType
  rw [h.get_eq "type" (by simp [plainKeywords]), h.presence "properties" (by simp),
    h.presence "additionalProperties" (by simp), h.presence "items" (by simp)]

theorem readDescription_eq : readDescription es = readDescription es' := by
  unfold readDescription
  rw [h.get_eq "description" (by simp [plainKeywords])]

theorem readNotes_eq : readNotes es = readNotes es' := by
  unfold readNotes
  rw [h.get_eq "format" (by simp [plainKeywords]), h.readDescription_eq]

theorem readRange_eq (location : Location) : readRange location es = readRange location es' := by
  unfold readRange rangeEnd
  rw [h.get_eq "minimum" (by simp [plainKeywords]), h.get_eq "maximum" (by simp [plainKeywords]),
    h.get_eq "exclusiveMinimum" (by simp [plainKeywords]),
    h.get_eq "exclusiveMaximum" (by simp [plainKeywords])]

theorem readFacets_eq : readFacets es = readFacets es' := by
  unfold readFacets
  rw [h.get_eq "minLength" (by simp [plainKeywords]),
    h.get_eq "maxLength" (by simp [plainKeywords]),
    h.get_eq "pattern" (by simp [plainKeywords]), h.get_eq "enum" (by simp [plainKeywords])]

theorem readItemCount_eq : readItemCount es = readItemCount es' := by
  unfold readItemCount
  rw [h.get_eq "minItems" (by simp [plainKeywords]), h.get_eq "maxItems" (by simp [plainKeywords])]

end SamePlain

section SameKeywords

variable {es es' : List (Value × Value)}
  (same : ∀ key ∈ ("not" : Text) :: (plainKeywords ++ partKeywords),
    Value.lookupText key es = Value.lookupText key es')
include same

theorem samePlain_of_lookups : SamePlain es es' where
  look key listed := same key (by simp [listed])
  presence := by
    simp only [List.forall_mem_cons, Value.has]
    refine ⟨?_, ?_, ?_, ?_, by simp⟩ <;> rw [same _ (by simp [partKeywords])]

theorem readTypedBy_congr (next : Reader) (location : Location) :
    readTypedBy next location es = readTypedBy next location es' := by
  have plain := samePlain_of_lookups same
  have required : requiredItems es = requiredItems es' := by
    unfold requiredItems Value.getPresent?
    rw [same "required" (by simp [partKeywords])]
  have properties : propertiesBy next location es = propertiesBy next location es' := by
    unfold propertiesBy Value.getPresent?
    rw [same "properties" (by simp [partKeywords])]
  have additional : additionalPart? es = additionalPart? es' := by
    unfold additionalPart? Value.getSome?
    rw [same "additionalProperties" (by simp [partKeywords])]
  have items : Value.getSome? "items" es = Value.getSome? "items" es' := by
    unfold Value.getSome?
    rw [same "items" (by simp [partKeywords])]
  funext type
  cases type <;>
    simp only [readTypedBy, plain.readNotes_eq, plain.readRange_eq, plain.readFacets_eq,
      plain.readItemCount_eq, required, properties, additional, items]

theorem read_congr (location : Location) : read location (.map es) = read location (.map es') := by
  have plain := samePlain_of_lookups same
  have union : unionPart? es = unionPart? es' := by
    unfold unionPart?
    rw [same "allOf" (by simp [partKeywords]), same "anyOf" (by simp [partKeywords]),
      same "oneOf" (by simp [partKeywords])]
  rw [read_map, read_map]
  unfold readMapBy
  simp only [plain.of?_eq, plain.presence "not" (by simp), plain.typeName_eq,
    plain.readDescription_eq, union, readTypedBy_congr same]

end SameKeywords

end ApiModel.Schema

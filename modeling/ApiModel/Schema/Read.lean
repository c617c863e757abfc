import ApiModel.Document.Access
import ApiModel.Document.Location
import ApiModel.Document.Pointer
import ApiModel.Schema.Basic
import ApiModel.Validation.Bound
import ApiModel.Validation.Record

/-! Schemas from document values. The kind is decided by, in this order: a pointer, a union keyword,
`not`, and the type; a schema without a type is an object or a list if it says what it holds. -/
namespace ApiModel.Schema

open Validation (Checked)

inductive TypeName where
  | boolean
  | integer
  | number
  | string
  | object
  | array
  | untyped
  deriving DecidableEq, Repr

def typeNames : List (Text × TypeName) := [
  ("boolean", .boolean), ("integer", .integer), ("number", .number), ("string", .string),
  ("object", .object), ("array", .array)]

/-- The declared type; of several the first that is not `null`. -/
def declaredType (entries : List (Value × Value)) : Value :=
  match Value.get "type" entries with
  | .list types => (types.find? fun t => !t.isText "null").getD .null
  | v => v

def typeName (entries : List (Value × Value)) : Except ReadError TypeName :=
  match declaredType entries with
  | .null =>
    if Value.has "properties" entries || Value.has "additionalProperties" entries then .ok .object
    else if Value.has "items" entries then .ok .array
    else .ok .untyped
  | v => do
    let declared ← v.shown
    match typeNames.lookup declared with
    | some name => return name
    | none => throw (.document (.unknownType declared))

def facet {α : Type} (name : Text) (reader : Value → Checked α) (v : Value) :
    Checked (Option α) :=
  (Validation.nullable reader v).under (.name name)

def readDescription (entries : List (Value × Value)) : Checked (Option Text) :=
  facet "description" Validation.text (Value.get "description" entries)

def readNotes (entries : List (Value × Value)) : Checked Notes :=
  Notes.mk <$> facet "format" Validation.text (Value.get "format" entries)
    <*> readDescription entries

/-- One end of a range. An exclusive bound is either a mark on the plain bound or a bound of its
own, which then takes the place of the plain one. -/
def rangeEnd (plain exclusive : Text) (entries : List (Value × Value)) : Value × Bool :=
  match Value.get exclusive entries with
  | .bool b => (Value.get plain entries, b)
  | .int n => (.int n, true)
  | .float x => (.float x, true)
  | _ => (Value.get plain entries, false)

def readRange (location : Location) (entries : List (Value × Value)) : Checked NumericRange :=
  let low := rangeEnd "minimum" "exclusiveMinimum" entries
  let high := rangeEnd "maximum" "exclusiveMaximum" entries
  (fun minimum maximum => ⟨minimum, maximum, low.2, high.2⟩)
    <$> facet "minimum" (Validation.bound location.origin) low.1
    <*> facet "maximum" (Validation.bound location.origin) high.1

def readFacets (entries : List (Value × Value)) : Checked TextFacets :=
  (fun minimum maximum pattern values => ⟨⟨minimum, maximum⟩, pattern, values⟩)
    <$> facet "min_length" Validation.integer (Value.get "minLength" entries)
    <*> facet "max_length" Validation.integer (Value.get "maxLength" entries)
    <*> facet "pattern" Validation.text (Value.get "pattern" entries)
    <*> facet "enum_values" (Validation.list .accepted) (Value.get "enum" entries)

def readItemCount (entries : List (Value × Value)) : Checked LengthRange :=
  LengthRange.mk
    <$> facet "min_items" Validation.integer (Value.get "minItems" entries)
    <*> facet "max_items" Validation.integer (Value.get "maxItems" entries)

def unionPart? (entries : List (Value × Value)) : Option (UnionKind × Value) :=
  match Value.lookupText "allOf" entries with
  | some v => some (.allOf, v)
  | none =>
    match Value.lookupText "anyOf" entries with
    | some v => some (.anyOf, v)
    | none => (Value.lookupText "oneOf" entries).map fun v => (.oneOf, v)

theorem sizeOf_unionPart? {entries : List (Value × Value)} {kind : UnionKind} {v : Value}
    (h : unionPart? entries = some (kind, v)) : sizeOf v < sizeOf entries := by
  unfold unionPart? at h
  split at h
  · rename_i found
    cases h
    exact Value.sizeOf_lookupText found
  · split at h
    · rename_i found
      cases h
      exact Value.sizeOf_lookupText found
    · obtain ⟨w, found, e⟩ := Option.map_eq_some_iff.1 h
      cases e
      exact Value.sizeOf_lookupText found

def referenceName? (pointer : Text) : Option SchemaName :=
  (Pointer.schemaName? pointer).pmap Subtype.mk fun _ named => Pointer.schemaName?_ne_nil named

theorem referenceName?_eq_some_iff {pointer : Text} {name : SchemaName} :
    referenceName? pointer = some name ↔ Pointer.schemaName? pointer = some name.val := by
  obtain ⟨name, some⟩ := name
  simp [referenceName?, Option.pmap_eq_some_iff, some]

/-- Without fields of its own, only `true` is a schema: one that says nothing. -/
def readLeaf (location : Location) : Value → Except ReadError Schema
  | .bool true => .ok (.fragment ⟨none, none⟩)
  | v => .error (.document (.schemaNotObject location.name v.kindWord))

def readLeaves (location : Location) : Nat → List Value → Except ReadError (List Schema)
  | _, [] => .ok []
  | n, v :: rest => do
    let first ← readLeaf (location.below (.ofNat n)) v
    return first :: (← readLeaves location (n + 1) rest)

def distinctProperties {σ : Type} (properties : List (Text × σ)) : List (Text × σ) :=
  properties.foldl (fun l p => putEntry p.1 p.2 l) []

def requiredItems (entries : List (Value × Value)) : Except ReadError (List Value) :=
  match Value.getPresent? "required" entries with
  | some v => v.items
  | none => .ok []

/-- The schema of the properties without a name; a truth value says nothing about them. -/
def additionalPart? (entries : List (Value × Value)) : Option Value :=
  match Value.getSome? "additionalProperties" entries with
  | some (.bool _) => none
  | v => v

theorem sizeOf_additionalPart? {entries : List (Value × Value)} {v : Value}
    (h : additionalPart? entries = some v) : sizeOf v < sizeOf entries := by
  unfold additionalPart? at h
  split at h
  · contradiction
  · exact Value.sizeOf_getSome? h

mutual
/-- The schema that a value describes; the location stands in messages. -/
def read (location : Location) (v : Value) : Except ReadError Schema :=
  match v with
  | .map entries =>
    match Pointer.of? entries with
    | some pointer =>
      match referenceName? pointer with
      | some name => do
        let description ← (readDescription entries).orStop .schema
        return .reference name description
      | none => .error (.document (.notSchemaName pointer location.name))
    | none =>
      match _h : unionPart? entries with
      | some (kind, part) => do
        let branches ← readBranches (location.below kind.keyword) part
        let description ← (readDescription entries).orStop .schema
        return .union kind description branches
      | none =>
        if Value.has "not" entries then do
          let description ← (readDescription entries).orStop .schema
          return .negation description
        else do
          match ← typeName entries with
          | .boolean => return .boolean (← (readNotes entries).orStop .schema)
          | .untyped => return .fragment (← (readNotes entries).orStop .schema)
          | .integer =>
            (Schema.integer <$> readNotes entries <*> readRange location entries).orStop .schema
          | .number =>
            (Schema.number <$> readNotes entries <*> readRange location entries).orStop .schema
          | .string =>
            (Schema.string <$> readNotes entries <*> readFacets entries).orStop .schema
          | .array =>
            let items ← match _h : Value.getSome? "items" entries with
              | some part => some <$> read (location.below "items") part
              | none => pure none
            ((fun notes count => Schema.array notes count items)
              <$> readNotes entries <*> readItemCount entries).orStop .schema
          | .object =>
            let required ← requiredItems entries
            let properties ← match _h : Value.getPresent? "properties" entries with
              | some (.map fields) => readProperties location fields
              | some _ => .error (.shape .notMapping)
              | none => pure []
            let additional ← match _h : additionalPart? entries with
              | some part => some <$> read (location.below "additionalProperties") part
              | none => pure none
            ((fun notes required =>
                Schema.object notes required (distinctProperties properties) additional)
              <$> readNotes entries
              <*> (Validation.itemsFrom Validation.text 0 required).under
                (.name "required")).orStop .schema
  | v => readLeaf location v
termination_by sizeOf v
decreasing_by
  · have := sizeOf_unionPart? _h; simp; omega
  · have := Value.sizeOf_getSome? _h; simp; omega
  · have := sizeOf_additionalPart? _h; simp; omega
  · have := Value.sizeOf_getPresent? _h; simp at this ⊢; omega

def readBranches (location : Location) (v : Value) : Except ReadError (List Schema) :=
  match v with
  | .list items => readItems location 0 items
  | v => if v.isPresent then do readLeaves location 0 (← v.looseItems) else .ok []
termination_by sizeOf v

def readItems (location : Location) (n : Nat) (items : List Value) :
    Except ReadError (List Schema) :=
  match items with
  | [] => .ok []
  | v :: rest => do
    let first ← read (location.below (.ofNat n)) v
    return first :: (← readItems location (n + 1) rest)
termination_by sizeOf items

def readProperties (location : Location) (fields : List (Value × Value)) :
    Except ReadError (List (Text × Schema)) :=
  match fields with
  | [] => .ok []
  | (k, v) :: rest => do
    let key ← k.shown
    let first ← read (location.below key) v
    return (key, first) :: (← readProperties location rest)
termination_by sizeOf fields
end

end ApiModel.Schema

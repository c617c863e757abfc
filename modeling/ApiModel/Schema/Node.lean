import ApiModel.Schema.Attributes
import ApiModel.Schema.Read

/-! Schemas as flat records. A mapping fills a draft, keyword by keyword and by the kind that it
declares; the draft is checked as a whole. Nothing in the record itself ties an attribute to a
kind. -/
namespace ApiModel.Schema

open Validation (Checked)

def TypeName.kindWord : TypeName → Text
  | boolean => "boolean"
  | integer => "integer"
  | number => "number"
  | string => "string"
  | object => "object"
  | array => "array"
  | untyped => "fragment"

inductive Node where
  | mk (attributes : Attributes Node)

namespace Node

def attributes : Node → Attributes Node
  | mk a => a

structure RangeEnd where
  bound : Value := .null
  exclusive : Bool := false

def RangeEnd.marked (e : RangeEnd) : Value → RangeEnd
  | .bool b => { e with exclusive := b }
  | .int n => ⟨.int n, true⟩
  | .float x => ⟨.float x, true⟩
  | _ => e

structure Draft where
  kind : Text
  format : Value := .null
  description : Value := .null
  low : RangeEnd := {}
  high : RangeEnd := {}
  minLength : Value := .null
  maxLength : Value := .null
  pattern : Value := .null
  values : Value := .null
  minItems : Value := .null
  maxItems : Value := .null
  items : Option Node := none
  required : List Value := []
  properties : List (Text × Node) := []
  additional : Option Node := none
  branches : List Node := []
  reference : Option Text := none

namespace Draft

def checkedRange (location : Location) (d : Draft) : Checked NumericRange :=
  (fun minimum maximum => ⟨minimum, maximum, d.low.exclusive, d.high.exclusive⟩)
    <$> facet "minimum" (Validation.bound location.origin) d.low.bound
    <*> facet "maximum" (Validation.bound location.origin) d.high.bound

def checkedLength (d : Draft) : Checked LengthRange :=
  LengthRange.mk
    <$> facet "min_length" Validation.integer d.minLength
    <*> facet "max_length" Validation.integer d.maxLength

def checkedItemCount (d : Draft) : Checked LengthRange :=
  LengthRange.mk
    <$> facet "min_items" Validation.integer d.minItems
    <*> facet "max_items" Validation.integer d.maxItems

/-- Every attribute is checked, whatever the kind, in the order of the record. -/
def check (location : Location) (d : Draft) : Checked Node :=
  (fun format description range length pattern values itemCount required =>
      .mk { d with format, description, range, length, pattern, values, itemCount, required })
    <$> facet "format" Validation.text d.format
    <*> facet "description" Validation.text d.description
    <*> d.checkedRange location
    <*> d.checkedLength
    <*> facet "pattern" Validation.text d.pattern
    <*> facet "enum_values" (Validation.list .accepted) d.values
    <*> d.checkedItemCount
    <*> (Validation.itemsFrom Validation.text 0 d.required).under (.name "required")

def finish (location : Location) (d : Draft) : Except ReadError Node :=
  (d.check location).orStop .schema

def described (kind : Text) (entries : List (Value × Value)) : Draft :=
  { kind, description := Value.get "description" entries }

def typed (type : TypeName) (entries : List (Value × Value)) : Draft :=
  { described type.kindWord entries with format := Value.get "format" entries }

def withBounds (d : Draft) (entries : List (Value × Value)) : Draft :=
  { d with
    low := RangeEnd.marked ⟨Value.get "minimum" entries, false⟩
      (Value.get "exclusiveMinimum" entries)
    high := RangeEnd.marked ⟨Value.get "maximum" entries, false⟩
      (Value.get "exclusiveMaximum" entries) }

def withFacets (d : Draft) (entries : List (Value × Value)) : Draft :=
  { d with
    minLength := Value.get "minLength" entries
    maxLength := Value.get "maxLength" entries
    pattern := Value.get "pattern" entries
    values := Value.get "enum" entries }

def withItems (d : Draft) (entries : List (Value × Value)) (items : Option Node) : Draft :=
  { d with
    minItems := Value.get "minItems" entries, maxItems := Value.get "maxItems" entries, items }

end Draft

def readLeaf (location : Location) : Value → Except ReadError Node
  | .bool true => Draft.finish location { kind := "fragment" }
  | v => .error (.document (.schemaNotObject location.name v.kindWord))

def readLeaves (location : Location) : Nat → List Value → Except ReadError (List Node)
  | _, [] => .ok []
  | n, v :: rest => do
    let first ← readLeaf (location.below (.ofNat n)) v
    return first :: (← readLeaves location (n + 1) rest)

def readReference (location : Location) (entries : List (Value × Value)) (pointer : Text) :
    Except ReadError Node :=
  match Pointer.schemaName? pointer with
  | some name =>
    Draft.finish location { Draft.described "reference" entries with reference := some name }
  | none => .error (.document (.notSchemaName pointer location.name))

theorem sizeOf_part_lt {part : Option Value} {entries : List (Value × Value)}
    (smaller : ∀ v, part = some v → sizeOf v < sizeOf entries) :
    2 * sizeOf part < 2 * sizeOf entries + 2 := by
  cases part with
  | none =>
    have positive : 0 < sizeOf entries := by
      cases entries <;> simp only [List.nil.sizeOf_spec, List.cons.sizeOf_spec] <;> omega
    simp only [Option.none.sizeOf_spec]
    omega
  | some v =>
    have := smaller v rfl
    simp
    omega

mutual
def read (location : Location) (v : Value) : Except ReadError Node :=
  match v with
  | .map entries =>
    match Pointer.of? entries with
    | some pointer => readReference location entries pointer
    | none =>
      match _h : unionPart? entries with
      | some (kind, part) => do
        let branches ← readBranches (location.below kind.keyword) part
        Draft.finish location { Draft.described kind.word entries with branches }
      | none =>
        if Value.has "not" entries then (Draft.described "not" entries).finish location
        else do
          readTyped location entries (← typeName entries)
  | v => readLeaf location v
termination_by 2 * sizeOf v + 1
decreasing_by
  · have := sizeOf_unionPart? _h; simp; omega
  · simp; omega

def readTyped (location : Location) (entries : List (Value × Value)) (type : TypeName) :
    Except ReadError Node :=
  let draft := Draft.typed type entries
  match type with
  | .boolean | .untyped => draft.finish location
  | .integer | .number => (draft.withBounds entries).finish location
  | .string => (draft.withFacets entries).finish location
  | .array => do
    let items ← readPart (location.below "items") (Value.getSome? "items" entries)
    (draft.withItems entries items).finish location
  | .object => do
    let required ← requiredItems entries
    let properties ← readFields location (Value.getPresent? "properties" entries)
    let additional ← readPart (location.below "additionalProperties") (additionalPart? entries)
    Draft.finish location
      { draft with required, properties := distinctProperties properties, additional }
termination_by 2 * sizeOf entries + 2
decreasing_by
  · exact sizeOf_part_lt fun _ => Value.sizeOf_getSome?
  · exact sizeOf_part_lt fun _ => Value.sizeOf_getPresent?
  · exact sizeOf_part_lt fun _ => sizeOf_additionalPart?

def readPart (location : Location) (part : Option Value) : Except ReadError (Option Node) :=
  match part with
  | some v => some <$> read location v
  | none => .ok none
termination_by 2 * sizeOf part

def readFields (location : Location) (part : Option Value) :
    Except ReadError (List (Text × Node)) :=
  match part with
  | some (.map fields) => readProperties location fields
  | some _ => .error (.shape .notMapping)
  | none => .ok []
termination_by 2 * sizeOf part

def readBranches (location : Location) (v : Value) : Except ReadError (List Node) :=
  match v with
  | .list items => readItems location 0 items
  | v => if v.isPresent then do readLeaves location 0 (← v.looseItems) else .ok []
termination_by 2 * sizeOf v

def readItems (location : Location) (n : Nat) (items : List Value) :
    Except ReadError (List Node) :=
  match items with
  | [] => .ok []
  | v :: rest => do
    let first ← read (location.below (.ofNat n)) v
    return first :: (← readItems location (n + 1) rest)
termination_by 2 * sizeOf items

def readProperties (location : Location) (fields : List (Value × Value)) :
    Except ReadError (List (Text × Node)) :=
  match fields with
  | [] => .ok []
  | (k, v) :: rest => do
    let key ← k.shown
    let first ← read (location.below key) v
    return (key, first) :: (← readProperties location rest)
termination_by 2 * sizeOf fields
end

end Node

end ApiModel.Schema

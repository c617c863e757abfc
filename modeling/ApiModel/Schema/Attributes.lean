import ApiModel.Schema.Basic

/-! One flat record for all kinds of schema: an attribute that a kind does not have is absent or
empty. -/
namespace ApiModel.Schema

/-- The attributes of a schema, whatever its parts are. -/
structure Attributes (σ : Type) where
  kind : Text
  format : Option Text
  description : Option Text
  range : NumericRange
  length : LengthRange
  pattern : Option Text
  values : Option (List Value)
  itemCount : LengthRange
  items : Option σ
  required : List Text
  properties : List (Text × σ)
  additional : Option σ
  branches : List σ
  reference : Option Text

namespace Attributes

variable {σ τ : Type}

def map (f : σ → τ) (a : Attributes σ) : Attributes τ :=
  { a with
    items := a.items.map f
    properties := a.properties.map fun p => (p.1, f p.2)
    additional := a.additional.map f
    branches := a.branches.map f }

def children (a : Attributes σ) : List σ :=
  a.items.toList ++ a.properties.map Prod.snd ++ a.additional.toList ++ a.branches

end Attributes

def bareAttributes {σ : Type} (s : Schema) : Attributes σ where
  kind := s.kindWord
  format := s.format
  description := s.description
  range := .unbounded
  length := .unbounded
  pattern := none
  values := none
  itemCount := .unbounded
  items := none
  required := []
  properties := []
  additional := none
  branches := []
  reference := none

def attributes (s : Schema) : Attributes Schema :=
  match s with
  | integer _ range => { s.bareAttributes with range }
  | number _ range => { s.bareAttributes with range }
  | string _ facets =>
    { s.bareAttributes with
      length := facets.length, pattern := facets.pattern, values := facets.values }
  | array _ itemCount items => { s.bareAttributes with itemCount, items }
  | object _ required properties additional =>
    { s.bareAttributes with required, properties, additional }
  | union _ _ branches => { s.bareAttributes with branches }
  | reference name _ => { s.bareAttributes with reference := some name.val }
  | _ => s.bareAttributes

end ApiModel.Schema

import ApiModel.Document.Value
import ApiModel.Model.Constraint

/-! Schemas of a document. A reference to a named schema holds the name alone, so every schema is a
finite tree, however the named schemas refer to each other. -/
namespace ApiModel

inductive UnionKind where
  | allOf
  | anyOf
  | oneOf
  deriving DecidableEq, Repr

structure Notes where
  format : Option Text
  description : Option Text
  deriving DecidableEq, Repr, Inhabited

structure TextFacets where
  length : LengthRange
  pattern : Option Text
  values : Option (List Value)
  deriving Inhabited

abbrev SchemaName := { name : Text // name ≠ [] }

inductive Schema where
  | boolean (notes : Notes)
  | integer (notes : Notes) (range : NumericRange)
  | number (notes : Notes) (range : NumericRange)
  | string (notes : Notes) (facets : TextFacets)
  | array (notes : Notes) (length : LengthRange) (items : Option Schema)
  | object (notes : Notes) (required : List Text) (properties : List (Text × Schema))
      (additional : Option Schema)
  | union (kind : UnionKind) (description : Option Text) (branches : List Schema)
  | reference (name : SchemaName) (description : Option Text)
  | negation (description : Option Text)
  | fragment (notes : Notes)
  deriving Inhabited

namespace UnionKind

def keyword : UnionKind → Text
  | allOf => "allOf"
  | anyOf => "anyOf"
  | oneOf => "oneOf"

def word : UnionKind → Text
  | allOf => "all_of"
  | anyOf => "any_of"
  | oneOf => "one_of"

end UnionKind

namespace Schema

def kindWord : Schema → Text
  | boolean _ => "boolean"
  | integer _ _ => "integer"
  | number _ _ => "number"
  | string _ _ => "string"
  | array _ _ _ => "array"
  | object _ _ _ _ => "object"
  | union kind _ _ => kind.word
  | reference _ _ => "reference"
  | negation _ => "not"
  | fragment _ => "fragment"

def description : Schema → Option Text
  | boolean notes => notes.description
  | integer notes _ => notes.description
  | number notes _ => notes.description
  | string notes _ => notes.description
  | array notes _ _ => notes.description
  | object notes _ _ _ => notes.description
  | union _ description _ => description
  | reference _ description => description
  | negation description => description
  | fragment notes => notes.description

def format : Schema → Option Text
  | boolean notes => notes.format
  | integer notes _ => notes.format
  | number notes _ => notes.format
  | string notes _ => notes.format
  | array notes _ _ => notes.format
  | object notes _ _ _ => notes.format
  | fragment notes => notes.format
  | _ => none

/-- What a schema asks of texts; only string schemas ask for anything. -/
def facets : Schema → TextFacets
  | string _ facets => facets
  | _ => ⟨.unbounded, none, none⟩

def isPrimitive : Schema → Bool
  | boolean _ => true
  | integer _ _ => true
  | number _ _ => true
  | string _ _ => true
  | _ => false

end Schema

end ApiModel

import ApiModel.Model.Constraint

/-! Fields: types without members. Lists and maps name the types of their elements. -/
namespace ApiModel

structure EnumerationValue where
  name : Text
  value : Text
  deriving DecidableEq, Repr

inductive Field where
  | string (pattern : Option Text) (length : LengthRange) (values : List EnumerationValue)
  | integer (range : NumericRange)
  | long (range : NumericRange)
  | double (range : NumericRange)
  | boolean
  | timestamp
  | binary
  | list (element : Text) (length : LengthRange)
  | map (key value : Text) (length : LengthRange)
  deriving Inhabited

/-- Names that stand for a type without an entry of their own. -/
def builtinNames : List Text :=
  ["String", "Integer", "Boolean", "Double", "Long", "Timestamp", "Data"]

def isBuiltin (name : Text) : Bool := builtinNames.contains name

namespace Field

def typeWord : Field → Text
  | string _ _ _ => "String"
  | integer _ => "Integer"
  | long _ => "Long"
  | double _ => "Double"
  | boolean => "Boolean"
  | timestamp => "Timestamp"
  | binary => "Data"
  | list _ _ => "List"
  | map _ _ _ => "Map"

inductive Kind where
  | string
  | integer
  | long
  | double
  | boolean
  | timestamp
  | binary
  | list
  | map
  deriving DecidableEq, Repr

namespace Kind

def all : List Kind :=
  [string, integer, long, double, boolean, timestamp, binary, list, map]

def tag : Kind → Text
  | string => "string"
  | integer => "integer"
  | long => "long"
  | double => "double"
  | boolean => "boolean"
  | timestamp => "timestamp"
  | binary => "binary"
  | list => "list"
  | map => "map"

end Kind

def kind : Field → Kind
  | string _ _ _ => .string
  | integer _ => .integer
  | long _ => .long
  | double _ => .double
  | boolean => .boolean
  | timestamp => .timestamp
  | binary => .binary
  | list _ _ => .list
  | map _ _ _ => .map

def isEnumeration : Field → Bool
  | string _ _ values => !values.isEmpty
  | _ => false

def referred : Field → List Text
  | list element _ => [element]
  | map key value _ => [key, value]
  | _ => []

/-- Fields are the same if all their parts are; bounds are compared by value. -/
def same : Field → Field → Bool
  | string p l vs, string q m ws => p == q && l == m && vs == ws
  | integer r, integer s => r.same s
  | long r, long s => r.same s
  | double r, double s => r.same s
  | boolean, boolean => true
  | timestamp, timestamp => true
  | binary, binary => true
  | list e l, list f m => e == f && l == m
  | map k v l, map k' v' m => k == k' && v == v' && l == m
  | _, _ => false

end Field

end ApiModel

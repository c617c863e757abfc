import ApiModel.Document.Calendar
import ApiModel.Number.Decimal

/-! Values of a document. Integers are exact and differ from decimals, mappings keep their order,
and their keys may be any scalar. A collection may contain itself: there it is written as a loop. -/
namespace ApiModel

inductive Collection where
  | list
  | map
  | pair
  deriving DecidableEq, Repr

inductive Value where
  | null
  | bool (b : Bool)
  | int (n : Int)
  | float (x : Decimal)
  | str (s : Text)
  | list (items : List Value)
  | map (entries : List (Value × Value))
  | pair (first second : Value)
  | set (items : List Value)
  | date (d : Date)
  | moment (t : Moment)
  | bytes (data : List UInt8)
  /-- A collection in which this value stands, so many levels above it. -/
  | loop (kind : Collection) (levels : Nat)
  deriving Inhabited

namespace Value

def kindWord : Value → Text
  | null => "NoneType"
  | bool _ => "bool"
  | int _ => "int"
  | float _ => "float"
  | str _ => "str"
  | list _ => "list"
  | map _ => "dict"
  | pair _ _ => "tuple"
  | set _ => "set"
  | date _ => "date"
  | moment _ => "datetime"
  | bytes _ => "bytes"
  | loop .list _ => "list"
  | loop .map _ => "dict"
  | loop .pair _ => "tuple"

/-- Values that stand for something: not null, false, zero or empty. -/
def isPresent : Value → Bool
  | null => false
  | bool b => b
  | int n => n != 0
  | float x => !x.isZero
  | str s => !s.isEmpty
  | list items => !items.isEmpty
  | map entries => !entries.isEmpty
  | pair _ _ => true
  | set items => !items.isEmpty
  | date _ => true
  | moment _ => true
  | bytes data => !data.isEmpty
  | loop _ _ => true

/-- Values that may be keys: scalars and pairs of such. -/
def isKey : Value → Bool
  | list _ => false
  | map _ => false
  | set _ => false
  | loop _ _ => false
  | pair a b => a.isKey && b.isKey
  | _ => true

def asInt? : Value → Option Int
  | bool b => some (if b then 1 else 0)
  | int n => some n
  | _ => none

/-- Equality of keys: numbers are equal by value, whatever their kind. -/
def sameKey : Value → Value → Bool
  | null, null => true
  | str a, str b => a == b
  | float x, float y => x.same y
  | float x, v => (v.asInt?.map x.equalsInt).getD false
  | v, float x => (v.asInt?.map x.equalsInt).getD false
  | pair a b, pair c d => a.sameKey c && b.sameKey d
  | date a, date b => a == b
  | moment a, moment b => a.same b
  | bytes a, bytes b => a == b
  | a, b => match a.asInt?, b.asInt? with
    | some m, some n => m == n
    | _, _ => false

def text? : Value → Option Text
  | str s => some s
  | _ => none

def isText (text : Text) : Value → Bool
  | str s => s == text
  | _ => false

def lookupText (key : Text) : List (Value × Value) → Option Value
  | [] => none
  | (k, v) :: rest => if k.isText key then some v else lookupText key rest

/-- Puts an entry into a mapping: in place of an equal key, which stays, else at the end. -/
def putKey {α : Type} (key : Value) (value : α) : List (Value × α) → List (Value × α)
  | [] => [(key, value)]
  | (k, v) :: rest =>
    if k.sameKey key then (k, value) :: rest else (k, v) :: putKey key value rest

def ofEntries (entries : List (Text × Value)) : Value :=
  map (entries.map fun e => (str e.1, e.2))

def ofTexts (texts : List Text) : Value :=
  list (texts.map str)

def ofText? : Option Text → Value
  | some s => str s
  | none => null

end Value

end ApiModel

import ApiModel.Container.OrderedMap
import ApiModel.Container.TextSet
import ApiModel.Validation.Scalar

/-! Lists, sets, mappings and records from data. A field of a record may be spelled in camel case or
in snake case; the camel case wins, unknown fields are passed over. A fault is placed at the
spelling that was found. -/
namespace ApiModel.Validation

variable {α : Type}

def nullable (reader : Value → Checked α) : Value → Checked (Option α)
  | .null => .accepted none
  | v => some <$> reader v

def itemsFrom (reader : Value → Checked α) : Nat → List Value → Checked (List α)
  | _, [] => .accepted []
  | n, v :: rest => List.cons <$> (reader v).under (.index n) <*> itemsFrom reader (n + 1) rest

def list (reader : Value → Checked α) : Value → Checked (List α)
  | .list items => itemsFrom reader 0 items
  | .pair a b => itemsFrom reader 0 [a, b]
  | .set items => itemsFrom reader 0 items
  | _ => .flawed .notList

def textSet : Value → Checked TextSet
  | .list items => TextSet.ofList <$> itemsFrom text 0 items
  | .pair a b => TextSet.ofList <$> itemsFrom text 0 [a, b]
  | .set items => TextSet.ofList <$> itemsFrom text 0 items
  | _ => .flawed .notSet

/-- The key of an entry; a fault is placed below the key itself. -/
def entryKey (key : Value) : Checked Text :=
  ((text key).under (.name "[key]")).under (Step.ofKey key)

def entries (reader : Value → Checked α) : List (Value × Value) → Checked (List (Text × α))
  | [] => .accepted []
  | (k, v) :: rest =>
    (fun key value more => (key, value) :: more)
      <$> entryKey k <*> (reader v).under (Step.ofKey k) <*> entries reader rest

def textMap (reader : Value → Checked α) : Value → Checked (OrderedMap α)
  | .map es => OrderedMap.ofList <$> entries reader es
  | _ => .flawed .notMapping

def snakeCase (name : Text) : Text :=
  name.flatMap fun (c : CodePoint) => if 'A' ≤ c ∧ c ≤ 'Z' then ['_', c.toLower] else [c]

abbrev Entries := List (Value × Value)

def fieldEntry? (name : Text) (es : Entries) : Option (Text × Value) :=
  [name, snakeCase name].findSome? fun key => (Value.lookupText key es).map fun v => (key, v)

def field (name : Text) (reader : Value → Checked α) (es : Entries) : Checked α :=
  match fieldEntry? name es with
  | some (key, v) => (reader v).under (.name key)
  | none => (Checked.flawed .missing).under (.name name)

def fieldOr (name : Text) (standIn : α) (reader : Value → Checked α) (es : Entries) :
    Checked α :=
  match fieldEntry? name es with
  | some (key, v) => (reader v).under (.name key)
  | none => .accepted standIn

def record (reader : Entries → Checked α) : Value → Checked α
  | .map es => reader es
  | _ => .flawed .notRecord

end ApiModel.Validation

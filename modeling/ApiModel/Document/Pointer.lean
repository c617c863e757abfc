import ApiModel.Document.Error
import ApiModel.Document.Loop
import ApiModel.Number.Reading
import ApiModel.Text.Segment

/-! Pointers from one place of a document to another. A pointer to a named schema stands for that
name; any other pointer stands for the value that it leads to. -/
namespace ApiModel.Pointer

/-- Undoes the escapes of a segment: `~1` is a slash, `~0` a tilde. -/
def unescape (segment : Text) : Text :=
  Text.replacePair '~' '0' ['~'] (Text.replacePair '~' '1' ['/'] segment)

def schemaLeads : List Text := ["#/components/schemas/", "#/definitions/"]

/-- The name behind a lead: one segment that is not empty. -/
def nameBehind? (lead pointer : Text) : Option Text :=
  match Text.dropLeading? lead pointer with
  | some rest =>
    if rest.isEmpty || rest.contains '/' then none else some (unescape rest)
  | none => none

def schemaName? (pointer : Text) : Option Text :=
  schemaLeads.findSome? fun lead => nameBehind? lead pointer

theorem schemaName?_ne_nil {pointer name : Text} (named : schemaName? pointer = some name) :
    name ≠ [] := by
  obtain ⟨lead, -, behind⟩ := List.exists_of_findSome?_eq_some named
  unfold nameBehind? at behind
  split at behind
  · split at behind
    · cases behind
    · rename_i rest _ single
      cases behind
      have some : rest ≠ [] := by
        rintro rfl
        exact single rfl
      exact Text.replacePair_ne_nil (Text.replacePair_ne_nil some (by simp)) (by simp)
  · cases behind

/-- The item of a list at an index; negative ones count from the end. -/
def itemAt? (items : List Value) (index : Int) : Option Value :=
  let place := if index < 0 then index + items.length else index
  if place < 0 then none else items[place.toNat]?

def step (pointer segment : Text) : Value → Except DocumentError Value
  | .map entries =>
    match Value.lookupText segment entries with
    | some v => .ok (Value.within (.map entries) v)
    | none => .error (.missingSegment pointer segment)
  | .list items =>
    match (Number.integer? segment).bind (itemAt? items) with
    | some v => .ok (Value.within (.list items) v)
    | none => .error (.badIndex pointer segment)
  | v => .error (.notContainer pointer v.kindWord)

def walk (pointer : Text) : List Text → Value → Except DocumentError Value
  | [], v => .ok v
  | segment :: rest, v =>
    match step pointer (unescape segment) v with
    | .ok next => walk pointer rest next
    | .error e => .error e

def follow (root : Value) (pointer : Text) : Except DocumentError Value :=
  match Text.dropLeading? "#/" pointer with
  | some rest => walk pointer (Text.split '/' rest) root
  | none => .error (.externalPointer pointer)

def of? (entries : List (Value × Value)) : Option Text :=
  match Value.lookupText "$ref" entries with
  | some (.str pointer) => some pointer
  | _ => none

mutual
def allOf : Value → List Text
  | .map entries => (of? entries).toList ++ allOfEntries entries
  | .list items => allOfItems items
  | _ => []

def allOfItems : List Value → List Text
  | [] => []
  | v :: rest => allOf v ++ allOfItems rest

def allOfEntries : List (Value × Value) → List Text
  | [] => []
  | (_, v) :: rest => allOf v ++ allOfEntries rest
end

end ApiModel.Pointer
